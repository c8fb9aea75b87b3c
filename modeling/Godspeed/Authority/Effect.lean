import Godspeed.Authority.Ground

/-!
# Every syscall is made of moves

One lemma per syscall, built from one lemma per helper it uses.  What a task
does within its own table comes out as `CapMoves`, which the spawn path needs
apart; the lemmas on whole syscalls say `Moves`.
-/

namespace Godspeed.Authority

open Capability Ipc Option RoutingTable State

section Helpers

variable {s s' : State} {slot : Slot} {task : Task} {cap : Cap} {index : Nat} {required : Rights}
  {id : Nat} {rights : Rights}

lemma setTask_self (h : s.tasks slot = some task) : s.setTask slot (some task) = s := by
  unfold setTask
  rw [← h, Function.update_eq_self]

lemma lookupCap_eq_ok (h : s.lookupCap slot index required = .ok cap) :
    ∃ task, s.tasks slot = some task ∧ task.caps.Holds cap ∧ cap.rights.contains required := by
  unfold lookupCap at h
  split at h
  next task htask =>
    exact ⟨task, htask, CapTable.holds_of_get h, (CapTable.get_eq_ok_iff.mp h).2.2⟩
  · cases h

lemma granted_of_lookupCap (h : s.lookupCap slot index .GRANT = .ok cap) : s.Granted cap := by
  obtain ⟨task, htask, hholds, hgrant⟩ := lookupCap_eq_ok h
  exact .inl ⟨slot, task, htask, hholds, hgrant⟩

lemma insertCap_spec (h : s.insertCap slot cap = some (s', index)) :
    ∃ task caps, s.tasks slot = some task ∧
      s' = s.setTask slot (some { task with caps := caps }) ∧ caps.used = task.caps.used + 1 ∧
      ∀ other, caps.Holds other ↔ task.caps.Holds other ∨ other = cap := by
  unfold insertCap at h
  split at h
  next task htask =>
    obtain ⟨⟨caps, i⟩, hins, heq⟩ := map_eq_some_iff.mp h
    cases heq
    exact ⟨task, caps, htask, rfl, CapTable.used_insert hins,
      fun _ => CapTable.holds_insert hins⟩
  · cases h

lemma insertCap_isSome (htask : s.tasks slot = some task) (hused : task.caps.used < maxCapsPerTask)
    (cap : Cap) : (s.insertCap slot cap).isSome := by
  unfold insertCap
  simp [htask, CapTable.insert_isSome hused]

lemma move_of_insertCap {old : Cap} (h : s.insertCap slot cap = some (s', index))
    (hgrant : s.Granted old)
    (hcap : cap = old ∨ (isDelegated old.resourceId ∧ cap = old.withoutGrant)) :
    CapMove slot s s' := by
  obtain ⟨task, caps, htask, rfl, -, hcaps⟩ := insertCap_spec h
  exact .copy task _ cap old htask ⟨rfl, rfl, rfl, rfl, rfl, rfl⟩ (fun other => (hcaps other).mp)
    hgrant hcap

lemma moves_removeCap (s : State) (slot : Slot) (index : Nat) :
    CapMoves slot s (s.removeCap slot index) := by
  unfold removeCap
  split
  next task htask =>
    exact .single (.tidy task _ htask ⟨rfl, rfl, rfl, rfl, rfl, rfl⟩
      fun _ => CapTable.holds_of_holds_remove)
  · exact .refl

lemma mintCap_spec (h : s.mintCap id rights = some (cap, s')) :
    ∃ ledger, s.ledger.mintCap id rights = some (cap, ledger) ∧ s' = { s with ledger := ledger } := by
  obtain ⟨⟨minted, ledger⟩, hmint, heq⟩ := map_eq_some_iff.mp h
  cases heq
  exact ⟨ledger, hmint, rfl⟩

section

variable (htask : s.tasks slot = some task)
include htask

lemma move_of_mint_insert {minted : State}
    (hmintable : Mintable s task id rights) (hmint : s.mintCap id rights = some (cap, minted))
    (hins : minted.insertCap slot cap = some (s', index)) : CapMove slot s s' := by
  obtain ⟨ledger, hledger, rfl⟩ := mintCap_spec hmint
  obtain ⟨found, caps, hfound, rfl, -, hcaps⟩ := insertCap_spec hins
  cases htask.symm.trans hfound
  exact .mint task _ id rights cap ledger htask ⟨rfl, rfl, rfl, rfl, rfl, rfl⟩ hledger
    (fun other => (hcaps other).mp) hmintable

lemma move_of_mint {minted : State}
    (hmintable : Mintable s task id rights) (hmint : s.mintCap id rights = some (cap, minted)) :
    CapMove slot s minted := by
  obtain ⟨ledger, hledger, rfl⟩ := mintCap_spec hmint
  have hmove := CapMove.mint task task id rights cap ledger htask (.refl task) hledger
    (fun _ hother => .inl hother) hmintable
  have hself : ({ s with ledger := ledger } : State).setTask slot (some task) =
      { s with ledger := ledger } := setTask_self htask
  rwa [hself] at hmove

lemma move_of_bookkeeping {task' : Task}
    (hsame : SameIdentity task task') (hcaps : task'.caps = task.caps) :
    CapMove slot s (s.setTask slot (some task')) :=
  .tidy task task' htask hsame fun _ h => hcaps ▸ h

end

end Helpers

section Receive

variable {leaky : Prop} {s t : State} {slot : Slot}

lemma installReceived_routing (routing : RoutingTable Message) (cap : Cap) :
    installReceived slot { s with routing := routing } cap =
      { installReceived slot s cap with routing := routing } := by
  unfold installReceived insertCap removeCap setTask
  cases htask : s.tasks slot with
  | none => rfl
  | some task =>
    cases hins : task.caps.insert (narrowForReceiver cap) with
    | none => simp [hins]
    | some got =>
      simp only [hins, map_some, Function.update_self]
      split <;> rfl

lemma installReceivedCaps_routing (routing : RoutingTable Message) (msg : Message) :
    installReceivedCaps { s with routing := routing } slot msg =
      { installReceivedCaps s slot msg with routing := routing } := by
  unfold installReceivedCaps
  induction msg.caps generalizing s with
  | nil => rfl
  | cons cap caps ih =>
    rw [List.foldl_cons, List.foldl_cons, installReceived_routing, ih]

lemma narrowForReceiver_cases (cap : Cap) : narrowForReceiver cap = cap ∨
      (isDelegated cap.resourceId ∧ narrowForReceiver cap = cap.withoutGrant) := by
  unfold narrowForReceiver
  split
  next hdelegated =>
    exact .inr ⟨hdelegated, rfl⟩
  · exact .inl rfl

lemma moves_installReceived {cap : Cap} (hgrant : s.Granted cap) :
    CapMoves slot s (installReceived slot s cap) := by
  unfold installReceived
  split
  · exact .refl
  rename_i s' index hins
  have hfirst : CapMoves slot s s' :=
    .single (move_of_insertCap hins hgrant (narrowForReceiver_cases cap))
  split
  · exact hfirst
  rename_i task htask
  split
  · exact hfirst.tail (move_of_bookkeeping htask ⟨rfl, rfl, rfl, rfl, rfl, rfl⟩ rfl)
  · exact hfirst.trans (moves_removeCap s' slot index)

lemma moves_foldl_installReceived {msg : Message} {caps : List Cap}
    (hflight : s.routing.InFlight msg) (hcaps : ∀ cap ∈ caps, cap ∈ msg.caps) :
    CapMoves slot s (caps.foldl (installReceived slot) s) := by
  induction caps generalizing s with
  | nil => exact .refl
  | cons cap caps ih =>
    have hgrant : s.Granted cap := .inr ⟨msg, hflight, hcaps cap (by simp)⟩
    have hfirst : CapMoves slot s (installReceived slot s cap) := moves_installReceived hgrant
    refine hfirst.trans (ih ?_ fun c hc => hcaps c (by simp [hc]))
    rw [hfirst.frame.routing]
    exact hflight

lemma moves_installReceivedCaps {msg : Message} (hflight : s.routing.InFlight msg) :
    CapMoves slot s (installReceivedCaps s slot msg) :=
  moves_foldl_installReceived hflight fun _ h => h

lemma CapMoves.route (h : CapMoves slot s t) {routing : RoutingTable Message}
    (hflight : ∀ msg, routing.InFlight msg → s.routing.InFlight msg)
    (hlive : RoutingTable.SameLive s.routing routing) :
    Moves leaky s { t with routing := routing } := by
  refine h.moves.tail (.route routing (fun msg hmsg => .inl ?_) ?_)
  · rw [h.frame.routing]
    exact hflight msg hmsg
  · rw [h.frame.routing]
    exact hlive

lemma moves_route {routing : RoutingTable Message}
    (hflight : ∀ msg, routing.InFlight msg → s.routing.InFlight msg)
    (hlive : RoutingTable.SameLive s.routing routing) :
    Moves leaky s { s with routing := routing } :=
  .single (.route routing (fun msg hmsg => .inl (hflight msg hmsg)) hlive)

lemma moves_handleRecv (s : State) (slot : Slot) (index : Nat) (mode : RecvMode) :
    Moves leaky s (handleRecv s slot index mode).1 := by
  unfold handleRecv
  split
  · exact .refl
  rename_i cap _
  have hflight : ∀ msg, (s.routing.dequeue cap.resourceId cap.generation
      (some slot)).1.InFlight msg → s.routing.InFlight msg :=
    fun _ => inFlight_of_dequeue
  have hlive := s.routing.sameLive_dequeue cap.resourceId cap.generation (some slot)
  split
  next routing msg sender hdeq =>
    rw [hdeq] at hflight hlive
    rw [installReceivedCaps_routing]
    exact (moves_installReceivedCaps (inFlight_of_dequeue_ok hdeq)).route hflight hlive
  next routing hdeq =>
    rw [hdeq] at hflight hlive
    exact moves_route hflight hlive
  next routing e _ hdeq =>
    rw [hdeq] at hflight hlive
    exact moves_route hflight hlive

lemma moves_endCall (s : State) (slot : Slot) : CapMoves slot s (endCall s slot) := by
  unfold endCall
  split
  · exact .refl
  next task htask =>
    exact .single (move_of_bookkeeping htask ⟨rfl, rfl, rfl, rfl, rfl, rfl⟩ rfl)

lemma moves_handleCallReply (s : State) (slot : Slot) :
    Moves leaky s (handleCallReply s slot).1 := by
  unfold handleCallReply
  split
  · exact .refl
  rename_i call _
  have hflight : ∀ msg, (s.routing.dequeueReply call.recvEp call.recvGen
      (fun msg => msg.senderEp == call.target)).1.InFlight msg → s.routing.InFlight msg :=
    fun _ => inFlight_of_dequeueReply
  have hlive := s.routing.sameLive_dequeueReply call.recvEp call.recvGen
    (fun msg => msg.senderEp == call.target)
  split
  next routing msg sender hdeq =>
    rw [hdeq] at hflight hlive
    rw [installReceivedCaps_routing]
    refine Relation.ReflTransGen.trans ?_ (moves_endCall _ slot).moves
    exact (moves_installReceivedCaps (inFlight_of_dequeueReply_ok hdeq)).route hflight hlive
  next routing hdeq =>
    rw [hdeq] at hflight hlive
    exact moves_route hflight hlive
  next routing e _ hdeq =>
    rw [hdeq] at hflight hlive
    refine Relation.ReflTransGen.trans ?_ (moves_endCall _ slot).moves
    exact moves_route hflight hlive

end Receive

section Send

variable {leaky : Prop} {s : State} {slot : Slot}

lemma move_enqueue (s : State) (endpoint : Nat) (msg : Message) (generation : Option Nat)
    (sender : Option Slot) (hgrant : ∀ cap ∈ msg.caps, s.Granted cap) :
    Move leaky s { s with routing := (s.routing.enqueue endpoint msg generation sender).1 } := by
  refine .route _ (fun other hother => ?_) (s.routing.sameLive_enqueue endpoint msg generation sender)
  rcases inFlight_of_enqueue hother with hold | rfl
  · exact .inl hold
  · exact .inr hgrant

lemma moves_handleSend (s : State) (slot : Slot) (index : Nat) (blocking : Bool) :
    Moves leaky s (handleSend s slot index blocking).1 := by
  unfold handleSend
  split
  · exact .refl
  rename_i cap _
  have hmove := @move_enqueue leaky s cap.resourceId (buildMessage s slot [])
    (some cap.generation) (if blocking then some slot else none) (by simp [buildMessage])
  split
  next hqueue =>
    rw [hqueue] at hmove
    exact .single hmove
  next hqueue =>
    rw [hqueue] at hmove
    exact .single hmove
  next hqueue =>
    rw [hqueue] at hmove
    exact .single hmove

lemma moves_deliver {carried : Cap} (hgrant : s.Granted carried) (endpoint generation : Nat)
    (carriedSlot : Nat) :
    Moves leaky s (deliver s slot endpoint generation carried carriedSlot).1 := by
  unfold deliver
  have hmove := @move_enqueue leaky s endpoint (buildMessage s slot [carried])
    (some generation) (some slot) (by simpa [buildMessage] using hgrant)
  split
  next hqueue =>
    rw [hqueue] at hmove
    exact .head hmove (moves_removeCap _ slot carriedSlot).moves
  next hqueue =>
    rw [hqueue] at hmove
    exact .head hmove (moves_removeCap _ slot carriedSlot).moves
  next hqueue =>
    rw [hqueue] at hmove
    exact .single hmove

lemma CapError.code_ne_zero (e : CapError) : e.code ≠ 0 := by
  cases e <;> decide

/-- What a transfer to `endpoint` comes to: an error that changes nothing, or a
delivery; a Call whose request was delivered goes on to wait for its reply. -/
inductive Transfers (s : State) (slot : Slot) (endpoint : Option Nat) (result : State × Reply) :
    Prop
  | refused (code : Int) (hcode : code ≠ 0) (hresult : result = (s, .code code))
  | delivers (target generation carriedSlot : Nat) (cap recv peer : Cap)
      (htarget : endpoint = some target) (hcarried : s.lookupCap slot carriedSlot .GRANT = .ok cap)
      (hresult : result = deliver s slot target generation cap carriedSlot ∨
        (∀ code, code ≠ 0 → (deliver s slot target generation cap carriedSlot).2 ≠ .code code) ∧
          result.1 = handleCall.awaitReply slot
            (deliver s slot target generation cap carriedSlot).1 recv peer)

lemma Transfers.of_error {endpoint : Option Nat} (e : CapError) :
    Transfers s slot endpoint (s, .code e.code) :=
  .refused e.code (CapError.code_ne_zero e) rfl

lemma transfers_handleSendWithCap (s : State) (slot : Slot) (endpointSlot grantSlot : Nat) :
    Transfers s slot ((s.lookupCap slot endpointSlot .SEND).toOption.map Cap.resourceId)
      (handleSendWithCap s slot endpointSlot grantSlot) := by
  unfold handleSendWithCap
  split
  · exact .of_error _
  rename_i target htarget
  split
  · exact .of_error _
  next granted hgrant =>
    exact .delivers _ _ _ granted target target (by simp [htarget, Except.toOption]) hgrant
      (.inl rfl)

lemma transfers_handleCall (s : State) (slot : Slot) (targetSlot replySlot recvSlot : Nat) :
    Transfers s slot ((s.lookupCap slot targetSlot .SEND).toOption.map Cap.resourceId)
      (handleCall s slot targetSlot replySlot recvSlot) := by
  unfold handleCall
  split
  · exact .of_error _
  rename_i target htarget
  split
  · exact .of_error _
  rename_i reply hreply
  split
  · exact .of_error _
  rename_i recv _
  refine .delivers target.resourceId target.generation replySlot reply recv target
    (by simp [htarget, Except.toOption]) hreply ?_
  split
  next s' value hres =>
    rw [hres]
    split
    next hzero =>
      refine .inr ⟨fun code hcode heq => hcode ?_, rfl⟩
      cases heq
      exact hzero
    · exact .inl rfl
  next s' reply' hother hres =>
    rw [hres]
    exact .inr ⟨fun code _ heq => hother code heq, rfl⟩

lemma transfers_handleResourceInvoke (s : State) (slot : Slot) (fileSlot replySlot : Nat)
    (right : Rights) :
    Transfers s slot
      ((s.lookupCap slot fileSlot right).toOption.bind fun file => s.band.ownerOf file.resourceId)
      (handleResourceInvoke s slot fileSlot replySlot right) := by
  unfold handleResourceInvoke
  split
  · exact .of_error _
  rename_i file hfile
  split
  · split
    · exact .refused _ (by decide) rfl
    rename_i owner howner
    split
    · exact .of_error _
    next reply hreply =>
      exact .delivers owner _ _ reply file file (by simp [hfile, howner, Except.toOption])
        hreply (.inl rfl)
  · exact .of_error .capWrongScope

lemma moves_awaitReply (s : State) (slot : Slot) (recv target : Cap) :
    CapMoves slot s (handleCall.awaitReply slot s recv target) := by
  unfold handleCall.awaitReply
  split
  · exact .refl
  next task htask =>
    exact .single (move_of_bookkeeping htask ⟨rfl, rfl, rfl, rfl, rfl, rfl⟩ rfl)

lemma Transfers.moves {endpoint : Option Nat} {result : State × Reply}
    (h : Transfers s slot endpoint result) : Moves leaky s result.1 := by
  cases h with
  | refused code hcode hres => exact hres ▸ .refl
  | delivers target generation carriedSlot cap recv peer htarget hcarried hres =>
    have hdeliver := @moves_deliver leaky s slot cap (granted_of_lookupCap hcarried) target
      generation carriedSlot
    rcases hres with rfl | ⟨-, hawait⟩
    · exact hdeliver
    · rw [hawait]
      exact hdeliver.trans (moves_awaitReply _ slot recv peer).moves

end Send

section Tables

variable {leaky : Prop} {s s' : State} {slot : Slot} {reply : Reply}

lemma moves_handleDeriveCap (s : State) (slot : Slot) (index : Nat) :
    CapMoves slot s (handleDeriveCap s slot index).1 := by
  unfold handleDeriveCap
  split
  · exact .refl
  rename_i held hlook
  split
  next s' newSlot hins =>
    exact .single (move_of_insertCap hins (granted_of_lookupCap hlook) (.inl rfl))
  · exact .refl

lemma moves_handleTakePendingCap (s : State) (slot : Slot) :
    CapMoves slot s (handleTakePendingCap s slot).1 := by
  unfold handleTakePendingCap
  split
  · exact .refl
  rename_i task htask
  split
  · exact .refl
  · exact .single (move_of_bookkeeping htask ⟨rfl, rfl, rfl, rfl, rfl, rfl⟩ rfl)

lemma Ground.mintable (h : Ground s) {name : Name} {endpoint : Nat} {task : Task}
    {rights : Rights} (hlook : s.names.lookup name = some endpoint) :
    Mintable s task endpoint rights := by
  obtain ⟨owner, found, hfound, hep, -⟩ := h.named name endpoint hlook
  exact .endpoint owner found hfound (.inl hep)

lemma exists_task_of_holdsResource {gate : Gate} {required : Rights}
    (h : s.holdsResource slot gate required) : ∃ task, s.tasks slot = some task := by
  unfold holdsResource at h
  cases htask : s.tasks slot with
  | none => simp [htask] at h
  | some task => exact ⟨task, rfl⟩

lemma moves_handleAcquireSendCap (h : Ground s) {name : Name} {includeGrant : Bool}
    (hstep : handleAcquireSendCap s slot name includeGrant = some (s', reply)) :
    CapMoves slot s s' := by
  unfold handleAcquireSendCap at hstep
  simp only at hstep
  split at hstep
  next hallowed =>
    have hexists : ∃ task, s.tasks slot = some task := by
      rcases (Bool.or_eq_true _ _).mp hallowed with hbroad | hdeclared
      · exact exists_task_of_holdsResource hbroad
      · cases htask : s.tasks slot with
        | none => simp [htask] at hdeclared
        | some task => exact ⟨task, rfl⟩
    obtain ⟨task, htask⟩ := hexists
    split at hstep
    · cases hstep
      exact .refl
    rename_i endpoint hlook
    split at hstep
    · cases hstep
    rename_i cap minted hmint
    split at hstep
    next inserted index hins =>
      cases hstep
      exact .single (move_of_mint_insert htask (h.mintable hlook) hmint hins)
    · cases hstep
      exact .single (move_of_mint htask (h.mintable hlook) hmint)
  · cases hstep
    exact .refl

lemma moves_revokeOwned {id caller : Nat} {revoked : Bool}
    (hstep : revokeOwned s id caller = some (s', revoked)) : Moves leaky s s' := by
  unfold revokeOwned at hstep
  split at hstep
  · cases hstep
    exact .refl
  rename_i bandSlot hslot
  obtain rfl := slotOf_eq_some_iff.mp hslot
  split at hstep
  · obtain ⟨ledger, hrevoke, heq⟩ := map_eq_some_iff.mp hstep
    cases heq
    exact .single (.withdraw bandSlot _ ledger (Ledger.ends_of_revoke hrevoke) rfl)
  · cases hstep
    exact .refl

lemma moves_handleResourceRevoke {id : Nat}
    (hstep : handleResourceRevoke s slot id = some (s', reply)) : Moves leaky s s' := by
  unfold handleResourceRevoke at hstep
  split at hstep
  · cases hstep
    exact .refl
  · obtain ⟨⟨revoked, flag⟩, hrevoke, heq⟩ := map_eq_some_iff.mp hstep
    cases heq
    exact moves_revokeOwned hrevoke

/-- A mint of a delegated resource is a claim and a mint into the caller's table,
or a refusal when the table is full. -/
lemma moves_handleResourceMint {rightsBits : BitVec 8} {writable : Bool}
    (hstep : handleResourceMint s slot rightsBits writable = some (s', reply)) :
    Moves leaky s s' := by
  unfold handleResourceMint at hstep
  split at hstep
  next hholds =>
    obtain ⟨task, htask⟩ := exists_task_of_holdsResource hholds
    split at hstep
    · cases hstep
      exact .refl
    rename_i owner _
    split at hstep
    · cases hstep
      exact .refl
    rename_i bandSlot band hclaim
    split at hstep
    · cases hstep
    rename_i ledger hreg
    have hclaimed : Move leaky s { s with band := band, ledger := ledger } :=
      .claim bandSlot owner band ledger hclaim hreg
    unfold handleResourceMint.mintDelegated at hstep
    split at hstep
    · cases hstep
    rename_i cap minted hmint
    split at hstep
    · cases hstep
      obtain ⟨mintedLedger, hledger, rfl⟩ := mintCap_spec hmint
      exact .single (.refuse bandSlot owner band ledger mintedLedger _ cap hclaim hreg hledger)
    rename_i inserted index hins
    have howned : band.owner bandSlot ≠ none := by
      simp [(Band.claim_spec hclaim).2]
    have hmove := move_of_mint_insert (s := { s with band := band, ledger := ledger })
      htask (.delegated bandSlot rfl howned) hmint hins
    have hinserted : Moves leaky s inserted := .head hclaimed (.single (.caps slot _ hmove))
    split at hstep
    · cases hstep
      exact hinserted
    obtain ⟨⟨revoked, flag⟩, hrevoke, heq⟩ := map_eq_some_iff.mp hstep
    cases heq
    exact (hinserted.trans (moves_removeCap inserted slot index).moves).trans
      (moves_revokeOwned hrevoke)
  · cases hstep
    exact .refl

end Tables

end Godspeed.Authority
