import Godspeed.Tcp.Owners

/-!
# What a step does to the table

Every step of the service is one of six (`Turn`): the connections are worked on or released,
an outbound connection takes a slot, a peer's SYN takes one, an unclaimed connection is handed
to a client, a listener is registered, or one is closed.  What a run keeps of the table is
proved by cases on it.
-/

namespace Godspeed.Tcp

open Capability Issue Slots Transition Desk Function Option Conn

/-- A connection that is worked on: it stays what it is, a closed one stays closed, and one
that nobody has claimed waits on or is closed. -/
structure Conn.Works (c c' : Conn) : Prop where
  face : c'.face = c.face
  closed : c.state = .closed → c'.state = .closed
  waiting : c.rid = 0 → c.Waiting → c'.state = .closed ∨ c'.Waiting

/-- A connection is worked on, or an owned one is released. -/
def Conn.Keeps (c c' : Conn) : Prop :=
  c.Works c' ∨ (c.rid ≠ 0 ∧ c'.rid = 0 ∧ c'.state = .closed)

/-- The address and the port that the step connects to. -/
def Desk.Act.dials : Act → Option (ℕ × ℕ)
  | .connect _ _ _ _ dst dport _ | .transact _ _ dst dport _ => some (dst, dport)
  | _ => none

/-- What a step does to the connections and the listeners. -/
inductive Turn (d : Desk) : Act → Desk → Prop
  | keeps {a : Act} {d' : Desk}
      (hslots : ∀ i, (d.table.conns i).Keeps (d'.table.conns i))
      (hdoors : ∀ k, (d'.table.listeners k).port = (d.table.listeners k).port)
      (hsince : d'.since = d.since) (hborn : d'.born = d.born) (hhanded : d'.handed = d.handed) :
      Turn d a d'
  | dials {a : Act} {rid dst dport : ℕ} {d' : Desk} (hdials : a.dials = some (dst, dport))
      (i : Fin maxConns)
      (hslots : ∀ j, j ≠ i → (d.table.conns j).Keeps (d'.table.conns j))
      (hslot : (d'.table.conns i).face = ⟨rid, false, d.table.nextPort, dst, dport⟩)
      (hrid : rid ≠ 0)
      (hdoors : d'.table.listeners = d.table.listeners)
      (hsince : d'.since = d.since) (hborn : d'.born = d.born) (hhanded : d'.handed = d.handed) :
      Turn d a d'
  | opens {now : ℕ} {iss : Seq} {seg : Seg} {d' : Desk} (i : Fin maxConns)
      (hfree : d.table.freeSlot = some i) (hanswers : d.table.answers seg = true)
      (hconns : d'.table.conns = update d.table.conns i
        ((d.table.conns i).passiveOpen ((d.time now).getD 0) iss seg))
      (hdoors : d'.table.listeners = d.table.listeners)
      (hsince : d'.since = d.since) (hborn : d'.born = update d.born i d.tick)
      (hhanded : d'.handed = d.handed) :
      Turn d (.frame now iss seg) d'
  | claims {client rid crid : ℕ} {right : Rights} {d' : Desk} (k : Fin maxListen)
      (i : Fin maxConns) (hholds : d.holds client rid right = true)
      (hdoor : d.table.listener rid = some k) (hpending : d.table.pendingAccept = some i)
      (hrid : crid ≠ 0)
      (hconns : d'.table.conns = update d.table.conns i { d.table.conns i with rid := crid })
      (hdoors : d'.table.listeners = d.table.listeners)
      (hsince : d'.since = d.since) (hborn : d'.born = d.born)
      (hhanded : d'.handed =
        { client
          port := (d.table.listeners k).port
          since := d.since k
          localPort := (d.table.conns i).localPort
          born := d.born i
          entitled := d.entitled client (d.table.conns i).localPort } :: d.handed) :
      Turn d (.accept client rid right (some crid) true) d'
  | registers {client port rid : ℕ} {d' : Desk} (k : Fin maxListen) (hport : port ≠ 0)
      (hfree : (d.table.listeners k).port = 0)
      (hconns : d'.table.conns = d.table.conns)
      (hdoors : d'.table.listeners = update d.table.listeners k ⟨port, rid⟩)
      (hsince : d'.since = update d.since k d.tick) (hborn : d'.born = d.born)
      (hhanded : d'.handed = d.handed) :
      Turn d (.listen client port (some rid) true) d'
  | closes {client rid : ℕ} {right : Rights} {d' : Desk} (k : Fin maxListen)
      (hdoor : d.table.listener rid = some k)
      (hconns : d'.table.conns = d.table.conns)
      (hdoors : d'.table.listeners = update d.table.listeners k .free)
      (hsince : d'.since = d.since) (hborn : d'.born = d.born) (hhanded : d'.handed = d.handed) :
      Turn d (.closeListener client rid right) d'

namespace Conn

variable {c c' : Conn}

lemma Works.refl (c : Conn) : c.Works c := ⟨rfl, id, fun _ h => .inr h⟩

lemma Keeps.refl (c : Conn) : c.Keeps c := .inl (.refl c)

lemma Works.of_owned (hrid : c.rid ≠ 0) (hface : c'.face = c.face)
    (hclosed : c.state = .closed → c'.state = .closed) : c.Works c' :=
  ⟨hface, hclosed, fun hzero => absurd hzero hrid⟩

lemma Works.onSegment (c : Conn) (now : ℕ) (seg : Seg) : c.Works (c.onSegment now seg) :=
  ⟨(onSegment_face c now seg).1, fun h => by rw [onSegment_of_closed h]; exact h,
    fun _ h => h.onSegment now seg⟩

lemma Works.pollOne (c : Conn) (clock : Option ℕ) : c.Works (c.pollOne clock).1 :=
  ⟨pollOne_face c clock, fun h => by rw [pollOne_of_closed h]; exact h,
    fun _ h => h.pollOne clock⟩

lemma Works.flushAcks (c : Conn) : c.Works c.flushAcks := by
  obtain ⟨hface, hstate⟩ := flushAcks_face c
  refine ⟨hface, fun h => hstate.trans h, fun _ h => .inr ?_⟩
  unfold Conn.flushAcks
  split
  · exact h.congr rfl rfl rfl rfl id id
  · exact h

lemma Works.trans {c'' : Conn} (h : c.Works c') (h' : c'.Works c'') : c.Works c'' := by
  refine ⟨h'.face.trans h.face, fun hc => h'.closed (h.closed hc), fun hrid hw => ?_⟩
  rcases h.waiting hrid hw with hclosed | hwaiting
  · exact .inl (h'.closed hclosed)
  · exact h'.waiting ((congrArg Face.rid h.face).trans hrid) hwaiting

lemma Works.keeps {c'' : Conn} (h : c.Works c') (h' : c'.Keeps c'') : c.Keeps c'' := by
  rcases h' with hworks | ⟨hrid, hreleased⟩
  · exact .inl (h.trans hworks)
  · refine .inr ⟨fun hzero => hrid ?_, hreleased⟩
    exact (congrArg Face.rid h.face).trans hzero

lemma keeps_reset (hrid : c.rid ≠ 0) : c.Keeps c.reset := .inr ⟨hrid, rfl, rfl⟩

lemma ne_zero_of_ownedBy {rid : ℕ} (h : c.ownedBy rid) : c.rid ≠ 0 := by
  simp only [ownedBy, Bool.and_eq_true, bne_iff_ne] at h
  exact h.2

end Conn

variable {a : Act}

namespace Turn

variable {d : Desk} {d' : Desk} {rid client : ℕ}

lemma idle (hconns : d'.table.conns = d.table.conns)
    (hdoors : ∀ k, (d'.table.listeners k).port = (d.table.listeners k).port)
    (hsince : d'.since = d.since) (hborn : d'.born = d.born) (hhanded : d'.handed = d.handed) :
    Turn d a d' :=
  .keeps (fun i => by rw [hconns]; exact .refl _) hdoors hsince hborn hhanded

lemma refl (d : Desk) (a : Act) : Turn d a d := idle rfl (fun _ => rfl) rfl rfl rfl

lemma release (hd : d' = d.release rid ∨ d' = { d with dial := none }.release rid) :
    Turn d a d' := by
  have hslots : ∀ i, (d.table.conns i).Keeps ((d.table.forget rid).conns i) :=
    writeFirst_rel Keeps.refl fun c hc => keeps_reset (ne_zero_of_ownedBy hc)
  rcases hd with rfl | rfl <;> exact .keeps hslots (fun _ => rfl) rfl rfl rfl

lemma onRid (t : Table) (rid : ℕ) {f : Conn → Conn}
    (hf : ∀ c, (f c).face = c.face ∧ (f c).state = c.state) (i : Fin maxConns) :
    (t.conns i).Works ((t.onRid rid f).conns i) :=
  writeFirst_rel Works.refl (fun c hc =>
    .of_owned (ne_zero_of_ownedBy hc) (hf c).1 fun h => (hf c).2.trans h) i

lemma write_face (c : Conn) (data : List UInt8) :
    (c.write data).1.face = c.face ∧ (c.write data).1.state = c.state := by
  unfold write
  split <;> exact ⟨rfl, rfl⟩

lemma serveUse (t : Table) (rid : ℕ) (right : Rights) (what : Use) (i : Fin maxConns) :
    (t.conns i).Works ((Desk.serveUse t rid right what).conns i) := by
  unfold Desk.serveUse
  cases what with
  | recv max | close =>
    dsimp only
    split
    · refine onRid t rid (fun c => ?_) i
      exact ⟨rfl, rfl⟩
    · exact .refl _
  | send data =>
    dsimp only
    split
    · exact onRid t rid (fun c => write_face c data) i
    · exact .refl _
  | stat => exact .refl _

lemma serveListen (h : Owned d) {port : ℕ} {granted : Bool} (hnew : d.mintable rid) :
    Turn d (.listen client port (some rid) granted) (d.serveListen client port rid granted) := by
  unfold Desk.serveListen
  split
  next table k hlisten hk =>
    obtain ⟨k', hk', hport, -, rfl⟩ := Table.listen_eq_some hlisten
    obtain rfl := some_inj.mp (hk'.symm.trans hk)
    have hfree : (d.table.listeners k').port = 0 := beq_iff_eq.mp (first_spec hk)
    split
    next hgrant =>
      subst hgrant
      exact .registers k' hport hfree rfl rfl rfl rfl rfl
    · -- the listener that is taken back is the one that was just registered
      rw [Table.unlisten_of_new h.issued (mintable_iff.mp hnew).2 hport]
      refine idle rfl (fun j => ?_) rfl rfl rfl
      by_cases hj : j = k'
      · subst hj
        simp [revoke, Listener.free, hfree]
      · simp [revoke, hj]
  · exact idle rfl (fun _ => rfl) rfl rfl rfl

lemma makeRoom_keeps (d : Desk) (now : ℕ) (j : Fin maxConns) :
    (d.table.conns j).Keeps ((d.makeRoom now).table.conns j) := by
  rcases d.makeRoom_cases now with heq | ⟨i, hrid, heq⟩
  · rw [heq]
    exact .refl _
  · rw [heq]
    exact update_rel Keeps.refl (keeps_reset hrid) j

lemma makeRoom_rest (d : Desk) (now : ℕ) : (d.makeRoom now).table.listeners = d.table.listeners ∧
      (d.makeRoom now).table.nextPort = d.table.nextPort ∧ (d.makeRoom now).since = d.since ∧
      (d.makeRoom now).born = d.born ∧ (d.makeRoom now).handed = d.handed := by
  rcases d.makeRoom_cases now with heq | ⟨i, hrid, heq⟩ <;> rw [heq] <;>
    exact ⟨rfl, rfl, rfl, rfl, rfl⟩

lemma connect {now : ℕ} {iss : Seq} {dst dport : ℕ} {radio : Bool}
    (hnew : (d.makeRoom now).mintable rid) :
    Turn d (.connect client (some rid) now iss dst dport radio)
      ((d.makeRoom now).startOpen client rid now iss dst dport radio) := by
  obtain ⟨hdoors, hport, hsince, hborn, hhanded⟩ := makeRoom_rest d now
  unfold startOpen
  rcases (d.makeRoom now).table.connect_cases rid now iss dst dport
    (fun c => synOut_face c now radio) with ⟨t, i, heq, hdialled⟩ | ⟨t, heq, hconns, hdoors'⟩
  · rw [heq]
    refine .dials rfl i (fun j hj => ?_) (hport ▸ hdialled.face) (mintable_ne_zero hnew)
      (hdialled.doors.trans hdoors) hsince hborn hhanded
    exact (hdialled.others j hj).symm ▸ makeRoom_keeps d now j
  · rw [heq]
    refine .keeps (fun j => ?_) (fun k => congrArg Listener.port
      (congrFun (hdoors'.trans hdoors) k)) hsince hborn hhanded
    exact (congrFun hconns j).symm ▸ makeRoom_keeps d now j

lemma startTransact (d : Desk) (now : ℕ) (iss : Seq) (dst dport : ℕ) (request : List UInt8) :
    Turn d (.transact now iss dst dport request) (d.startTransact now iss dst dport request) := by
  unfold Desk.startTransact
  rcases d.table.connect_cases transactId now iss dst dport (fun c => synOut_face c now false) with
    ⟨t, i, heq, hdialled⟩ | ⟨t, heq, hconns, hdoors⟩
  · rw [heq]
    refine .dials rfl i (fun j hj => ?_) hdialled.face (show transactId ≠ 0 by decide)
      hdialled.doors rfl rfl rfl
    exact (hdialled.others j hj).symm ▸ .refl _
  · rw [heq]
    exact idle hconns (fun k => congrArg Listener.port (congrFun hdoors k)) rfl rfl rfl

lemma onTransact {f : Conn → Conn} {transact : Option Transact}
    (hf : ∀ c, (f c).face = c.face ∧ (f c).state = c.state) :
    Turn d a { d with table := d.table.onRid transactId f, transact } :=
  .keeps (fun i => .inl (onRid d.table transactId hf i)) (fun _ => rfl) rfl rfl rfl

lemma endTransact (slot : Fin maxConns) (now : ℕ) : Turn d a (d.endTransact slot now) := by
  refine .keeps (fun i => ?_) (fun _ => rfl) rfl rfl rfl
  have hclosed := onRid d.table transactId (f := Conn.close) (fun _ => ⟨rfl, rfl⟩) i
  set t := d.table.onRid transactId Conn.close
  have hpolled : (t.conns i).Works ((t.onSlot slot fun c => (c.pollOne (d.time now)).1).conns i) :=
    update_rel Works.refl (.pollOne _ _) i
  exact hclosed.keeps (hpolled.keeps
    (writeFirst_rel Keeps.refl (fun c hc => keeps_reset (ne_zero_of_ownedBy hc)) i))

lemma serveAccept (d : Desk) {crid : ℕ} {right : Rights} {k : Fin maxListen} {i : Fin maxConns}
    {granted : Bool} (hholds : d.holds client rid right)
    (hdoor : d.table.listener rid = some k) (hpend : d.table.pendingAccept = some i)
    (hnew : d.mintable crid) :
    Turn d (.accept client rid right (some crid) granted) (d.serveAccept client k i crid granted) := by
  cases granted with
  | true =>
    exact .claims k i hholds hdoor hpend (mintable_ne_zero hnew) rfl rfl rfl rfl rfl
  | false =>
    have hrid : (d.table.conns i).rid = 0 := by
      have hspec := first_spec hpend
      simp only [awaitsAccept, Bool.and_eq_true, beq_iff_eq] at hspec
      exact hspec.1.1
    refine idle ?_ (fun _ => rfl) rfl rfl rfl
    simp only [Desk.serveAccept, Table.onSlot, update_self, update_idem]
    rw [← hrid]
    exact update_eq_self i d.table.conns

lemma frame (d : Desk) (now : ℕ) (iss : Seq) (seg : Seg)
    (hact : d.act (.frame now iss seg) = some d') : Turn d (.frame now iss seg) d' := by
  cases hact
  unfold Table.onFrame
  cases hans : d.table.answers seg with
  | false =>
    refine .keeps ?_ (fun _ => rfl) rfl rfl rfl
    exact writeFirst_rel Keeps.refl fun c _ => .inl (.onSegment c _ seg)
  | true =>
    cases hfree : d.table.freeSlot with
    | none => exact refl d _
    | some i => exact .opens i hfree hans rfl rfl rfl rfl rfl

end Turn

/-- **Every step is one of the six**, and keeps the ids in order. -/
theorem turn {d : Desk} (h : Owned d) (hidle : a.waits → d.dial = none ∧ d.transact = none)
    {d' : Desk} (hact : d.act a = some d') : Turn d a d' ∧ Owned d' := by
  have hsame : Turn d a d ∧ Owned d := ⟨.refl d _, h⟩
  -- once the handshake that was waited for is over
  have hdone {caps : List Held} : Owned { d with dial := none, caps } :=
    .of_idle h.issued ⟨h.named.conn, h.named.door⟩ rfl
  cases a with
  | listen client port minted granted =>
    simp only [act] at hact
    split at hact
    · cases hact
      exact hsame
    split at hact
    · cases hact
      exact hsame
    split at hact
    next hnew =>
      cases hact
      exact ⟨.serveListen h hnew, h.serveListen (hidle rfl).1 hnew⟩
    · cases hact
  | connect client minted now iss dst dport radio =>
    have hroom := h.makeRoom (hidle rfl).1 (hidle rfl).2 now
    simp only [act] at hact
    split at hact
    · split at hact
      · cases hact
        obtain ⟨hdoors, -, hsince, hborn, hhanded⟩ := Turn.makeRoom_rest d now
        exact ⟨.keeps (Turn.makeRoom_keeps d now)
          (fun k => congrArg Listener.port (congrFun hdoors k)) hsince hborn hhanded, hroom⟩
      · split at hact
        next hnew =>
          cases hact
          exact ⟨.connect hnew, hroom.startOpen hnew⟩
        · cases hact
    · cases hact
      exact hsame
  | connected granted =>
    simp only [act] at hact
    split at hact
    next dial hdial =>
      split at hact
      · split at hact
        · cases hact
          exact ⟨.idle rfl (fun _ => rfl) rfl rfl rfl, hdone⟩
        · cases hact
          obtain ⟨hrid, hdoors⟩ := h.dialled dial hdial
          exact ⟨.release (.inr rfl), hdone.release rfl hrid hdoors⟩
      · cases hact
    · cases hact
  | gaveUp =>
    obtain ⟨dial, hdial, rfl⟩ := map_eq_some_iff.mp hact
    obtain ⟨hrid, hdoors⟩ := h.dialled dial hdial
    exact ⟨.release (.inr rfl), hdone.release rfl hrid hdoors⟩
  | transact now iss dst dport request =>
    simp only [act] at hact
    split at hact
    · cases hact
      exact ⟨.startTransact d now iss dst dport request,
        h.startTransact (hidle rfl).1 (hidle rfl).2⟩
    · cases hact
      exact hsame
  | transactWrite =>
    obtain ⟨x, hx, hact⟩ := bind_eq_some_iff.mp hact
    split at hact
    · cases hact
      have hwrite := fun c => Turn.write_face c x.request
      exact ⟨.onTransact hwrite, h.onTransact (by rw [hx]; rfl) fun c =>
        congrArg Face.rid (hwrite c).1⟩
    · cases hact
  | transactRead max =>
    obtain ⟨x, -, rfl⟩ := map_eq_some_iff.mp hact
    exact ⟨.onTransact fun _ => ⟨rfl, rfl⟩, h.onTransact rfl fun _ => rfl⟩
  | transactClose =>
    obtain ⟨x, -, hact⟩ := bind_eq_some_iff.mp hact
    split at hact
    · cases hact
      exact ⟨.onTransact fun _ => ⟨rfl, rfl⟩, h.onTransact rfl fun _ => rfl⟩
    · cases hact
  | transactEnd now =>
    obtain ⟨x, -, rfl⟩ := map_eq_some_iff.mp hact
    exact ⟨.endTransact x.slot now, h.endTransact x.slot now⟩
  | accept client rid right minted granted =>
    simp only [act] at hact
    split at hact
    next hholds =>
      split at hact
      next k i crid hdoor hpend =>
        split at hact
        · split at hact
          next hnew =>
            cases hact
            exact ⟨.serveAccept d hholds hdoor hpend hnew, h.serveAccept (hidle rfl).1 hnew⟩
          · cases hact
        · cases hact
          exact hsame
      · cases hact
        exact hsame
    · cases hact
  | closeListener client rid right =>
    simp only [act] at hact
    split at hact
    · split at hact
      · split at hact
        next table hun =>
          cases hact
          refine ⟨?_, h.closeListener (hidle rfl).1 hun⟩
          obtain ⟨k, hk, rfl⟩ := Table.unlisten_eq_some hun
          exact .closes k hk rfl rfl rfl rfl rfl
        · cases hact
          exact hsame
      · cases hact
        exact hsame
    · cases hact
  | use client rid right now what =>
    simp only [act] at hact
    split at hact
    · split at hact
      next i _ hfirst =>
        cases hact
        have howned := first_spec hfirst
        rw [Bool.and_eq_true] at howned
        have hnoted : ∀ j, (d.table.conns j).Works ((d.table.onSlot i fun c =>
            { c with usedMs := (d.time now).getD 0 }).conns j) :=
          update_rel Works.refl (.of_owned (ne_zero_of_ownedBy howned.1) rfl id)
        have hworks := fun j => (hnoted j).trans (Turn.serveUse _ rid right what j)
        have hdoors := Owned.serveUse_listeners (d.table.onSlot i fun c =>
          { c with usedMs := (d.time now).getD 0 }) rid right what
        exact ⟨.keeps (fun j => .inl (hworks j))
          (fun k => congrArg Listener.port (congrFun hdoors k)) rfl rfl rfl,
          h.congr rfl rfl rfl hdoors fun j => congrArg Face.rid (hworks j).face⟩
      · cases hact
        exact hsame
    · cases hact
  | frame now iss seg =>
    refine ⟨.frame d now iss seg hact, ?_⟩
    cases hact
    have hrid := Owned.onFrame_rid d.table ((d.time now).getD 0) iss seg
    have hdoors := Owned.onFrame_listeners d.table ((d.time now).getD 0) iss seg
    exact h.still (Table.issued_of_rid h.issued hdoors fun i => (hrid i).minted)
      (Owned.named_of_rid h.named rfl hdoors hrid) rfl hdoors
  | poll i now =>
    cases hact
    have hworks := update_rel (t := d.table.conns) Works.refl (.pollOne _ (d.time now)) (i := i)
    exact ⟨.keeps (fun j => .inl (hworks j)) (fun _ => rfl) rfl rfl rfl,
      h.congr rfl rfl rfl rfl fun j => congrArg Face.rid (hworks j).face⟩
  | flush =>
    cases hact
    exact ⟨.keeps (fun i => .inl (.flushAcks _)) (fun _ => rfl) rfl rfl rfl,
      h.congr rfl rfl rfl rfl fun i => congrArg Face.rid (flushAcks_face _).1⟩
  | reap i =>
    simp only [act] at hact
    split at hact
    next hreap =>
      cases hact
      have hrid : (d.table.conns i).rid ≠ 0 := by
        simp only [Conn.reapable, Bool.and_eq_true, bne_iff_ne] at hreap
        exact hreap.1.1
      have hdelegated := Owned.isDelegated_of_named h.named (hidle rfl).2 hrid
      refine ⟨.release (.inl rfl), h.release (hidle rfl).1 hdelegated fun k hk => ?_⟩
      have htoken : d.table.tokens (.inl i) = some (d.table.conns i).rid :=
        token_eq_some.mpr ⟨rfl, hdelegated⟩
      cases h.issued.unique _ _ _ htoken hk
    · cases hact
      exact hsame
  | share k client mask =>
    obtain ⟨held, -, hheld⟩ := bind_eq_some_iff.mp hact
    split at hheld
    · cases hheld
      exact ⟨.idle rfl (fun _ => rfl) rfl rfl rfl, h.congr rfl rfl rfl rfl fun _ => rfl⟩
    · cases hheld
  | drop k =>
    cases hact
    exact ⟨.idle rfl (fun _ => rfl) rfl rfl rfl, h.congr rfl rfl rfl rfl fun _ => rfl⟩

lemma turn_of_step {d d' : Desk} (h : Owned d) (hstep : d.step a = some d') :
    ∃ d₁, d.act a = some d₁ ∧ Turn d a d₁ ∧ Owned d₁ ∧ d' = { d₁ with tick := d.tick + 1 } := by
  unfold step at hstep
  split at hstep
  · cases hstep
  next hserved =>
    obtain ⟨d₁, hact, rfl⟩ := map_eq_some_iff.mp hstep
    obtain ⟨hturn, howned⟩ := turn h (fun hwaits => by simpa [hwaits, busy] using hserved) hact
    exact ⟨d₁, hact, hturn, howned, rfl⟩

/-- **In every run the ids in the table are live, and held once.** -/
theorem Owned.of_reaches {arena : Fin maxConns → List UInt8} {live : List ℕ} {clocked : Bool}
    {ok : Desk → Desk.Act → Prop} {d : Desk}
    (hrun : Reaches step ok (Desk.start arena live clocked) d) : Owned d := by
  refine hrun.invariant (start arena live clocked) fun d a d' h _ hstep => ?_
  obtain ⟨d₁, -, -, howned, rfl⟩ := turn_of_step h hstep
  exact howned.congr rfl rfl rfl rfl fun _ => rfl

/-! ## The clock -/

namespace Desk

variable {d : Desk}

/-- The clock stays what it is, and only a TRANSACT begins a transaction. -/
lemma act_rest {d' : Desk} (hact : d.act a = some d') : d'.clocked = d.clocked ∧
    (d.transact = none → (∀ now iss dst dport request, a ≠ .transact now iss dst dport request) →
      d'.transact = none) := by
  cases a with
  | connect client minted now iss dst dport radio =>
    have hroom : (d.makeRoom now).clocked = d.clocked ∧ (d.makeRoom now).transact = d.transact := by
      rcases d.makeRoom_cases now with heq | ⟨i, -, heq⟩ <;>
        simp [heq, revoke]
    simp only [act] at hact
    split at hact
    · split at hact
      · cases hact
        exact ⟨hroom.1, fun h _ => hroom.2.trans h⟩
      rename_i rid
      split at hact
      · cases hact
        unfold startOpen
        split <;> exact ⟨hroom.1, fun h _ => hroom.2.trans h⟩
      · cases hact
    · cases hact
      exact ⟨rfl, fun h _ => h⟩
  | transact now iss dst dport request =>
    refine ⟨?_, fun _ hne => absurd rfl (hne now iss dst dport request)⟩
    simp only [act] at hact
    split at hact
    · cases hact
      unfold startTransact
      split <;> rfl
    · cases hact
      rfl
  | transactWrite | transactClose =>
    obtain ⟨x, hx, hact⟩ := bind_eq_some_iff.mp hact
    split at hact
    · cases hact
      refine ⟨rfl, fun h => ?_⟩
      rw [hx] at h
      cases h
    · cases hact
  | share k client mask =>
    obtain ⟨held, -, hheld⟩ := bind_eq_some_iff.mp hact
    split at hheld
    · cases hheld
      exact ⟨rfl, fun h _ => h⟩
    · cases hheld
  | _ =>
    -- no branch of the other requests writes the flag, or begins a transaction
    simp only [act, serveListen, serveAccept, Option.map] at hact
    repeat' split at hact
    all_goals cases hact <;> first | exact ⟨rfl, fun h _ => h⟩ | exact ⟨rfl, fun _ _ => rfl⟩

/-- On a machine with a clock, every state of a run can tell the time. -/
lemma time_of_reaches {arena : Fin maxConns → List UInt8} {live : List ℕ}
    {ok : Desk → Act → Prop} (hrun : Reaches step ok (start arena live true) d) :
    d.time = some := by
  have hclocked : d.clocked := by
    refine hrun.invariant (I := fun d => d.clocked) rfl fun d a d' h _ hstep => ?_
    unfold step at hstep
    split at hstep
    · cases hstep
    obtain ⟨d₁, hact, rfl⟩ := map_eq_some_iff.mp hstep
    exact (act_rest hact).1.trans h
  funext now
  rw [time, hclocked]
  rfl

end Desk

end Godspeed.Tcp
