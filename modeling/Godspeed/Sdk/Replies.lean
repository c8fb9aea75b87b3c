import Godspeed.Lib.FirstMatch
import Godspeed.Lib.Transition
import Mathlib.Data.List.Chain
import Mathlib.Data.List.Nodup

/-!
# Whose reply a request takes

One client task over whole runs: its own endpoint, the mailbox for replies if it was given
one, and the queue in which the kernel keeps the capabilities it received.  The operations
of `gs::fs` and `gs::net` draw a tag from the counter of their handle, clear what is stale,
send and wait in one of four ways.  Services answer when they like, and other tasks send
what they like.

Every capability that is sent to the client has a number of its own, and every request one.
A message carries the number of the request it answers; no code reads it.
-/

namespace Godspeed.Sdk

open Transition Function List

/-! ## The client -/

inductive Service
  | fs | net
  deriving DecidableEq

/-- `TAG_BASE` of `gs::net`. -/
def tagBase : UInt8 := 0x80

/-- The next tag of a handle: `Fs::next_tag`, and the counter of a `Net`. -/
def Service.nextTag : Service → UInt8 → UInt8
  | .fs, tag => if tag + 1 = 0 then 1 else tag + 1
  | .net, tag => tagBase + ((tag - tagBase + 1) &&& 0x3F)

/-- A kernel Call (`request_within`); the next message (`request_within_notice`); a message
with the request's tag, others dropped (`request_watched_sifted`) or held (`invoke`). -/
inductive Wait
  | call | next | sifted | held
  deriving DecidableEq

inductive Endpoint
  | own | mailbox
  deriving DecidableEq

/-- The first byte, whether the rest reads as a success, the request answered, if any, and
the capabilities. -/
structure Msg where
  tag : Option UInt8
  ok : Bool
  answers : Option Nat
  caps : List Nat

/-- A request, the endpoint its reply comes to, and whether it opens something. -/
structure Asked where
  service : Service
  tag : UInt8
  wait : Wait
  reply : Endpoint
  opens : Bool

inductive Doing
  | idle
  | asking (r : Asked) (retries drained : Nat) (clean : Bool)
  | waiting (no : Nat) (r : Asked) (retries : Nat)

/-- The client, with the requests it sent in order, those that were answered, the replies it
decoded, the handles it opened and the capabilities of the messages it discarded. -/
structure Client where
  queue : Endpoint → List Msg
  pending : List Nat
  table : List Nat
  handles : List (Service × UInt8)
  doing : Doing
  held : Nat
  asked : List Asked
  answered : List Nat
  minted : Nat
  decoded : List (Nat × Msg)
  opened : List (Nat × Msg × Nat)
  discarded : List Nat

def Client.start : Client := ⟨fun _ => [], [], [], [], .idle, 0, [], [], 0, [], [], []⟩

/-- No answer to a request comes any more: a service answers it once, before 60 more were sent
to it. -/
def Client.Over (s : Client) (no : Nat) (r : Asked) : Prop :=
  no ∈ s.answered ∨ 60 ≤ (s.asked.drop (no + 1)).countP (·.service = r.service)

instance (s : Client) (no : Nat) (r : Asked) : Decidable (s.Over no r) :=
  inferInstanceAs (Decidable (_ ∨ _))

/-- `install_received_caps`, with `room` free slots in the table. -/
def Client.install (s : Client) : Nat → List Nat → Client
  | _, [] => s
  | 0, _ => s
  | room + 1, cap :: caps =>
    if s.pending.length < 4 then
      Client.install { s with pending := s.pending ++ [cap], table := cap :: s.table } room caps
    else s.install (room + 1) caps

variable (s : Client) (e : Endpoint) (r : Asked)

/-- The first message of an endpoint that is accepted is taken out. -/
def Client.dequeue (accepts : Msg → Bool) : Client :=
  { s with queue := update s.queue e ((s.queue e).eraseP accepts) }

/-- That message, its capabilities installed. -/
def Client.receive (accepts : Msg → Bool) (room : Nat) : Option (Msg × Client) :=
  ((s.queue e).find? accepts).map fun m => (m, (s.dequeue e accepts).install room m.caps)

/-- `release_discarded_cap`. -/
def Client.release : Client :=
  match s.pending with
  | [] => s
  | cap :: rest => { s with pending := rest, table := s.table.erase cap }

def Client.discard (m : Msg) : Client :=
  { s with discarded := m.caps ++ s.discarded }

/-- An invocation clears nothing, nor does a Call without a mailbox. -/
def Asked.drains : Bool :=
  match r.wait with
  | .call => r.reply = .mailbox
  | .held => false
  | _ => true

/-- One round of `drain_stale_replies` or of `while self.try_recv().is_some() {}`. -/
def Client.drain (retries drained room : Nat) : Client :=
  match if r.drains then s.receive r.reply (fun _ => true) room else none with
  | none => { s with doing := .asking r retries drained true }
  | some (m, t) =>
    { (if r.wait = .call then t.release else t).discard m with
      doing := .asking r retries (drained + 1) (r.wait = .call && drained + 1 = 16) }

/-- The kernel matches a Call's reply by its sender. -/
def Client.meets (m : Msg) : Bool :=
  r.wait ≠ .call || (m.answers.bind (s.asked[·]?)).map (·.service) = some r.service

/-- The reply is decoded; an operation that opens something then takes a pending
capability (`take_pending_cap`). -/
def Client.decode (no : Nat) (r : Asked) (m : Msg) : Client :=
  match s.pending, r.opens && m.ok with
  | cap :: rest, true =>
    { s with
      doing := .idle, decoded := (no, m) :: s.decoded, pending := rest
      opened := (no, m, cap) :: s.opened }
  | _, _ => { s with doing := .idle, decoded := (no, m) :: s.decoded }

/-- A message was received; `HELD_MAX` is 2. -/
def Client.took (no : Nat) (r : Asked) (m : Msg) : Client :=
  if m.tag = some r.tag then s.decode no r m
  else
    match r.wait with
    | .sifted => s.discard m
    | .held => if s.held < 2 then { s with held := s.held + 1 } else { s.discard m with doing := .idle }
    | _ => { s.discard m with doing := .idle }

/-- A message with new capabilities comes to an endpoint. -/
def Client.arrive (tag : Option UInt8) (ok : Bool) (answers : Option Nat) (caps : Nat) : Client :=
  { s with
    queue := update s.queue e (s.queue e ++ [⟨tag, ok, answers, List.range' s.minted caps⟩])
    minted := s.minted + caps }

inductive Action
  | make (service : Service) (tag : UInt8)
  | ask (handle : Nat) (wait : Wait) (opens : Bool) (held : Nat)
  | drain (room : Nat)
  | send
  | retry
  | take (room : Nat)
  | giveUp
  | close (cap : Nat)
  | answer (no : Nat) (ok : Bool) (caps : Nat)
  | other (tag : Option UInt8) (ok : Bool) (caps : Nat)

/-- One step. -/
def step (hasMailbox : Bool) (s : Client) : Action → Option Client
  | .make service tag =>
    if service = .net ∧ tag ≠ tagBase then none
    else some { s with handles := s.handles ++ [(service, tag)] }
  | .ask h wait opens held =>
    match s.doing, s.handles[h]? with
    | .idle, some (service, tag) =>
      let reply := if hasMailbox && wait = .call then Endpoint.mailbox else .own
      some { s with
        handles := s.handles.set h (service, service.nextTag tag)
        doing := .asking ⟨service, service.nextTag tag, wait, reply, opens⟩
          (if wait = .held then 0 else 1) 0 false
        held := held }
    | _, _ => none
  | .drain room =>
    match s.doing with
    | .asking r retries drained false => some (s.drain r retries drained room)
    | _ => none
  | .send =>
    match s.doing with
    | .asking r retries _ true =>
      some { s with doing := .waiting s.asked.length r retries, asked := s.asked ++ [r] }
    | _ => none
  | .retry =>
    match s.doing with
    | .asking r (retries + 1) _ true => some { s with doing := .asking r retries 0 false }
    | .waiting _ r (retries + 1) =>
      if r.wait = .call then some { s with doing := .asking r retries 0 false } else none
    | _ => none
  | .take room =>
    match s.doing with
    | .waiting no r _ => (s.receive r.reply (s.meets r) room).map fun (m, t) => t.took no r m
    | _ => none
  | .giveUp => some { s with doing := .idle }
  | .close cap => some { s with table := s.table.erase cap }
  | .answer no ok caps =>
    match s.asked[no]? with
    | some r =>
      if s.Over no r then none
      else
        some { s.arrive r.reply (some r.tag) ok (some no) caps with answered := no :: s.answered }
    | none => none
  | .other tag ok caps => some (s.arrive .own tag ok none caps)

/-! ## What a receive leaves -/

variable {s t u : Client} {e : Endpoint} {r : Asked} {m : Msg} {accepts : Msg → Bool}
  {tag : Option UInt8} {ok hasMailbox : Bool} {answers : Option Nat} {answered : List Nat}
  {no n d room caps : Nat} {a : Action}

lemma Client.install_nil (s : Client) (room : Nat) : s.install room [] = s := by
  cases room <;> rfl

lemma Client.install_eq (s : Client) (room : Nat) (caps : List Nat) :
    ∃ pending table, s.install room caps = { s with pending := pending, table := table } := by
  induction caps generalizing s room with
  | nil => exact ⟨s.pending, s.table, s.install_nil room⟩
  | cons cap caps ih =>
    cases room with
    | zero => exact ⟨s.pending, s.table, rfl⟩
    | succ room =>
      unfold install
      split_ifs
      · obtain ⟨pending, table, heq⟩ := ih _ room
        exact ⟨pending, table, heq⟩
      · exact ih s (room + 1)

lemma of_receive (h : s.receive e accepts room = some (m, t)) :
    (s.queue e).find? accepts = some m ∧ t = (s.dequeue e accepts).install room m.caps := by
  obtain ⟨m', hfind, heq⟩ := Option.map_eq_some_iff.mp h
  cases heq
  exact ⟨hfind, rfl⟩

open Client

lemma frame_of_receive (h : s.receive e accepts room = some (m, t)) :
    ∃ queue pending table, t = { s with queue := queue, pending := pending, table := table } ∧
      ∀ e, ∀ m ∈ queue e, m ∈ s.queue e := by
  obtain ⟨-, rfl⟩ := of_receive h
  obtain ⟨pending, table, heq⟩ := install_eq (s.dequeue e accepts) room m.caps
  refine ⟨update s.queue e ((s.queue e).eraseP accepts), pending, table, heq, fun e' m' hm' => ?_⟩
  by_cases he : e' = e
  · subst he
    rw [update_self] at hm'
    exact mem_of_mem_eraseP hm'
  · rwa [update_of_ne he] at hm'

/-- The client is waiting and may decode the message as its reply. -/
def Client.Decodes (s : Client) (no : Nat) (m : Msg) : Prop :=
  ∃ r n, s.doing = .waiting no r n ∧ m ∈ s.queue r.reply ∧ s.meets r m = true ∧ m.tag = some r.tag

/-- What every step but a send and an arrival leaves alone. -/
structure Trims (s t : Client) : Prop where
  queue : ∀ e, ∀ m ∈ t.queue e, m ∈ s.queue e
  asked : t.asked = s.asked
  answered : t.answered = s.answered
  waiting : ∀ no r n, t.doing = .waiting no r n → s.doing = .waiting no r n
  decoded : ∀ d ∈ t.decoded, d ∈ s.decoded ∨ s.Decodes d.1 d.2

lemma Trims.of_idle (hqueue : ∀ e, ∀ m ∈ t.queue e, m ∈ s.queue e) (hasked : t.asked = s.asked)
    (hanswered : t.answered = s.answered) (hdecoded : t.decoded = s.decoded)
    (hdoing : ∀ no r n, t.doing ≠ .waiting no r n) : Trims s t :=
  ⟨hqueue, hasked, hanswered, fun no r n h => absurd h (hdoing no r n),
    fun _ hd => .inl (hdecoded ▸ hd)⟩

lemma Trims.of_drain (s : Client) (r : Asked) (retries drained room : Nat) :
    Trims s (s.drain r retries drained room) := by
  unfold drain
  split
  · exact .of_idle (fun _ _ h => h) rfl rfl rfl nofun
  rename_i m u hreceive
  split_ifs at hreceive with hdrains
  obtain ⟨queue, pending, table, rfl, hmem⟩ := frame_of_receive hreceive
  split_ifs
  · unfold release
    split <;> exact .of_idle hmem rfl rfl rfl nofun
  · exact .of_idle hmem rfl rfl rfl nofun

lemma Trims.of_took (hdoing : s.doing = .waiting no r n)
    (hreceive : s.receive r.reply (s.meets r) room = some (m, u)) : Trims s (u.took no r m) := by
  obtain ⟨hfind, -⟩ := of_receive hreceive
  obtain ⟨queue, pending, table, rfl, hmem⟩ := frame_of_receive hreceive
  unfold took
  split
  next htag =>
    have hdecodes : s.Decodes no m :=
      ⟨r, n, hdoing, mem_of_find?_eq_some hfind, find?_some hfind, htag⟩
    have hdecoded : ∀ d ∈ (no, m) :: s.decoded, d ∈ s.decoded ∨ s.Decodes d.1 d.2 := by
      rintro d (_ | ⟨_, hd⟩)
      · exact .inr hdecodes
      · exact .inl hd
    unfold decode
    split <;> exact ⟨hmem, rfl, rfl, nofun, hdecoded⟩
  · split
    · exact ⟨hmem, rfl, rfl, fun _ _ _ h => h, fun _ hd => .inl hd⟩
    · split_ifs
      · exact ⟨hmem, rfl, rfl, fun _ _ _ h => h, fun _ hd => .inl hd⟩
      · exact .of_idle hmem rfl rfl rfl nofun
    · exact .of_idle hmem rfl rfl rfl nofun

/-- What a step does. -/
inductive Moves (s : Client) : Action → Client → Prop
  | quiet {a : Action} (handles : List (Service × UInt8)) (doing : Doing) (held : Nat)
      (h : ∀ no r n, doing = .waiting no r n → s.doing = .waiting no r n) :
      Moves s a { s with handles := handles, doing := doing, held := held }
  | closes (cap : Nat) : Moves s (.close cap) { s with table := s.table.erase cap }
  | drains {r : Asked} {n d : Nat} (room : Nat) (h : s.doing = .asking r n d false) :
      Moves s (.drain room) (s.drain r n d room)
  | takes {no n room : Nat} {r : Asked} {m : Msg} {u : Client} (h : s.doing = .waiting no r n)
      (hreceive : s.receive r.reply (s.meets r) room = some (m, u)) :
      Moves s (.take room) (u.took no r m)
  | sends {r : Asked} {n d : Nat} (h : s.doing = .asking r n d true) :
      Moves s .send { s with doing := .waiting s.asked.length r n, asked := s.asked ++ [r] }
  | answers {no : Nat} {r : Asked} (ok : Bool) (caps : Nat) (h : s.asked[no]? = some r)
      (hopen : ¬ s.Over no r) : Moves s (.answer no ok caps)
        { s.arrive r.reply (some r.tag) ok (some no) caps with answered := no :: s.answered }
  | others (tag : Option UInt8) (ok : Bool) (caps : Nat) :
      Moves s (.other tag ok caps) (s.arrive .own tag ok none caps)

lemma moves_of_step (h : step hasMailbox s a = some t) : Moves s a t := by
  cases a with
  | make service tag =>
    simp only [step] at h
    split_ifs at h
    cases h
    exact .quiet _ _ _ fun _ _ _ h => h
  | ask handle wait opens held =>
    simp only [step] at h
    split at h
    · cases h
      exact .quiet _ _ _ nofun
    · cases h
  | drain room =>
    simp only [step] at h
    split at h
    next hdoing =>
      cases h
      exact .drains room hdoing
    · cases h
  | send =>
    simp only [step] at h
    split at h
    next hdoing =>
      cases h
      exact .sends hdoing
    · cases h
  | retry =>
    simp only [step] at h
    split at h
    · cases h
      exact .quiet _ _ _ nofun
    · split_ifs at h
      cases h
      exact .quiet _ _ _ nofun
    · cases h
  | take room =>
    simp only [step] at h
    split at h
    next no r n hdoing =>
      obtain ⟨⟨m, u⟩, hreceive, rfl⟩ := Option.map_eq_some_iff.mp h
      exact .takes hdoing hreceive
    · cases h
  | giveUp =>
    cases h
    exact .quiet _ _ _ nofun
  | close cap =>
    cases h
    exact .closes cap
  | answer no ok caps =>
    simp only [step] at h
    split at h
    next r hr =>
      split_ifs at h with hguard
      cases h
      exact .answers ok caps hr hguard
    · cases h
  | other tag ok caps =>
    cases h
    exact .others tag ok caps

lemma Trims.of_quiet {handles : List (Service × UInt8)} {doing : Doing} {held : Nat}
    {table : List Nat} (h : ∀ no r n, doing = .waiting no r n → s.doing = .waiting no r n) :
    Trims s { s with handles := handles, doing := doing, held := held, table := table } :=
  ⟨fun _ _ h => h, rfl, rfl, h, fun _ hd => .inl hd⟩

/-! ## A reply is taken for its own request -/

/-- What any run keeps: an unread answer begins with the tag of its request and lies where
that request's reply comes to, and the request that is waited for is on record. -/
structure Mail (s : Client) : Prop where
  unread : ∀ e, ∀ m ∈ s.queue e, ∀ no, m.answers = some no →
    ∃ r, s.asked[no]? = some r ∧ m.tag = some r.tag ∧ r.reply = e
  waiting : ∀ no r n, s.doing = .waiting no r n → s.asked[no]? = some r

/-- A request whose answer could be taken for that of `r`. -/
def Rival (r r' : Asked) : Prop :=
  r'.tag = r.tag ∧ r'.reply = r.reply ∧ (r.wait = .call → r'.service = r.service)

instance (r r' : Asked) : Decidable (Rival r r') := inferInstanceAs (Decidable (_ ∧ _ ∧ _))

/-- The answer to a request has come and was read, or will not come. -/
def Client.Settled (s : Client) (no : Nat) (r : Asked) : Prop :=
  s.Over no r ∧ ∀ m ∈ s.queue r.reply, m.answers ≠ some no

instance (s : Client) (no : Nat) (r : Asked) : Decidable (s.Settled no r) :=
  inferInstanceAs (Decidable (_ ∧ _))

/-- **The condition on a step.**  When a request is sent, every earlier one whose answer could
be taken for its own is settled; and unless it waits in the kernel, no message of another task
that begins with its tag is in the queue or arrives. -/
def TagsApart (s : Client) : Action → Prop
  | .send =>
    match s.doing with
    | .asking r _ _ _ =>
      (∀ no < s.asked.length, ∀ r' ∈ s.asked[no]?, Rival r r' → s.Settled no r') ∧
        (r.wait = .call ∨ ∀ m ∈ s.queue r.reply, m.answers = none → m.tag ≠ some r.tag)
    | _ => True
  | .other tag _ _ =>
    match s.doing with
    | .waiting _ r _ => r.wait = .call ∨ tag ≠ some r.tag
    | _ => True
  | _ => True

instance (s : Client) (a : Action) : Decidable (TagsApart s a) := by
  unfold TagsApart
  split <;> try split
  all_goals infer_instance

/-- The tag that the counter of a handle gives after `k` others. -/
def Service.ahead (tag k : Nat) : Service → Nat
  | .fs => (tag + k) % 255 + 1
  | .net => 128 + (tag + k + 1) % 64

lemma Service.toNat_nextTag (service : Service) (tag : UInt8) :
    (service.nextTag tag).toNat = service.ahead tag.toNat 0 := by
  have hlt := tag.toNat_lt
  cases service with
  | fs =>
    simp only [nextTag, ahead, ← UInt8.toNat_inj]
    split_ifs with hzero <;> simp at hzero ⊢ <;> omega
  | net =>
    have hmask := fun x => Nat.and_two_pow_sub_one_eq_mod x 6
    simp [nextTag, ahead, tagBase, UInt8.toNat_sub] at hmask ⊢
    rw [hmask]
    omega

lemma tag_of_chain {service : Service} {rs : List Asked} {r' : Asked}
    (h : (r' :: (rs ++ [r])).IsChain fun r r' => r'.tag = service.nextTag r.tag) :
    r.tag.toNat = service.ahead r'.tag.toNat rs.length := by
  induction rs generalizing r' with
  | nil =>
    rw [(isChain_cons_cons.mp h).1]
    exact service.toNat_nextTag r'.tag
  | cons q rs ih =>
    obtain ⟨hq, hrest⟩ := isChain_cons_cons.mp h
    rw [ih hrest, hq, service.toNat_nextTag, length_cons]
    cases service <;> simp only [Service.ahead] <;> omega

/-- One counter gives the requests to each service their tags. -/
def Counted (rs : List Asked) : Prop :=
  ∀ service, (rs.filter (·.service = service)).IsChain fun r r' => r'.tag = service.nextTag r.tag

/-- **A counter for each service keeps the tags apart.**  Until a tag comes again, 60 requests were
sent, so the condition is met by a Call that is sent when no answer is unread. -/
theorem tagsApart_of_counted (hdoing : s.doing = .asking r n d true) (hcall : r.wait = .call)
    (hcounted : Counted (s.asked ++ [r])) (hread : ∀ m ∈ s.queue r.reply, m.answers = none) :
    TagsApart s .send := by
  simp only [TagsApart, hdoing]
  refine ⟨fun no _ r' hr' ⟨htag, hreply, hservice⟩ => ⟨.inr ?_, fun m hm => ?_⟩, .inl hcall⟩
  · have hlt := r.tag.toNat_lt
    obtain ⟨hno, rfl⟩ := List.getElem?_eq_some_iff.mp hr'
    have hchain := hcounted r.service
    rw [← take_append_drop no s.asked, drop_eq_getElem_cons hno, append_assoc, filter_append] at hchain
    rw [cons_append, filter_cons_of_pos (by simp [hservice hcall]), filter_append,
      filter_cons_of_pos (by simp)] at hchain
    have hahead := tag_of_chain hchain.right_of_append
    rw [htag, ← countP_eq_length_filter] at hahead
    rw [hservice hcall]
    revert hahead
    cases r.service <;> simp only [Service.ahead] <;> omega
  · simp [hread m (hreply ▸ hm)]

/-- What the condition keeps while a request waits. -/
structure Clear (s : Client) (no : Nat) (r : Asked) : Prop where
  rivals : ∀ k r', k ≠ no → s.asked[k]? = some r' → Rival r r' → s.Settled k r'
  others : r.wait = .call ∨ ∀ m ∈ s.queue r.reply, m.answers = none → m.tag ≠ some r.tag

/-- The replies that were decoded answer the requests they were decoded for. -/
def OwnReplies (s : Client) : Prop := ∀ d ∈ s.decoded, d.2.answers = some d.1

structure Sound (s : Client) : Prop where
  clear : ∀ no r n, s.doing = .waiting no r n → Clear s no r
  own : OwnReplies s

lemma Client.Decodes.own (h : s.Decodes no m) (hmail : Mail s) (hsound : Sound s) :
    m.answers = some no := by
  obtain ⟨r, n, hdoing, hm, hmeets, htag⟩ := h
  have hclear := hsound.clear no r n hdoing
  have hcall : r.wait = .call → (m.answers.bind (s.asked[·]?)).map (·.service) = some r.service := by
    intro hwait
    simpa [meets, hwait] using hmeets
  cases hans : m.answers with
  | none =>
    obtain hwait | hothers := hclear.others
    · rw [hans] at hcall
      cases hcall hwait
    · exact absurd htag (hothers m hm hans)
  | some k =>
    by_contra hne
    obtain ⟨r', hr', htag', hreply⟩ := hmail.unread r.reply m hm k hans
    have hrival : Rival r r' := by
      refine ⟨Option.some.inj (htag'.symm.trans htag), hreply, fun hwait => ?_⟩
      simpa [hans, hr'] using hcall hwait
    have hsettled := hclear.rivals k r' (fun heq => hne (heq ▸ rfl)) hr' hrival
    exact hsettled.2 m (hreply ▸ hm) hans

lemma Mail.of_trims (h : Mail s) (ht : Trims s t) : Mail t := by
  refine ⟨fun e m hm no hno => ?_, fun no r n hdoing => ?_⟩
  · rw [ht.asked]
    exact h.unread e m (ht.queue e m hm) no hno
  · rw [ht.asked]
    exact h.waiting no r n (ht.waiting no r n hdoing)

lemma Sound.of_trims (h : Sound s) (hmail : Mail s) (ht : Trims s t) : Sound t := by
  refine ⟨fun no r n hdoing => ?_, fun d hd => ?_⟩
  · obtain ⟨hrivals, hothers⟩ := h.clear no r n (ht.waiting no r n hdoing)
    refine ⟨fun k r' hk hr' hrival => ?_, hothers.imp_right fun ho m hm => ho m (ht.queue _ m hm)⟩
    obtain ⟨hover, hread⟩ := hrivals k r' hk (ht.asked ▸ hr') hrival
    refine ⟨?_, fun m hm => hread m (ht.queue _ m hm)⟩
    rwa [Over, ht.answered, ht.asked]
  · obtain hold | hnew := ht.decoded d hd
    · exact h.own d hold
    · exact hnew.own hmail h

lemma mem_arrive {e' : Endpoint} (h : m ∈ (s.arrive e tag ok answers caps).queue e') :
    m ∈ s.queue e' ∨ e' = e ∧ m = ⟨tag, ok, answers, List.range' s.minted caps⟩ := by
  simp only [arrive, update_apply] at h
  split_ifs at h with he
  · subst he
    simpa using h
  · exact .inl h

lemma Mail.of_arrive (h : Mail s) (hnew : ∀ no, answers = some no →
      ∃ r, s.asked[no]? = some r ∧ tag = some r.tag ∧ r.reply = e) :
    Mail { s.arrive e tag ok answers caps with answered := answered } := by
  refine ⟨fun e' m hm k hk => ?_, h.waiting⟩
  obtain hm | ⟨rfl, rfl⟩ := mem_arrive hm
  · exact h.unread e' m hm k hk
  · exact hnew k hk

lemma Mail.step (h : Mail s) (hstep : step hasMailbox s a = some t) : Mail t := by
  cases moves_of_step hstep with
  | quiet handles doing held hdoing => exact h.of_trims (.of_quiet hdoing)
  | closes cap => exact h.of_trims (.of_quiet fun _ _ _ h => h)
  | drains room hdoing => exact h.of_trims (.of_drain ..)
  | takes hdoing hreceive => exact h.of_trims (.of_took hdoing hreceive)
  | sends hdoing =>
    refine ⟨fun e m hm no hno => ?_, fun no r' n' hdoing => ?_⟩
    · obtain ⟨r', hr', htag, hreply⟩ := h.unread e m hm no hno
      obtain ⟨hlt, -⟩ := List.getElem?_eq_some_iff.mp hr'
      exact ⟨r', by rwa [getElem?_append_left hlt], htag, hreply⟩
    · cases hdoing
      exact getElem?_concat_length
  | answers ok caps hr hopen =>
    refine h.of_arrive fun no hno => ?_
    cases hno
    exact ⟨_, hr, rfl, rfl⟩
  | others tag ok caps => exact h.of_arrive nofun

lemma Sound.of_send (h : Sound s) (hok : TagsApart s .send)
    (hasking : s.doing = .asking r n d true) :
    Sound { s with doing := .waiting s.asked.length r n, asked := s.asked ++ [r] } := by
  simp only [TagsApart, hasking] at hok
  refine ⟨fun no r' n' hdoing => ?_, h.own⟩
  cases hdoing
  refine ⟨fun k r' hk hr' hrival => ?_, hok.2⟩
  obtain ⟨hlt, -⟩ := List.getElem?_eq_some_iff.mp hr'
  rw [length_append, length_singleton] at hlt
  rw [getElem?_append_left (by omega)] at hr'
  obtain ⟨hover, hread⟩ := hok.1 k (by omega) r' hr' hrival
  refine ⟨hover.imp_right fun hlater => Nat.le_trans hlater ?_, hread⟩
  exact ((sublist_append_left _ _).drop _).countP_le

/-- A message comes that does not answer a request settled before and that the request waited
for does not take for its reply. -/
lemma Sound.of_arrive (h : Sound s) (hsub : s.answered ⊆ answered)
    (hnew : ∀ k r, s.asked[k]? = some r → s.Over k r → answers ≠ some k)
    (hother : ∀ no r n, s.doing = .waiting no r n →
      r.wait = .call ∨ (answers = none → tag ≠ some r.tag)) :
    Sound { s.arrive e tag ok answers caps with answered := answered } := by
  refine ⟨fun no r n hdoing => ?_, h.own⟩
  obtain ⟨hrivals, hothers⟩ := h.clear no r n hdoing
  refine ⟨fun k r' hk hr' hrival => ?_, ?_⟩
  · obtain ⟨hover, hread⟩ := hrivals k r' hk hr' hrival
    refine ⟨hover.imp_left (hsub ·), fun m hm hk' => ?_⟩
    obtain hm | ⟨-, rfl⟩ := mem_arrive hm
    · exact hread m hm hk'
    · exact hnew k r' hr' hover hk'
  · obtain hcall | hnew := hother no r n hdoing
    · exact .inl hcall
    refine hothers.imp_right fun ho m hm hnone => ?_
    obtain hm | ⟨-, rfl⟩ := mem_arrive hm
    · exact ho m hm hnone
    · exact hnew hnone

lemma Sound.step (h : Sound s) (hmail : Mail s) (hok : TagsApart s a)
    (hstep : step hasMailbox s a = some t) : Sound t := by
  cases moves_of_step hstep with
  | quiet handles doing held hdoing => exact h.of_trims hmail (.of_quiet hdoing)
  | closes cap => exact h.of_trims hmail (.of_quiet fun _ _ _ h => h)
  | drains room hdoing => exact h.of_trims hmail (.of_drain ..)
  | takes hdoing hreceive => exact h.of_trims hmail (.of_took hdoing hreceive)
  | sends hdoing => exact h.of_send hok hdoing
  | answers ok caps hr hopen =>
    refine h.of_arrive (subset_cons_self ..) (fun k r' hr' hover => ?_) fun _ _ _ _ => .inr nofun
    rintro ⟨⟩
    cases hr.symm.trans hr'
    exact hopen hover
  | others tag ok caps =>
    refine h.of_arrive (Subset.refl _) nofun fun no r n hdoing => ?_
    simp only [TagsApart, hdoing] at hok
    exact hok.imp_right fun hne _ => hne

lemma Mail.of_reaches {ok : Client → Action → Prop} (h : Reaches (Sdk.step hasMailbox) ok .start s) :
    Mail s := by
  have hstart : Mail .start := by
    refine ⟨fun e m hm => ?_, fun no r n hdoing => ?_⟩
    · cases hm
    · cases hdoing
  exact h.invariant hstart fun _ _ _ hmail _ hstep => hmail.step hstep

/-- **A reply is taken for its own request**, in every run whose steps meet the condition. -/
theorem replies_own (h : Reaches (step hasMailbox) TagsApart .start s) : OwnReplies s := by
  have hstart : Sound .start := by
    refine ⟨fun no r n hdoing => ?_, fun d hd => ?_⟩
    · cases hdoing
    · cases hd
  exact (h.invariant_of (fun _ hrun => Mail.of_reaches hrun) hstart
    fun _ _ _ hmail hsound hok hstep => hsound.step hmail hok hstep).own

/-- Two requests through one handle, the first given up and answered late. -/
def late : List Action :=
  [.make .fs 1, .ask 0 .call false 0, .drain 64, .send, .giveUp, .ask 0 .call false 0, .drain 64, .send,
    .answer 1 true 0, .take 64, .answer 0 true 0]

/-- The condition can be met by a run that decodes a reply. -/
theorem replies_own_late : ∃ s, Reaches (step true) TagsApart .start s ∧
    s.decoded.map (·.1) = [1] ∧ OwnReplies s :=
  exists_reaches_and late (by decide +kernel) fun _ hs _ => replies_own hs

/-- The same with a handle for each request: both have the tag 2, and the answer to the first
comes after the mailbox was cleared. -/
def again : List Action :=
  [.make .fs 1, .make .fs 1, .ask 0 .call false 0, .drain 64, .send, .giveUp, .ask 1 .call false 0,
    .drain 64, .send, .answer 0 true 0, .take 64]

/-- Another task's message that begins with the tag of a watched request. -/
def forged : List Action :=
  [.make .net tagBase, .ask 0 .sifted false 0, .drain 64, .send, .other (some 0x81) true 0, .take 64]

/-- A reply with a success was decoded for a request that it does not answer. -/
def Mistaken (s : Client) : Prop := ∃ d ∈ s.decoded, d.2.ok = true ∧ d.2.answers ≠ some d.1

instance (s : Client) : Decidable (Mistaken s) := inferInstanceAs (Decidable (∃ d ∈ _, _))

/-- The answer to an earlier request, or a message that answers none, is decoded as a reply. -/
theorem replies_not_own :
    (∃ s, Reaches (step true) Free .start s ∧ Mistaken s ∧ s.decoded.map (·.1) = [1]) ∧
      ∃ s, Reaches (step true) Free .start s ∧ Mistaken s ∧ s.decoded.map (·.2.answers) = [none] :=
  ⟨exists_reaches again (by decide +kernel), exists_reaches forged (by decide +kernel)⟩

/-! ## An opened handle is the thing that was asked for -/

/-- A handle holds the one capability that came with the answer to its request. -/
def OwnHandles (s : Client) : Prop :=
  ∀ o ∈ s.opened, o.2.1.answers = some o.1 ∧ o.2.1.caps = [o.2.2]

/-- No capability of a discarded message is in the table. -/
def Released (s : Client) : Prop := ∀ cap ∈ s.discarded, cap ∉ s.table

/-- **The condition on a step.**  A message that is drained carries no capability, or at most
one from the mailbox; when a request is sent, none is unread where its reply will come; and while
it waits, only a success that answers it comes there with one, if it opens something. -/
def CapsApart (s : Client) : Action → Prop
  | .drain _ =>
    match s.doing with
    | .asking r _ _ _ => r.drains = true →
        ∀ m ∈ (s.queue r.reply).head?, m.caps.length ≤ if r.wait = .call then 1 else 0
    | _ => True
  | .send =>
    match s.doing with
    | .asking r _ _ _ => ∀ m ∈ s.queue r.reply, m.caps = []
    | _ => True
  | .answer k ok caps =>
    match s.doing, s.asked[k]? with
    | .waiting no r _, some r' =>
      r'.reply = r.reply → caps ≤ if k = no ∧ ok = true ∧ r.opens = true then 1 else 0
    | _, _ => True
  | .other _ _ caps =>
    match s.doing with
    | .waiting _ r _ => r.reply = .own → caps = 0
    | _ => True
  | _ => True

instance (s : Client) (a : Action) : Decidable (CapsApart s a) := by
  unfold CapsApart
  split <;> try split
  all_goals infer_instance

/-- A message that may be received while request `no` waits. -/
def Fits (no : Nat) (r : Asked) (m : Msg) : Prop :=
  m.caps = [] ∨ m.answers = some no ∧ r.opens = true ∧ m.ok = true ∧ ∃ cap, m.caps = [cap]

/-- How often a capability is unread, in the table or among the discarded. -/
def Client.copies (s : Client) (cap : Nat) : Nat :=
  ((s.queue .own).flatMap (·.caps)).count cap + ((s.queue .mailbox).flatMap (·.caps)).count cap +
    (s.table.count cap + s.discarded.count cap)

structure Kept (s : Client) : Prop where
  pending : s.pending = []
  fits : ∀ no r n, s.doing = .waiting no r n → ∀ m ∈ s.queue r.reply, Fits no r m
  copies : ∀ cap, s.copies cap ≤ if cap < s.minted then 1 else 0
  opened : OwnHandles s

lemma Kept.released (h : Kept s) : Released s := by
  intro cap hdiscarded htable
  have hone := h.copies cap
  have hd := count_pos_iff.mpr hdiscarded
  have ht := count_pos_iff.mpr htable
  unfold Client.copies at hone
  split_ifs at hone <;> omega

lemma copies_eraseP (h : (s.queue e).find? accepts = some m) (cap : Nat) :
    s.copies cap = (s.dequeue e accepts).copies cap + m.caps.count cap := by
  have hperm := (FirstMatch.perm_eraseP_of_find? h).flatMap_right (·.caps)
  have hcount := hperm.count_eq cap
  rw [flatMap_cons, count_append] at hcount
  cases e <;> simp [copies, dequeue] <;> omega

lemma copies_arrive (h : ∀ cap, s.copies cap ≤ if cap < s.minted then 1 else 0) (cap : Nat) :
    (s.arrive e tag ok answers caps).copies cap ≤ if cap < s.minted + caps then 1 else 0 := by
  have heq : (s.arrive e tag ok answers caps).copies cap =
      s.copies cap + (range' s.minted caps).count cap := by
    cases e <;> simp [copies, arrive] <;> omega
  have hold := h cap
  rw [heq]
  by_cases hmem : cap ∈ range' s.minted caps
  · have hone := count_eq_one_of_mem nodup_range' hmem
    rw [mem_range'_1] at hmem
    rw [if_neg (by omega)] at hold
    rw [if_pos (by omega)]
    omega
  · rw [count_eq_zero.mpr hmem]
    split_ifs at hold ⊢ <;> omega

lemma install_one {room cap : Nat} (h : s.pending = []) :
    s.install (room + 1) [cap] = { s with pending := [cap], table := cap :: s.table } := by
  rw [install, h]
  rfl

lemma cleared (hpend : s.pending = []) (hcaps : m.caps.length ≤ if r.wait = .call then 1 else 0) :
    (if r.wait = .call then (s.install room m.caps).release else s.install room m.caps) = s := by
  have hrelease : s.release = s := by rw [release, hpend]
  obtain hnil | ⟨cap, hone⟩ : m.caps = [] ∨ ∃ cap, m.caps = [cap] := by
    rw [← length_eq_zero_iff, ← length_eq_one_iff]
    split_ifs at hcaps <;> omega
  · rw [hnil, install_nil, hrelease, ite_self]
  rw [if_pos (by by_contra hcall; simp [hone, hcall] at hcaps), hone]
  cases room with
  | zero => exact hrelease
  | succ room =>
    rw [install_one hpend, release]
    simp [← hpend]

lemma Kept.of_trims (h : Kept s) (ht : Trims s t) (hpend : t.pending = [])
    (hcopies : ∀ cap, t.copies cap ≤ s.copies cap) (hminted : t.minted = s.minted)
    (hopened : OwnHandles t) : Kept t := by
  refine ⟨hpend, fun no r n hdoing m hm => ?_, fun cap => ?_, hopened⟩
  · exact h.fits no r n (ht.waiting no r n hdoing) m (ht.queue _ m hm)
  · exact hminted ▸ Nat.le_trans (hcopies cap) (h.copies cap)

/-- The capabilities of a message that was received and dropped. -/
lemma copies_discard (h : (s.queue e).find? accepts = some m) (cap : Nat) :
    ((s.dequeue e accepts).discard m).copies cap ≤ s.copies cap := by
  rw [copies_eraseP h cap]
  simp only [copies, Client.discard, count_append]
  omega

lemma Kept.of_drain (h : Kept s) (hok : CapsApart s (.drain room))
    (hdoing : s.doing = .asking r n d false) : Kept (s.drain r n d room) := by
  simp only [CapsApart, hdoing] at hok
  have ht := Trims.of_drain s r n d room
  unfold drain at ht ⊢
  split at ht
  · exact h.of_trims ht h.pending (fun _ => Nat.le_refl _) rfl h.opened
  rename_i m u hreceive
  split_ifs at hreceive with hdrains
  obtain ⟨hfind, rfl⟩ := of_receive hreceive
  have hhead : (s.queue r.reply).head? = some m := by
    cases hq : s.queue r.reply <;> simp_all
  have hpend : (s.dequeue r.reply fun _ => true).pending = [] := h.pending
  rw [cleared hpend (hok hdrains m hhead)] at ht ⊢
  exact h.of_trims ht h.pending (copies_discard hfind) rfl h.opened

lemma Client.decode_of_nil (h : s.pending = []) :
    s.decode no r m = { s with doing := .idle, decoded := (no, m) :: s.decoded } := by
  unfold decode
  split
  · simp_all
  · rfl

lemma Kept.of_took (h : Kept s) (hmail : Mail s) (hdoing : s.doing = .waiting no r n)
    (hreceive : s.receive r.reply (s.meets r) room = some (m, u)) : Kept (u.took no r m) := by
  have ht := Trims.of_took hdoing hreceive
  obtain ⟨hfind, rfl⟩ := of_receive hreceive
  have hm := mem_of_find?_eq_some hfind
  have hle : ∀ cap, (s.dequeue r.reply (s.meets r)).copies cap ≤ s.copies cap := fun cap => by
    rw [copies_eraseP hfind cap]
    exact Nat.le_add_right _ _
  have hpend : (s.dequeue r.reply (s.meets r)).pending = [] := h.pending
  obtain hnil | ⟨hans, hopens, hgood, cap, hcaps⟩ := h.fits no r n hdoing m hm
  · have hdiscard := copies_discard hfind
    rw [hnil, install_nil] at ht ⊢
    revert ht
    unfold took
    split
    · rw [decode_of_nil hpend]
      exact fun ht => h.of_trims ht h.pending hle rfl h.opened
    split
    · exact fun ht => h.of_trims ht h.pending hdiscard rfl h.opened
    · split_ifs
      · exact fun ht => h.of_trims ht h.pending hle rfl h.opened
      · exact fun ht => h.of_trims ht h.pending hdiscard rfl h.opened
    · exact fun ht => h.of_trims ht h.pending hdiscard rfl h.opened
  · -- the answer to this request begins with its tag
    obtain ⟨r', hr', htag, -⟩ := hmail.unread _ m hm no hans
    rw [hmail.waiting no r n hdoing] at hr'
    cases hr'
    rw [took, if_pos htag, hcaps] at ht ⊢
    cases room with
    | zero =>
      have hnone : (s.dequeue r.reply (s.meets r)).install 0 [cap] = s.dequeue r.reply (s.meets r) := rfl
      rw [hnone, decode_of_nil hpend] at ht ⊢
      exact h.of_trims ht h.pending hle rfl h.opened
    | succ room =>
      rw [install_one hpend] at ht ⊢
      simp only [decode, hopens, hgood, Bool.and_self] at ht ⊢
      refine h.of_trims ht rfl (fun cap' => ?_) rfl ?_
      · rw [copies_eraseP hfind cap', hcaps]
        simp only [Client.copies, count_cons]
        omega
      · rintro o (_ | ⟨_, ho⟩)
        · exact ⟨hans, hcaps⟩
        · exact h.opened o ho

lemma Kept.of_arrive (h : Kept s) (hfits : ∀ no r n, s.doing = .waiting no r n → r.reply = e →
      Fits no r ⟨tag, ok, answers, List.range' s.minted caps⟩) :
    Kept { s.arrive e tag ok answers caps with answered := answered } := by
  refine ⟨h.pending, fun no r n hdoing m hm => ?_, copies_arrive h.copies, h.opened⟩
  obtain hm | ⟨he, rfl⟩ := mem_arrive hm
  · exact h.fits no r n hdoing m hm
  · exact hfits no r n hdoing he

lemma Kept.step (h : Kept s) (hmail : Mail s) (hok : CapsApart s a)
    (hstep : step hasMailbox s a = some t) : Kept t := by
  cases moves_of_step hstep with
  | quiet handles doing held hdoing =>
    exact h.of_trims (.of_quiet hdoing) h.pending (fun _ => Nat.le_refl _) rfl h.opened
  | closes cap =>
    refine h.of_trims (.of_quiet fun _ _ _ h => h) h.pending (fun cap' => ?_) rfl h.opened
    have hle := (erase_sublist (a := cap) (l := s.table)).count_le cap'
    simp only [Client.copies]
    omega
  | drains room hdoing => exact h.of_drain hok hdoing
  | takes hdoing hreceive => exact h.of_took hmail hdoing hreceive
  | sends hasking =>
    simp only [CapsApart, hasking] at hok
    refine ⟨h.pending, fun no r' n' hdoing m hm => ?_, h.copies, h.opened⟩
    cases hdoing
    exact .inl (hok m hm)
  | answers ok caps hr hopen =>
    refine h.of_arrive fun no r n hdoing hreply => ?_
    simp only [CapsApart, hdoing, hr] at hok
    have hle := hok hreply.symm
    split_ifs at hle with hown
    · obtain ⟨rfl, hgood, hopens⟩ := hown
      obtain rfl | rfl : caps = 0 ∨ caps = 1 := by omega
      · exact .inl rfl
      · exact .inr ⟨rfl, hopens, hgood, s.minted, rfl⟩
    · cases Nat.le_zero.mp hle
      exact .inl rfl
  | others tag ok caps =>
    refine h.of_arrive fun no r n hdoing hreply => ?_
    simp only [CapsApart, hdoing] at hok
    cases hok hreply
    exact .inl rfl

/-- **An opened handle is the thing that was asked for, and what is discarded is released**, in
every run whose steps meet the condition. -/
theorem handles_own (h : Reaches (step hasMailbox) CapsApart .start s) : OwnHandles s ∧ Released s := by
  have hstart : Kept .start := by
    refine ⟨rfl, fun no r n hdoing => ?_, fun cap => Nat.zero_le _, fun o ho => ?_⟩
    · cases hdoing
    · cases ho
  have hkept : Kept s := h.invariant_of (fun _ hrun => Mail.of_reaches hrun) hstart
    fun _ _ _ hmail hkept hok hstep => hkept.step hmail hok hstep
  exact ⟨hkept.opened, hkept.released⟩

/-- A file is opened after another open was given up; its late answer is drained. -/
def reopened : List Action :=
  [.make .fs 1, .ask 0 .call true 0, .drain 64, .send, .giveUp, .answer 0 true 1, .ask 0 .call true 0,
    .drain 64, .drain 64, .send, .answer 1 true 1, .take 64]

/-- The condition can be met by a run that opens a file. -/
theorem handles_own_reopened : ∃ s, Reaches (step true) CapsApart .start s ∧
    s.opened.map (·.2.2) = [1] ∧ s.discarded = [0] ∧ OwnHandles s ∧ Released s := by
  obtain ⟨s, hs, hopened, hdiscarded⟩ : ∃ s, Reaches (step true) CapsApart .start s ∧
      s.opened.map (·.2.2) = [1] ∧ s.discarded = [0] := exists_reaches reopened (by decide +kernel)
  exact ⟨s, hs, hopened, hdiscarded, handles_own hs⟩

/-- Another task's message with a capability lies in the queue when a noticing open drains it. -/
def stray : List Action :=
  [.make .fs 1, .other none true 1, .ask 0 .next true 0, .drain 64, .drain 64, .send, .answer 0 true 1,
    .take 64]

/-- The file that is opened holds the capability of the discarded message, which is still in the
table. -/
theorem handles_not_own : ∃ s, Reaches (step true) Free .start s ∧
    s.opened.map (fun o => (o.2.1.caps, o.2.2)) = [([1], 0)] ∧ s.discarded = [0] ∧ 0 ∈ s.table :=
  exists_reaches stray (by decide +kernel)

end Godspeed.Sdk
