import Godspeed.Lib.Custody
import Godspeed.Machine.Waiting

/-!
# What a step does to one endpoint

`EntryMove` lists the ways the entry of an endpoint changes, together with its
history: a message is queued, a sender parks, a message is taken and the parked
one moves up, a receiver registers, the endpoint is killed, its id begins a new
life or its dead entry is taken over.  `Effect.entryMove` says that every step is
one of them for every endpoint.

The history of an endpoint is an instance of `Custody.Ledger`, and each move is
one of its moves.
-/

namespace Godspeed.Machine

open Ipc Capability State Function

variable (s : State) {entry : EndpointState Msg} {recv : Incarnation} {a : Action}

/-- The history of an endpoint with what its entry holds now. -/
def State.ledger (id : Nat) : Custody.Ledger Msg where
  handed := s.log.handed id
  entered := s.log.entered id
  taken := s.log.taken id
  drained := s.log.drained id
  dropped := s.log.dropped id
  queued := s.queued id
  pending := s.pending id

/-- Nothing is queued or parked at a dead endpoint. -/
def State.Still : Prop :=
  ∀ id entry, s.entry id = some entry → entry.liveness = .dead → Quiet entry

/-- The step dequeues from `recv`: the task stands before a dequeue of a wait on
it, or calls `try_recv` on an endpoint of its own. -/
def Dequeues (a : Action) (slot : Slot) (recv : Incarnation) : Prop :=
  s.Alive recv ∧ ((a = .attempt slot ∧ ∃ wait, s.At slot (.waiting wait .attempt) ∧
      wait.own = some recv) ∨
    (s.At slot .user ∧ ∃ own, a = .tryRecv slot own ∧ (s.task slot).own own = some recv))

/-- The ways the entry and the history of an endpoint change. -/
inductive EntryMove (s s' : State) (a : Action) (id : Nat) : Prop
  | same (hentry : s'.entry id = s.entry id) (hledger : s'.ledger id = s.ledger id)
  | queued (entry : EndpointState Msg) (queue : MessageQueue Msg) (msg : Msg)
      (hlookup : s.entry id = some entry) (halive : entry.liveness = .alive)
      (hqueue : queue.messages = entry.queue.messages ++ [msg])
      (hentry : s'.entry id = some { entry with blockedReceiver := none, queue := queue })
      (hnew : msg.ticket = s.log.tickets ∧ s'.log.tickets = s.log.tickets + 1 ∧ msg.dest = id)
      (hledger : s'.ledger id = { s.ledger id with
        handed := (s.ledger id).handed ++ [msg]
        entered := (s.ledger id).entered ++ [msg]
        queued := (s.ledger id).queued ++ [msg] })
      (howed : ∀ receiver, entry.blockedReceiver = some receiver → ⟨receiver, 0, 0⟩ ∈ s'.owed)
      (hstamp : Stamps s ⟨msg.senderEp, msg.senderGen⟩)
  | parked (entry : EndpointState Msg) (sender : Slot) (msg : Msg)
      (hlookup : s.entry id = some entry) (hlive : entry.checkLive a.capGen = true)
      (haction : a.blockingSend = some (sender, id)) (hat : s.At sender .user)
      (hfull : entry.queue.enqueue msg = none)
      (hentry : s'.entry id = some { entry with
        blockedSender := some sender, pendingSend := some msg, paired := rfl })
      (hnew : msg.ticket = s.log.tickets ∧ s'.log.tickets = s.log.tickets + 1 ∧ msg.dest = id)
      (hledger : s'.ledger id = { s.ledger id with
        handed := (s.ledger id).handed ++ [msg], pending := [msg] })
      (hstamp : Stamps s ⟨msg.senderEp, msg.senderGen⟩)
  | taken (entry entry' : EndpointState Msg) (msg : Msg) (rest : List Msg) (slot : Slot)
      (recv : Incarnation) (hid : recv.id = id) (hdequeues : Dequeues s a slot recv)
      (hlookup : s.entry id = some entry) (hqueue : entry.queue.messages.Perm (msg :: rest))
      (hreleased : EndpointState.Released entry rest entry')
      (hentry : s'.entry id = some entry')
      (hledger : s'.ledger id = { s.ledger id with
        taken := (s.ledger id).taken ++ [msg]
        entered := (s.ledger id).entered ++ (s.ledger id).pending
        queued := rest ++ (s.ledger id).pending
        pending := [] })
      (howed : ∀ sender, entry.blockedSender = some sender → ⟨sender, 0, 0⟩ ∈ s'.owed)
  | registered (entry : EndpointState Msg) (slot : Slot) (recv : Incarnation)
      (hid : recv.id = id) (hdequeues : Dequeues s a slot recv)
      (hlookup : s.entry id = some entry)
      (hentry : s'.entry id = some { entry with blockedReceiver := some slot })
      (hledger : s'.ledger id = s.ledger id)
  | killed (entry entry' : EndpointState Msg) (victim : Slot) (own : Own) (life : Incarnation)
      (haction : a = .killStep victim) (hhas : s.Has victim own life)
      (hkeeps : (s.task victim).keeps own) (hid : life.id = id)
      (hdying : (s.task victim).killStage ≠ none) (hlookup : s.entry id = some entry)
      (hentry : s'.entry id = some entry') (hdead : entry'.liveness = .dead)
      (hquiet : Quiet entry')
      (hledger : s'.ledger id = { s.ledger id with
        drained := (s.ledger id).drained ++ (s.ledger id).queued
        dropped := (s.ledger id).dropped ++ (s.ledger id).pending
        queued := []
        pending := [] })
      (howed : ∀ slot, slot ≠ victim →
        entry.blockedReceiver = some slot ∨ entry.blockedSender = some slot →
        ⟨slot, IpcError.endpointDead.code, 0⟩ ∈ s'.owed)
      (hnext : own = .endpoint →
        s'.task victim = { s.task victim with killStage := some .draining })
  | renewed (coreId generation : Nat) (hgone : ¬ s.AliveId id)
      (hentry : s'.entry id = some (.fresh coreId generation))
      (hledger : s'.ledger id = s.ledger id) (hlifeGen : s'.log.lifeGen id = generation)
      (hdraws : id ∈ a.draws s)
  | vanished (entry : EndpointState Msg) (hlookup : s.entry id = some entry)
      (hdead : entry.liveness = .dead) (hentry : s'.entry id = none)
      (hledger : s'.ledger id = s.ledger id)

section Views

variable {s s' : State} {id : Nat}

lemma ledger_eq (hentry : s'.entry id = s.entry id) (hhanded : s'.log.handed id = s.log.handed id)
    (hentered : s'.log.entered id = s.log.entered id) (htaken : s'.log.taken id = s.log.taken id)
    (hdrained : s'.log.drained id = s.log.drained id)
    (hdropped : s'.log.dropped id = s.log.dropped id) : s'.ledger id = s.ledger id := by
  simp [ledger, queued, pending, hentry, hhanded, hentered, htaken, hdrained, hdropped]

lemma EntryMove.of_routing (hrouting : s'.routing.table = s.routing.table)
    (htraffic : SameTraffic s.log s'.log) : EntryMove s s' a id := by
  have hentry : s'.entry id = s.entry id := by simp [entry, hrouting]
  exact .same hentry (ledger_eq hentry (by rw [htraffic.handed]) (by rw [htraffic.entered])
    (by rw [htraffic.taken]) (by rw [htraffic.drained]) (by rw [htraffic.dropped]))

lemma EntryMove.of_write {endpoint : Nat} {new : EndpointState Msg}
    (hentry : s'.entry = update s.entry endpoint (some new))
    (hlog : ∀ other, other ≠ endpoint → s'.log.handed other = s.log.handed other ∧
      s'.log.entered other = s.log.entered other ∧ s'.log.taken other = s.log.taken other ∧
      s'.log.drained other = s.log.drained other ∧ s'.log.dropped other = s.log.dropped other)
    (hself : id = endpoint → s'.entry id = some new → EntryMove s s' a id) :
    EntryMove s s' a id := by
  by_cases hid : id = endpoint
  · exact hself hid (by rw [hentry, hid, update_self])
  · have hsame : s'.entry id = s.entry id := by rw [hentry, update_of_ne hid]
    obtain ⟨hhanded, hentered, htaken, hdrained, hdropped⟩ := hlog id hid
    exact .same hsame (ledger_eq hsame hhanded hentered htaken hdrained hdropped)

end Views

section Spawning

variable {s s' : State} {slot : Slot} {id : Nat}

/-- What a spawn leaves of an entry: it is kept, begins a new life over a dead
one, or is taken over. -/
lemma Spawns.entry_cases (hlives : Lives s) (h : Spawns s slot s') (id : Nat) :
    s'.entry id = s.entry id ∨ (¬ s.AliveId id ∧ id ∈ s.draws ∧ ∃ coreId generation,
        s'.entry id = some (.fresh coreId generation) ∧ s'.log.lifeGen id = generation) ∨
      (s'.entry id = none ∧ ∃ entry, s.entry id = some entry ∧ entry.liveness = .dead) := by
  have havail : ∀ {t t' : State} {life : Incarnation}, Lives t → Registers t t' life →
      t.ids.Available life.id := fun hlives hregs =>
    (EndpointIds.alloc_spec hlives.issued hregs.alloc).2.1
  cases h with
  | plain => exact .inl rfl
  | full _ hdraws => exact .inl (by simp [entry, hdraws.routing])
  | single s₁ s₂ life hregs hdraws =>
    have hlast : (s₂.commit slot (some life) none).entry id = s₁.entry id := by
      simp [commit, entry, hdraws.routing]
    rw [hlast]
    by_cases hid : id = life.id
    · subst hid
      obtain ⟨coreId, hfresh⟩ := hregs.fresh
      exact .inr (.inl ⟨hlives.available _ (havail hlives hregs),
        hregs.mem_draws, coreId, _, hfresh,
        by simp [commit, hdraws.log, hregs.log]⟩)
    · rcases hregs.others id hid with hsame | hgone
      · exact .inl hsame
      · exact .inr (.inr hgone)
  | pair s₁ s₂ life reply hregs hreply =>
    have hlives₁ := (hregs.lives hlives).1
    obtain ⟨-, havailable₁, -, -⟩ := hregs.drawn hlives
    by_cases hreplyId : id = reply.id
    · subst hreplyId
      obtain ⟨coreId, hfresh⟩ := hreply.fresh
      have hold := ((havailable₁ reply.id).mp (havail hlives₁ hreply)).1
      exact .inr (.inl ⟨hlives.available _ hold, hregs.mem_draws_second hreply, coreId, _, hfresh,
        by simp [commit, hreply.log]⟩)
    by_cases hid : id = life.id
    · subst hid
      obtain ⟨coreId, hfresh⟩ := hregs.fresh
      refine .inr (.inl ⟨hlives.available _ (havail hlives hregs),
        hregs.mem_draws, coreId, life.generation, ?_, by simp [commit, hreply.log, hregs.log, hreplyId]⟩)
      -- the second registration takes over dead entries only
      rcases hreply.others life.id hreplyId with hsame | ⟨-, entry, hlook, hdead⟩
      · exact hsame.trans hfresh
      · rw [hfresh] at hlook
        cases hlook
        cases hdead
    · rcases hreply.others id hreplyId with hsame | ⟨hnone, entry, hlook, hdead⟩ <;>
        rcases hregs.others id hid with hsame' | ⟨hnone', hdead'⟩
      · exact .inl (hsame.trans hsame')
      · exact .inr (.inr ⟨hsame.trans hnone', hdead'⟩)
      · exact .inr (.inr ⟨hnone, entry, hsame'.symm.trans hlook, hdead⟩)
      · cases (hnone'.symm.trans hlook)

lemma State.Still.empty (hstill : s.Still) (hgone : ¬ s.AliveId id) :
    s.queued id = [] ∧ s.pending id = [] := by
  cases hlook : s.entry id with
  | none => simp [queued, pending, hlook]
  | some entry =>
    have hdead : entry.liveness = .dead := by
      cases hlive : entry.liveness with
      | alive => exact absurd (aliveId_of_entry hlook hlive) hgone
      | dead => rfl
    have hquiet := hstill id entry hlook hdead
    simp [queued, pending, hlook, hquiet.queue, hquiet.pendingSend]

lemma Spawns.entryMove (hlives : Lives s) (hstill : s.Still)
    (h : Spawns s slot s') (hdraws : a.draws s = s.draws) (id : Nat) : EntryMove s s' a id := by
  obtain ⟨lifeGen, hlog⟩ := h.log_eq
  have hledger : s'.queued id = s.queued id → s'.pending id = s.pending id →
      s'.ledger id = s.ledger id := by
    intro hqueued hpend
    simp [ledger, hqueued, hpend, hlog]
  rcases h.entry_cases hlives id with hsame |
    ⟨hgone, hdrawn, coreId, generation, hfresh, hlifeGen⟩ |
    ⟨hnone, entry, hlook, hdead⟩
  · refine .same hsame (hledger ?_ ?_) <;> simp [queued, pending, hsame]
  · obtain ⟨hqueued, hpend⟩ := hstill.empty hgone
    refine .renewed coreId generation hgone hfresh (hledger ?_ ?_) hlifeGen (hdraws ▸ hdrawn)
    · rw [hqueued, queued, hfresh]
      rfl
    · rw [hpend, pending, hfresh]
      rfl
  · have hquiet := hstill id entry hlook hdead
    refine .vanished entry hlook hdead hnone (hledger ?_ ?_)
    · simp [queued, hnone, hlook, hquiet.queue]
    · simp [pending, hnone, hlook, hquiet.pendingSend]

end Spawning

section Traffic

variable {s s' : State} {a : Action} {id : Nat}

lemma append_of_ne {history : Nat → List Msg} {endpoint other : Nat} {msgs : List Msg}
    (h : other ≠ endpoint) : Log.append history endpoint msgs other = history other := by
  simp [Log.append, h]

lemma append_self {history : Nat → List Msg} {endpoint : Nat} {msgs : List Msg} :
    Log.append history endpoint msgs endpoint = history endpoint ++ msgs := by
  simp [Log.append]

lemma EntryMove.of_enqueue {endpoint payloadLen : Nat}
    {queue : MessageQueue Msg} {stamp : Incarnation}
    (hentry : s'.entry = (s.enqueue endpoint entry queue
      (s.message stamp endpoint payloadLen)).entry)
    (htraffic : SameTraffic { (s.enqueue endpoint entry queue
      (s.message stamp endpoint payloadLen)).log with calls := s'.log.calls } s'.log)
    (howed : s'.owed = (s.enqueue endpoint entry queue (s.message stamp endpoint payloadLen)).owed)
    (hlook : s.entry endpoint = some entry) (halive : entry.liveness = .alive)
    (hqueue : queue.messages = entry.queue.messages ++ [s.message stamp endpoint payloadLen])
    (hstamp : Stamps s stamp) : EntryMove s s' a id := by
  refine .of_write (hentry.trans (lookup_write_entry hlook _)) ?_ ?_
  · intro other hother
    rw [htraffic.handed, htraffic.entered, htraffic.taken, htraffic.drained, htraffic.dropped]
    exact ⟨append_of_ne hother, append_of_ne hother, rfl, rfl, rfl⟩
  rintro rfl hnew
  refine .queued entry queue _ hlook halive hqueue hnew ⟨rfl, htraffic.tickets, rfl⟩ ?_ ?_ hstamp
  · simp only [ledger, State.queued, pending, hnew, hlook, htraffic.handed,
      htraffic.entered, htraffic.taken, htraffic.drained, htraffic.dropped]
    simp [enqueue, append_self, hqueue]
  · intro receiver hrecv
    rw [howed]
    simp [enqueue, owe, hrecv]

lemma EntryMove.of_park {endpoint payloadLen : Nat} {sender : Slot} {stamp : Incarnation}
    (hentry : s'.entry = (s.park endpoint entry (s.message stamp endpoint payloadLen) sender).entry)
    (htraffic : SameTraffic { (s.park endpoint entry
      (s.message stamp endpoint payloadLen) sender).log with calls := s'.log.calls } s'.log)
    (hlook : s.entry endpoint = some entry) (hlive : entry.checkLive a.capGen)
    (hact : a.blockingSend = some (sender, endpoint)) (hat : s.At sender .user)
    (hfull : entry.queue.enqueue (s.message stamp endpoint payloadLen) = none)
    (hstamp : Stamps s stamp) : EntryMove s s' a id := by
  refine .of_write (hentry.trans (lookup_write_entry hlook _)) ?_ ?_
  · intro other hother
    rw [htraffic.handed, htraffic.entered, htraffic.taken, htraffic.drained, htraffic.dropped]
    exact ⟨append_of_ne hother, rfl, rfl, rfl, rfl⟩
  · rintro rfl hnew
    refine .parked entry sender _ hlook hlive hact hat hfull hnew ⟨rfl, htraffic.tickets, rfl⟩
      ?_ hstamp
    simp only [ledger, State.queued, pending, hnew, hlook, htraffic.handed,
      htraffic.entered, htraffic.taken, htraffic.drained, htraffic.dropped]
    simp [park, append_self]

lemma EntryMove.of_took {slot : Slot} {entry entry' : EndpointState Msg}
    {msg : Msg} {rest : List Msg} {callAwait : Slot → Nat}
    (hentry : s'.entry = (s.took recv.id (s.withEntry recv.id entry' callAwait) msg
      entry.blockedSender).entry)
    (htraffic : SameTraffic (s.took recv.id (s.withEntry recv.id entry' callAwait) msg
      entry.blockedSender).log s'.log)
    (howed : s'.owed = (s.took recv.id (s.withEntry recv.id entry' callAwait) msg
      entry.blockedSender).owed)
    (hdeqs : Dequeues s a slot recv) (hlook : s.entry recv.id = some entry)
    (hqueue : entry.queue.messages.Perm (msg :: rest))
    (hrel : EndpointState.Released entry rest entry') : EntryMove s s' a id := by
  refine .of_write (hentry.trans (lookup_write_entry hlook _)) ?_ ?_
  · intro other hother
    rw [htraffic.handed, htraffic.entered, htraffic.taken, htraffic.drained, htraffic.dropped]
    exact ⟨rfl, append_of_ne hother, append_of_ne hother, rfl, rfl⟩
  rintro rfl hnew
  refine .taken entry entry' msg rest slot recv rfl hdeqs hlook hqueue hrel hnew ?_ ?_
  · simp only [ledger, State.queued, pending, hnew, htraffic.handed,
      htraffic.entered, htraffic.taken, htraffic.drained, htraffic.dropped]
    simp [took, append_self, hrel.messages, hrel.pendingSend, pending, hlook]
  · intro sender hsender
    rw [howed]
    simp [took, owe, hsender]

lemma EntryMove.of_register {slot : Slot} (hentry : s'.entry = update s.entry recv.id
      (some { entry with blockedReceiver := some slot }))
    (hlog : s'.log = s.log) (hdeqs : Dequeues s a slot recv)
    (hlook : s.entry recv.id = some entry) : EntryMove s s' a id := by
  refine .of_write hentry (by simp [hlog]) ?_
  rintro rfl hnew
  refine .registered entry slot recv rfl hdeqs hlook hnew ?_
  simp [ledger, State.queued, pending, hnew, hlook, hlog]

end Traffic

section Moves

variable {s s' : State} {a : Action} {slot : Slot} {t : State}

lemma dequeues_of_attempt {wait : Wait}
    (hat : s.At slot (.waiting wait .attempt)) (hown : wait.own = some recv)
    (hlook : s.entry recv.id = some entry) (halive : entry.liveness = .alive)
    (hgen : recv.generation = entry.generation) : Dequeues s (.attempt slot) slot recv :=
  ⟨alive_of_entry hlook halive hgen, .inl ⟨rfl, wait, hat, hown⟩⟩

lemma dequeues_of_tryRecv {own : Own}
    (hat : s.At slot .user) (hown : (s.task slot).own own = some recv)
    (hlook : s.entry recv.id = some entry) (halive : entry.liveness = .alive)
    (hgen : recv.generation = entry.generation) :
    Dequeues s (.tryRecv slot own) slot recv :=
  ⟨alive_of_entry hlook halive hgen, .inr ⟨hat, own, rfl, hown⟩⟩

lemma EntryMove.of_finishBlock {wait : Wait} {result : Int} {id : Nat}
    (hrouting : t.routing = s.routing) (hlog : t.log = s.log) :
    EntryMove s (t.finishBlock slot wait result) a id := by
  refine .of_routing (by simp [hrouting]) ?_
  rw [← hlog]
  exact t.finishBlock_traffic slot wait result

lemma EntryMove.of_kill {own : Own} {life : Incarnation} {next : KillStage} {id : Nat}
    (hlives : Lives s) (hown : (s.task slot).own own = some life)
    (hstage : (own = .reply ∧ (s.task slot).killStage = some .cleared ∧ next = .replyKilled) ∨
      (own = .endpoint ∧ (s.task slot).killStage = some .replyFreed ∧ next = .draining))
    (hkill : s.killEndpoint slot life.id = some t) :
    EntryMove s (t.setStage slot next) (.killStep slot) id := by
  obtain ⟨hentry, htask, -, -, -, hlog⟩ := killEndpoint_spec hkill
  have hdying : (s.task slot).killStage ≠ none := by
    rcases hstage with ⟨-, h, -⟩ | ⟨-, h, -⟩ <;> simp [h]
  have hkeeps : (s.task slot).keeps own := by
    rcases hstage with ⟨rfl, h, -⟩ | ⟨rfl, h, -⟩ <;> simp [Task.keeps, h]
  cases hentry with
  | absent hlook hentry =>
    have hsame : (t.setStage slot next).entry id = s.entry id := congrFun hentry id
    refine .same hsame (ledger_eq hsame ?_ ?_ ?_ ?_ ?_) <;>
      simp [setStage, hlog, State.queued, pending, hlook]
  | killed entry entry' hlook hentry hdead hquiet howed =>
    have hwrite : (t.setStage slot next).entry = update s.entry life.id (some entry') := hentry
    refine .of_write hwrite ?_ ?_
    · intro other hother
      simp only [setStage, setTask_log, hlog]
      simp [append_of_ne hother]
    rintro rfl hnew
    refine .killed entry entry' slot own life rfl ⟨(hlives.stage slot hdying).1, hown⟩ hkeeps
      rfl hdying hlook hnew hdead hquiet ?_ ?_ ?_
    · simp only [ledger, State.queued, pending, hnew]
      simp [setStage, hlog, append_self, hquiet.queue, hquiet.pendingSend, State.queued, pending]
    · intro woken hne hparked
      rw [setStage, setTask_owed, howed]
      rcases hparked with hparked | hparked <;> simp [deathWakes, hparked, hne]
    · rintro rfl
      rcases hstage with ⟨hreply, -⟩ | ⟨-, -, rfl⟩
      · cases hreply
      · simp [setStage, htask]

/-- **Every step moves every endpoint in one of these ways.** -/
theorem Effect.entryMove (hlives : Lives s) (hstill : s.Still) (h : Effect s a s') (id : Nat) :
    EntryMove s s' a id := by
  cases h with
  | refused => exact .same rfl (ledger_eq rfl rfl rfl rfl rfl rfl)
  | queued _ endpoint entry queue stamp payloadLen _ hlook halive hqueue hstamp =>
    exact .of_enqueue rfl ⟨rfl, rfl, rfl, rfl, rfl, rfl, rfl, rfl⟩ rfl hlook halive hqueue hstamp
  | callQueued _ slot own call entry queue payloadLen _ hat _ _ hlook halive _ hqueue =>
    exact .of_enqueue rfl ⟨rfl, rfl, rfl, rfl, rfl, rfl, rfl, rfl⟩ rfl hlook halive hqueue
      (stamps_of_at hat)
  | parked _ slot endpoint entry stamp payloadLen hact hat hlook hlive hfull hstamp =>
    exact .of_park rfl ⟨rfl, rfl, rfl, rfl, rfl, rfl, rfl, rfl⟩ hlook hlive hact hat hfull hstamp
  | callParked _ slot own call entry payloadLen hact hat _ _ hlook hlive _ hfull =>
    exact .of_park rfl ⟨rfl, rfl, rfl, rfl, rfl, rfl, rfl, rfl⟩ hlook hlive hact hat hfull
      (stamps_of_at hat)
  | received slot recv deadline entry entry' msg rest hat hlook halive hgen hqueue hrel =>
    exact .of_took rfl .of_eq rfl (dequeues_of_attempt hat rfl hlook halive hgen)
      hlook (by rw [hqueue]) hrel
  | recvEmpty slot recv deadline entry hat hlook halive hgen
  | callEmpty slot call entry target hat hlook halive hgen =>
    exact .of_register (lookup_write_entry hlook _) rfl
      (dequeues_of_attempt hat rfl hlook halive hgen) hlook
  | tryReceived slot own recv entry entry' msg rest hat hown hlook halive hgen hqueue hrel =>
    exact .of_took rfl .of_eq rfl (dequeues_of_tryRecv hat hown hlook halive hgen)
      hlook (by rw [hqueue]) hrel
  | tryEmpty slot own recv entry hat hown hlook halive hgen =>
    exact .of_register (lookup_write_entry hlook _) rfl
      (dequeues_of_tryRecv hat hown hlook halive hgen) hlook
  | replied slot call entry entry' msg hat hlook halive hgen hfind hrel =>
    exact .of_took rfl .of_eq rfl (dequeues_of_attempt hat rfl hlook halive hgen)
      hlook (FirstMatch.perm_eraseP_of_find? hfind) hrel
  | blockPending | blockFails | resumed => exact .of_finishBlock rfl rfl
  | killed slot => exact .of_routing (by simp) (s.kill_traffic slot)
  | endpointKilled slot own life t next hown hstage hkill =>
    exact .of_kill hlives hown hstage hkill
  | spawned slot coreId hasRecv grantReply t _ hspawn =>
    cases hasRecv with
    | true => exact (spawns_of_spawn hspawn).entryMove hlives hstill rfl id
    | false =>
      cases hspawn
      exact .of_routing rfl .of_eq
  | _ => exact .of_routing rfl .of_eq

lemma Effect.still (hlives : Lives s) (hstill : s.Still) (h : Effect s a s') : s'.Still := by
  intro id entry' hentry' hdead
  cases h.entryMove hlives hstill id with
  | same hentry => exact hstill id entry' (hentry.symm.trans hentry') hdead
  | queued entry queue msg _ halive _ hentry =>
    cases hentry.symm.trans hentry'
    cases (halive.symm.trans hdead)
  | parked entry sender msg _ hlive _ _ _ hentry =>
    cases hentry.symm.trans hentry'
    cases ((EndpointState.alive_of_checkLive hlive).symm.trans hdead)
  | taken entry released msg rest slot recv hid hdeqs hlook _ hrel hentry =>
    cases hentry.symm.trans hentry'
    have halive := hdeqs.1
    rw [Alive, hid, life, hlook] at halive
    simp [← hrel.liveness, hdead] at halive
  | registered entry slot recv hid hdeqs hlook hentry =>
    cases hentry.symm.trans hentry'
    have halive := hdeqs.1
    rw [Alive, hid, life, hlook] at halive
    simp only at hdead
    simp [hdead] at halive
  | killed entry killed victim own life _ _ _ _ _ _ hentry _ hquiet =>
    cases hentry.symm.trans hentry'
    exact hquiet
  | renewed coreId generation _ hentry =>
    cases hentry.symm.trans hentry'
    cases hdead
  | vanished entry _ _ hentry => cases (hentry.symm.trans hentry')

lemma still_of_reached {ok : State → Action → Prop} (h : Reached ok t) : t.Still := by
  refine h.invariant_of (fun _ => lives_of_reached) ?_ ?_
  · intro id entry hlook
    simp [State.entry, boot, Routing.init] at hlook
  · exact fun _ _ _ hlives hstill _ hstep => (effect_of_step hstep).still hlives hstill

end Moves

end Godspeed.Machine
