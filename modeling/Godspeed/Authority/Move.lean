import Godspeed.Authority.Step
import Mathlib.Logic.Relation

/-!
# What an operation can do to who may do what

Every operation is a sequence of the small moves below, each with the guard that
made it possible: a capability is copied from one that carries GRANT or is in
flight, minted where the spawn path, an endpoint's owner or a claimed band slot
allows it, an endpoint is opened with a fresh id and generation, a task is
reserved or retired, a life ends.  A move says what changes, not in which order
the source changes it: within one operation nobody looks in between.

`CapMove` collects the moves that touch nothing but one task's table and
bookkeeping and the record of what was minted.  The moves that lose an endpoint
id are possible only in an operation that is `leaky`.

The invariants of the machine are proved move by move; `Moves` composes them.
-/

namespace Godspeed.Authority

open Capability Interrupt Ipc

/-- A capability that may be handed on: held with GRANT, or already on its way. -/
def State.Granted (s : State) (cap : Cap) : Prop :=
  (∃ slot task, s.tasks slot = some task ∧ task.caps.Holds cap ∧
    cap.rights.contains .GRANT = true) ∨
  ∃ msg, s.routing.InFlight msg ∧ cap ∈ msg.caps

/-- What may be minted into the table of a task. -/
inductive Mintable (s : State) (task : Task) (id : Nat) (rights : Rights) : Prop
  | gate (gate : Gate) (hid : id = gate.id) (hmints : task.grants.Mints gate rights)
  | endpoint (slot : Slot) (owner : Task) (howner : s.tasks slot = some owner)
      (howns : owner.Owns id)
  | delegated (bandSlot : BandSlot) (hid : id = bandSlot.id)
      (howned : s.band.owner bandSlot ≠ none)

/-- What identifies a task to the rest of the kernel stays as it is. -/
structure SameIdentity (task task' : Task) : Prop where
  name : task'.name = task.name
  endpoint : task'.endpoint = task.endpoint
  replyEndpoint : task'.replyEndpoint = task.replyEndpoint
  watched : task'.watched = task.watched
  grants : task'.grants = task.grants
  spawner : task'.spawner = task.spawner

/-- A spawn request that passed its checks: a spawner may grant every privilege
it asks for, and the kernel spawns only the supervisor. -/
structure Admissible (task : Task) : Prop where
  caps : task.caps = .empty
  endpoint : task.endpoint = none
  replyEndpoint : task.replyEndpoint = none
  name : task.name = task.grants.name
  length : task.name.length ≤ nameMax
  spawner : ∀ caller, task.spawner = some caller →
    task.grants.name ≠ supervisorName ∧
      ∃ word, task.grants.word = some word ∧ privilegesCallerLacks caller word = none
  kernel : task.spawner = none → task.grants.name = supervisorName

/-- The ids after the reply endpoint of a task is closed. -/
def freedReply (ids : EndpointIds) (task : Task) (freeReply : Bool) : EndpointIds :=
  match task.replyEndpoint with
  | some reply => if freeReply then ids.release reply else ids
  | none => ids

def retiredIds (ids : EndpointIds) (task : Task) (freeReply : Bool) : EndpointIds :=
  match task.endpoint with
  | some endpoint => (freedReply ids task freeReply).release endpoint
  | none => freedReply ids task freeReply

/-- The names that remain when a task is gone. -/
def retiredNames (names : NameTable) (task : Task) : NameTable :=
  match task.endpoint with
  | some endpoint => names.unregisterEndpoint task.name endpoint
  | none => names

/-- The routing table after the endpoints of a task are closed. -/
structure Closes (task : Task) (routing routing' : RoutingTable Message) : Prop where
  flight : ∀ msg, routing'.InFlight msg → routing.InFlight msg
  alive : ∀ id, routing'.Alive id ↔ routing.Alive id ∧ ¬ task.Owns id
  size : routing'.entries.length = routing.entries.length

/-- The moves within the table and the bookkeeping of the task in one slot. -/
inductive CapMove (slot : Slot) (s : State) : State → Prop
  /-- A task changes its own bookkeeping and at most loses capabilities. -/
  | tidy (task task' : Task) (htask : s.tasks slot = some task) (hsame : SameIdentity task task')
      (hcaps : ∀ cap, task'.caps.Holds cap → task.caps.Holds cap) :
      CapMove slot s (s.setTask slot (some task'))
  /-- A capability that may be handed on is copied into a table. -/
  | copy (task task' : Task) (cap old : Cap) (htask : s.tasks slot = some task)
      (hsame : SameIdentity task task')
      (hcaps : ∀ other, task'.caps.Holds other → task.caps.Holds other ∨ other = cap)
      (hgranted : s.Granted old)
      (hcap : cap = old ∨ (isDelegated old.resourceId = true ∧ cap = old.withoutGrant)) :
      CapMove slot s (s.setTask slot (some task'))
  /-- A capability is minted, and put into a table if there is room. -/
  | mint (task task' : Task) (id : Nat) (rights : Rights) (cap : Cap)
      (ledger : Ledger) (htask : s.tasks slot = some task) (hsame : SameIdentity task task')
      (hmint : s.ledger.mintCap id rights = some (cap, ledger))
      (hcaps : ∀ other, task'.caps.Holds other → task.caps.Holds other ∨ other = cap)
      (hmintable : Mintable s task id rights) :
      CapMove slot s ({ s with ledger := ledger }.setTask slot (some task'))

inductive Move (leaky : Prop) (s : State) : State → Prop
  /-- A task moves within its own table. -/
  | caps (slot : Slot) (t : State) (hmove : CapMove slot s t) : Move leaky s t
  /-- Messages are queued, parked, taken or dropped. -/
  | route (routing : RoutingTable Message)
      (hflight : ∀ msg, routing.InFlight msg →
        s.routing.InFlight msg ∨ ∀ cap ∈ msg.caps, s.Granted cap)
      (hlive : RoutingTable.SameLive s.routing routing) :
      Move leaky s { s with routing := routing }
  /-- Interrupt lines are routed or released, mailbox credits banked or spent. -/
  | wire (irqs : IrqTable) (credits : Nat) :
      Move leaky s { s with irqs := irqs, credits := credits }
  /-- A slot is reserved for a spawn. -/
  | reserve (slot : Slot) (task : Task) (hfree : s.tasks slot = none)
      (hadmissible : Admissible task) : Move leaky s (s.setTask slot (some task))
  /-- An endpoint is opened that no task ends up with. -/
  | openSpare (endpoint generation : Nat) (opened : State) (release : Bool)
      (hopen : registerEndpoint s = some (endpoint, generation, opened))
      (hleak : release = true ∨ leaky) :
      Move leaky s
        { opened with ids := if release then opened.ids.release endpoint else opened.ids }
  /-- A task gets its receive endpoint. -/
  | openPrimary (slot : Slot) (task : Task) (endpoint generation coreId : Nat) (opened : State)
      (routing : RoutingTable Message)
      (htask : s.tasks slot = some task) (hnone : task.endpoint = none)
      (hopen : registerEndpoint s = some (endpoint, generation, opened))
      (hregister : opened.routing.tryRegister endpoint coreId generation = some routing) :
      Move leaky s ({ opened with
        routing := routing
        names := opened.names.register task.name endpoint }.setTask slot
          (some { task with endpoint := some endpoint }))
  /-- A task gets its reply endpoint. -/
  | openReply (slot : Slot) (task : Task) (endpoint generation coreId : Nat) (opened : State)
      (routing : RoutingTable Message) (credits : Nat)
      (htask : s.tasks slot = some task) (hnone : task.replyEndpoint = none)
      (hopen : registerEndpoint s = some (endpoint, generation, opened))
      (hregister : opened.routing.tryRegister endpoint coreId generation = some routing) :
      Move leaky s ({ opened with routing := routing, credits := credits }.setTask slot
        (some { task with replyEndpoint := some endpoint }))
  /-- A task is gone, with its endpoints, its name and the ids it gives back. -/
  | retire (slot : Slot) (task : Task) (freeReply : Bool) (routing : RoutingTable Message)
      (htask : s.tasks slot = some task) (hcloses : Closes task s.routing routing)
      (hleak : freeReply = true ∨ task.replyEndpoint = none ∨ leaky) :
      Move leaky s ({ s with
        routing := routing
        names := retiredNames s.names task
        ids := retiredIds s.ids task freeReply }.setTask slot none)
  /-- The life of an endpoint that no task has any more ends. -/
  | close (endpoint : Nat) (ledger : Ledger) (hends : s.ledger.Ends endpoint ledger)
      (hrange : firstEndpointId ≤ endpoint ∧ endpoint < delegatedBase)
      (hunowned : ∀ slot task, s.tasks slot = some task → ¬ task.Owns endpoint) :
      Move leaky s { s with ledger := ledger }
  /-- A slot of the band is claimed and its next life registered. -/
  | claim (bandSlot : BandSlot) (who : Nat) (band : Band) (ledger : Ledger)
      (hclaim : s.band.claim who = some (bandSlot, band))
      (hregister : s.ledger.registerNext bandSlot.id = some ledger) :
      Move leaky s { s with band := band, ledger := ledger }
  /-- The same, but what was minted found no room and the slot is given back. -/
  | refuse (bandSlot : BandSlot) (who : Nat) (band : Band) (registered minted : Ledger)
      (rights : Rights) (cap : Cap) (hclaim : s.band.claim who = some (bandSlot, band))
      (hregister : s.ledger.registerNext bandSlot.id = some registered)
      (hmint : registered.mintCap bandSlot.id rights = some (cap, minted)) :
      Move leaky s { s with band := band.free bandSlot, ledger := minted.released bandSlot.id }
  /-- A delegated resource is revoked, or dies with its owner. -/
  | withdraw (bandSlot : BandSlot) (band : Band) (ledger : Ledger)
      (hends : s.ledger.Ends bandSlot.id ledger)
      (hband : band.owner = Function.update s.band.owner bandSlot none) :
      Move leaky s { s with band := band, ledger := ledger }

variable {leaky : Prop} {s t : State} {slot : Slot}

lemma Move.mono {leaky' : Prop} (himp : leaky → leaky') (h : Move leaky s t) : Move leaky' s t := by
  -- only the two moves that can lose an id say whether one may
  cases h with
  | openSpare endpoint generation opened release hopen hleak =>
    exact .openSpare endpoint generation opened release hopen (hleak.imp_right himp)
  | retire slot task freeReply routing htask hcloses hleak =>
    exact .retire slot task freeReply routing htask hcloses (hleak.imp_right (.imp_right himp))
  | caps _ _ hmove => exact .caps _ _ hmove
  | route _ hflight hlive => exact .route _ hflight hlive
  | wire => exact .wire _ _
  | reserve _ _ hfree hadm => exact .reserve _ _ hfree hadm
  | openPrimary _ _ _ _ _ _ _ htask hnone hopen hreg =>
    exact .openPrimary _ _ _ _ _ _ _ htask hnone hopen hreg
  | openReply _ _ _ _ _ _ _ _ htask hnone hopen hreg =>
    exact .openReply _ _ _ _ _ _ _ _ htask hnone hopen hreg
  | close _ _ hends hrange hunowned => exact .close _ _ hends hrange hunowned
  | claim _ _ _ _ hclaim hreg => exact .claim _ _ _ _ hclaim hreg
  | refuse _ _ _ _ _ _ _ hclaim hreg hmint =>
    exact .refuse _ _ _ _ _ _ _ hclaim hreg hmint
  | withdraw _ _ _ hends hband => exact .withdraw _ _ _ hends hband

abbrev Moves (leaky : Prop) : State → State → Prop := Relation.ReflTransGen (Move leaky)

/-- Any number of moves of one task within its table. -/
abbrev CapMoves (slot : Slot) : State → State → Prop := Relation.ReflTransGen (CapMove slot)

lemma Moves.keep {I : State → Prop} (hkeep : ∀ s t, I s → Move leaky s t → I t) (hinit : I s)
    (h : Moves leaky s t) : I t := by
  induction h with
  | refl => exact hinit
  | tail _ hmove ih => exact hkeep _ _ ih hmove

lemma CapMoves.moves (h : CapMoves slot s t) : Moves leaky s t :=
  Relation.ReflTransGen.mono (fun _ _ hmove => Move.caps slot _ hmove) _ _ h

/-- What a task does within its table changes neither the tables of endpoints
nor who the tasks are. -/
structure Frame (slot : Slot) (s t : State) : Prop where
  generations : t.generations = s.generations
  ids : t.ids = s.ids
  names : t.names = s.names
  band : t.band = s.band
  routing : t.routing = s.routing
  credits : t.credits = s.credits
  irqs : t.irqs = s.irqs
  generationOf : t.ledger.generationOf = s.ledger.generationOf
  others : ∀ other, other ≠ slot → t.tasks other = s.tasks other
  own : ∀ task, s.tasks slot = some task →
    ∃ task', t.tasks slot = some task' ∧ SameIdentity task task'

lemma SameIdentity.refl (task : Task) : SameIdentity task task := ⟨rfl, rfl, rfl, rfl, rfl, rfl⟩

lemma SameIdentity.trans {task task' task'' : Task} (h : SameIdentity task task')
    (h' : SameIdentity task' task'') : SameIdentity task task'' :=
  ⟨h'.name.trans h.name, h'.endpoint.trans h.endpoint, h'.replyEndpoint.trans h.replyEndpoint,
    h'.watched.trans h.watched, h'.grants.trans h.grants, h'.spawner.trans h.spawner⟩

namespace Frame

variable {slot : Slot} {s t u : State}

lemma refl (slot : Slot) (s : State) : Frame slot s s :=
  ⟨rfl, rfl, rfl, rfl, rfl, rfl, rfl, rfl, fun _ _ => rfl, fun task h => ⟨task, h, .refl task⟩⟩

lemma trans (h : Frame slot s t) (h' : Frame slot t u) : Frame slot s u where
  generations := h'.generations.trans h.generations
  ids := h'.ids.trans h.ids
  names := h'.names.trans h.names
  band := h'.band.trans h.band
  routing := h'.routing.trans h.routing
  credits := h'.credits.trans h.credits
  irqs := h'.irqs.trans h.irqs
  generationOf := h'.generationOf.trans h.generationOf
  others other hother := (h'.others other hother).trans (h.others other hother)
  own task htask := by
    obtain ⟨task', htask', hsame⟩ := h.own task htask
    obtain ⟨task'', htask'', hsame'⟩ := h'.own task' htask'
    exact ⟨task'', htask'', hsame.trans hsame'⟩

lemma setTask {task task' : Task} (htask : s.tasks slot = some task)
    (hsame : SameIdentity task task') : Frame slot s (s.setTask slot (some task')) := by
  refine ⟨rfl, rfl, rfl, rfl, rfl, rfl, rfl, rfl, fun other hother => ?_, fun found hfound => ?_⟩
  · simp [State.setTask, hother]
  · cases htask.symm.trans hfound
    exact ⟨task', by simp [State.setTask], hsame⟩

lemma ledger {ledger : Ledger} (h : ledger.generationOf = s.ledger.generationOf) :
    Frame slot s { s with ledger := ledger } :=
  ⟨rfl, rfl, rfl, rfl, rfl, rfl, rfl, h, fun _ _ => rfl, fun task h => ⟨task, h, .refl task⟩⟩

end Frame

lemma CapMove.frame (h : CapMove slot s t) : Frame slot s t := by
  cases h with
  | tidy task task' htask hsame | copy task task' cap old htask hsame => exact .setTask htask hsame
  | mint task task' id rights cap ledger htask hsame hmint =>
    obtain ⟨-, -, -, rfl⟩ := Ledger.mintCap_spec hmint
    have hledger : Frame slot s { s with
        ledger := { s.ledger with log := .minted cap :: s.ledger.log } } := .ledger rfl
    exact hledger.trans (.setTask htask hsame)

lemma CapMoves.frame (h : CapMoves slot s t) : Frame slot s t := by
  induction h with
  | refl => exact .refl slot s
  | tail _ hmove ih => exact ih.trans hmove.frame

end Godspeed.Authority
