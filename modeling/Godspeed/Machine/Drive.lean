import Godspeed.Machine.CallMove

/-!
# Bringing a caller to the end of its Call

A caller in the wait loop of `do_call` moves by its own steps, by the scheduler's
and by the wakes that are owed to it.  `Drives` collects what a situation of the
caller must provide for these steps to end its Call: they keep it, the dequeue
ends it, and a caller that is blocked in it can be handed a wake.
`Drives.finishes` is the schedule: from every place of the loop, on a core or
off, the caller is brought to its dequeue.
-/

namespace Godspeed.Machine

open Ipc Capability Transition State Function

/-- Steps of the caller itself, of the scheduler for it, and of a core that owes
it a wake. -/
def Serves (slot : Slot) (s : State) : Action → Prop
  | .attempt i | .test i | .block i | .resume i | .dispatch i => i = slot
  | .deliver index => ∃ wake, s.owed[index]? = some wake ∧ wake.slot = slot
  | _ => False

/-- The serving steps that perform no other wakes than those that are `fit`. -/
def ServesBy (fit : Wake → Prop) (slot : Slot) (s : State) (a : Action) : Prop :=
  Serves slot s a ∧ ∀ index wake, a = .deliver index → s.owed[index]? = some wake → fit wake

/-- What a situation `good` of a caller provides so that serving steps reach
`done`. -/
structure Drives (fit : Wake → Prop) (ok : State → Action → Prop) (slot : Slot) (call : Call)
    (good : State → Phase → Prop) (done : State → Prop) : Prop where
  serves : ∀ s a, ServesBy fit slot s a → ok s a
  waits : ∀ s phase, good s phase → s.Waits slot (.call call) phase
  coherent : ∀ s phase, good s phase → s.Coherent
  keeps : ∀ s phase a s', good s phase → ServesBy fit slot s a → Effect s a s' →
    (∃ phase', good s' phase') ∨ done s'
  attempt : ∀ s s', good s .attempt → Effect s (.attempt slot) s' → done s'
  wake : ∀ s, good s .parked → (s.task slot).state = .blockedOnRecv →
    Attains step ok s fun t => done t ∨
      (good t .parked ∧ ∃ wake ∈ t.owed, wake.slot = slot ∧ fit wake)

namespace Drives

variable {fit : Wake → Prop} {ok : State → Action → Prop} {slot : Slot} {call : Call}
  {good : State → Phase → Prop} {done : State → Prop} {s s' : State} {a : Action} {phase : Phase}

variable (h : Drives fit ok slot call good done)
include h

lemma of_step (hgood : good s phase) (hserves : ServesBy fit slot s a) (hstep : step s a = some s')
    (hnext : ∀ phase', good s' phase' → Attains step ok s' done) : Attains step ok s done := by
  refine .after (h.serves s a hserves) hstep ?_
  rcases h.keeps s phase a s' hgood hserves (effect_of_step hstep) with ⟨phase', hgood'⟩ | hdone
  · exact hnext phase' hgood'
  · exact .here hdone

lemma of_attempt (hgood : good s .attempt)
    (hcpu : (s.task slot).onCpu) : Attains step ok s done := by
  obtain ⟨hvalid, -, hpc⟩ := h.waits s _ hgood
  have hat : s.At slot (.waiting (.call call) .attempt) := ⟨hvalid, hcpu, hpc⟩
  have hstep : step s (.attempt slot) = some (s.callAttempt slot call) := by
    simp [step, hpc, hat]
  have hserves : ServesBy fit slot s (.attempt slot) := ⟨rfl, by rintro _ _ ⟨⟩⟩
  exact .after (h.serves s _ hserves) hstep (.here (h.attempt s _ hgood (effect_of_step hstep)))

lemma of_moved (phase' : Phase) (hgood : good s phase) (hserves : ServesBy fit slot s a)
    (hstep : step s a = some s') (hpc : (s'.task slot).pc = .waiting (.call call) phase')
    (hnext : good s' phase' → Attains step ok s' done) : Attains step ok s done := by
  refine h.of_step hgood hserves hstep fun phase'' hgood' => ?_
  cases hpc.symm.trans (h.waits _ _ hgood').2.2
  exact hnext hgood'

lemma of_back {t : State} (hgood : good s phase) (hserves : ServesBy fit slot s a)
    (hstep : step s a = some (t.setPc slot (.waiting (.call call) .attempt)))
    (hcpu : (t.task slot).onCpu) : Attains step ok s done := by
  refine h.of_moved .attempt hgood hserves hstep (by simp [setPc]) fun hgood' => ?_
  exact h.of_attempt hgood' (by simpa [setPc] using hcpu)

lemma of_left (hgood : good s phase) (hserves : ServesBy fit slot s a) (hstep : step s a = some s')
    (hpc : (s'.task slot).pc = .user) : Attains step ok s done := by
  refine h.of_step hgood hserves hstep fun phase' hgood' => ?_
  exact absurd (hpc.symm.trans (h.waits _ _ hgood').2.2) nofun

lemma of_return (hgood : good s phase) (hserves : ServesBy fit slot s a) (hcpu : (s.task slot).onCpu)
    (hstep : step s a = some (s.finishBlock slot (.call call) (s.task slot).wakeupErr)) :
    Attains step ok s done := by
  by_cases hcode : (s.task slot).wakeupErr = 0
  · refine h.of_back hgood hserves (hstep.trans ?_) hcpu
    simp [finishBlock, hcode]
  · refine h.of_left hgood hserves hstep ?_
    simp [finishBlock, hcode, endCall_task]

lemma of_ready (hgood : good s phase)
    (hcpu : (s.task slot).onCpu = false) (hready : (s.task slot).state = .ready)
    (hnext : ∀ s', good s' phase → (s'.task slot).onCpu → Attains step ok s' done) :
    Attains step ok s done := by
  obtain ⟨hvalid, -, hpc⟩ := h.waits s _ hgood
  have hstep : step s (.dispatch slot) = some (s.setTask slot { s.task slot with
      state := .running, onCpu := true }) := by
    simp [step, hvalid, hcpu, hready]
  have hserves : ServesBy fit slot s (.dispatch slot) := ⟨rfl, by rintro _ _ ⟨⟩⟩
  exact h.of_moved phase hgood hserves hstep (by simp [hpc]) fun hgood' => hnext _ hgood' (by simp)

section

variable (hgood : good s .parked)
include hgood

lemma of_resume (hcpu : (s.task slot).onCpu) : Attains step ok s done := by
  obtain ⟨hvalid, -, hpc⟩ := h.waits s _ hgood
  have hat : s.At slot (.waiting (.call call) .parked) := ⟨hvalid, hcpu, hpc⟩
  have hserves : ServesBy fit slot s (.resume slot) := ⟨rfl, nofun⟩
  exact h.of_return hgood hserves hcpu (by simp [step, hpc, hat])

lemma of_owed (hcpu : (s.task slot).onCpu = false) {wake : Wake} (hwake : wake ∈ s.owed)
    (hslot : wake.slot = slot) (hfit : fit wake) : Attains step ok s done := by
  obtain ⟨hvalid, halive, hpc⟩ := h.waits s _ hgood
  obtain ⟨index, hindex⟩ := List.mem_iff_getElem?.mp hwake
  have hstep : step s (.deliver index) =
      some ({ s with owed := s.owed.eraseIdx index }.setTask slot { s.task slot with
        wakeupErr := wake.result, wakePending := true, state := .ready }) := by
    simp [step, hindex, hslot, Task.wakeBySlot, hvalid, halive]
  have hserves : ServesBy fit slot s (.deliver index) := by
    refine ⟨⟨wake, hindex, hslot⟩, ?_⟩
    rintro _ wake' ⟨⟩ hwake'
    cases hindex.symm.trans hwake'
    exact hfit
  refine h.of_moved .parked hgood hserves hstep (by simp [hpc]) fun hgood' => ?_
  exact h.of_ready hgood' (by simpa using hcpu) (by simp) fun _ => h.of_resume

lemma of_woken (hwoken : (s.task slot).state ≠ .blockedOnRecv ∨
    ∃ wake ∈ s.owed, wake.slot = slot ∧ fit wake) : Attains step ok s done := by
  obtain ⟨hvalid, halive, hpc⟩ := h.waits s _ hgood
  have hcoh := h.coherent s _ hgood slot hvalid
  cases hcpu : (s.task slot).onCpu with
  | true => exact h.of_resume hgood hcpu
  | false =>
    rcases hwoken with hstate | ⟨wake, hwake, hslot, hfit⟩
    · cases hready : (s.task slot).state with
      | ready => exact h.of_ready hgood hcpu hready fun _ => h.of_resume
      | running => exact absurd ((hcoh.running hready).symm.trans hcpu) nofun
      | dead => exact absurd hready halive
      | blockedOnRecv => exact absurd hready hstate
      | blockedOnSend =>
        -- the task is parked in the wait of a Call, not in a send
        obtain ⟨-, wait, hwait, hblock⟩ := hcoh.blocked (.inr hready)
        rw [hpc] at hwait
        cases hwait
        cases hready.symm.trans hblock
    · exact h.of_owed hgood hcpu hwake hslot hfit

lemma of_parked : Attains step ok s done := by
  by_cases hblocked : (s.task slot).state = .blockedOnRecv
  · refine (h.wake s hgood hblocked).trans fun t ht => ?_
    rcases ht with hdone | ⟨hgood', howed⟩
    · exact .here hdone
    · exact h.of_woken hgood' (.inr howed)
  · exact h.of_woken hgood (.inl hblocked)

end

lemma of_block (hgood : good s .block) (hcpu : (s.task slot).onCpu) : Attains step ok s done := by
  obtain ⟨hvalid, -, hpc⟩ := h.waits s _ hgood
  have hat : s.At slot (.waiting (.call call) .block) := ⟨hvalid, hcpu, hpc⟩
  have hserves : ServesBy fit slot s (.block slot) := ⟨rfl, nofun⟩
  have hstep : step s (.block slot) = some (s.block slot (.call call)) := by
    simp [step, hpc, hat]
  by_cases hflag : (s.task slot).wakePending
  · have hblock : s.block slot (.call call) =
        (s.consumePending slot).setPc slot (.waiting (.call call) .attempt) := by
      simp [block, Task.blockAndReschedule, Wait.blockState, hflag, finishBlock, consumePending]
    exact h.of_back hgood hserves (hstep.trans (by rw [hblock]))
      (by simpa [consumePending] using hcpu)
  by_cases hrun : (s.task slot).state = .running
  · -- the block parks the caller
    have hblock : s.block slot (.call call) = s.setTask slot { s.task slot with
        state := .blockedOnRecv, onCpu := false, pc := .waiting (.call call) .parked } := by
      simp [block, Task.blockAndReschedule, Wait.blockState, hflag, hrun]
    rw [hblock] at hstep
    exact h.of_moved .parked hgood hserves hstep (by simp) h.of_parked
  · -- the block finds the task no longer running and returns the stored code
    refine h.of_return hgood hserves hcpu (hstep.trans ?_)
    simp [block, Task.blockAndReschedule, hflag, hrun, setTask]

lemma of_empty (hgood : good s .empty) (hcpu : (s.task slot).onCpu) : Attains step ok s done := by
  obtain ⟨hvalid, -, hpc⟩ := h.waits s _ hgood
  have hat : s.At slot (.waiting (.call call) .empty) := ⟨hvalid, hcpu, hpc⟩
  have hserves : ServesBy fit slot s (.test slot) := ⟨rfl, nofun⟩
  have hstep : step s (.test slot) = some (s.deadlineTest slot (.call call)) := by
    simp [step, hpc, hat]
  refine h.of_step hgood hserves hstep fun phase' hgood' => ?_
  have hpc' := (h.waits _ _ hgood').2.2
  have hcpu' : ((s.deadlineTest slot (.call call)).task slot).onCpu := by
    unfold deadlineTest
    split
    · simpa [setPc] using hcpu
    · split_ifs <;> simpa [endCall, leave] using hcpu
  have hphase : phase' = .block := by
    unfold deadlineTest at hpc'
    split at hpc'
    · simp [setPc] at hpc'
      exact hpc'.symm
    split_ifs at hpc'
    · simp [endCall, leave] at hpc'
    · simp at hpc'
      exact hpc'.symm
  subst hphase
  exact h.of_block hgood' hcpu'

/-- **Serving steps bring the caller to the end.** -/
theorem finishes (hgood : good s phase) : Attains step ok s done := by
  have honCpu : ∀ t, good t phase → (t.task slot).onCpu → Attains step ok t done := by
    intro t ht hcpu
    cases phase with
    | attempt => exact h.of_attempt ht hcpu
    | empty => exact h.of_empty ht hcpu
    | block => exact h.of_block ht hcpu
    | parked => exact h.of_parked ht
  obtain ⟨hvalid, halive, hpc⟩ := h.waits s _ hgood
  have hcoh := h.coherent s _ hgood slot hvalid
  cases hcpu : (s.task slot).onCpu with
  | true => exact honCpu s hgood hcpu
  | false =>
    have hparked : (s.task slot).state = .blockedOnRecv ∨ (s.task slot).state = .blockedOnSend →
        Attains step ok s done := by
      intro hblocked
      obtain ⟨-, wait, hwait, -⟩ := hcoh.blocked hblocked
      rw [hpc] at hwait
      cases hwait
      exact h.of_parked hgood
    cases hstate : (s.task slot).state with
    | ready => exact h.of_ready hgood hcpu hstate honCpu
    | running => exact absurd ((hcoh.running hstate).symm.trans hcpu) nofun
    | blockedOnRecv => exact hparked (.inl hstate)
    | blockedOnSend => exact hparked (.inr hstate)
    | dead => exact absurd hstate halive

end Drives

end Godspeed.Machine
