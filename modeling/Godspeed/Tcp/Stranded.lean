import Godspeed.Tcp.Accept

/-!
# No connection slot is stranded

With two slots, one that is in use for nothing halves the network of the machine.  A slot in
use is accounted for when it has an owner, when a listener can still hand it out, or when a
timer is armed that closes it (`Desk.Accounted`).

This holds, and no two open connections have the same ports and peer, in the runs that meet
`Desk.Tidy` on a machine with a clock.  It does not in others: a free listener slot answers
to port 0, so a peer can fill the table of a machine that listens on nothing; a listener that
is closed leaves the connections behind that were made to its port and not accepted; an
active open takes the next port without a look at the connections there are; and the
connection of a TRANSACT has an id that was never minted.
-/

namespace Godspeed.Tcp

open Capability Issue Slots Transition Function Desk

/-- The ports and the peer of a connection. -/
def Conn.tuple (c : Conn) : ℕ × ℕ × ℕ := (c.localPort, c.remoteIp, c.remotePort)

variable (d : Desk)

namespace Desk

/-- A slot in use has an owner, or can be handed out, or is closed by an armed timer. -/
def Accounted (c : Conn) : Prop :=
  (c.rid ≠ 0 ∧ c.rid ∈ d.live) ∨
    (c.awaitsAccept = true ∧ ∃ k, (d.table.listeners k).port ≠ 0) ∨
    ((c.retxAt ≠ 0 ∨ c.stateDeadline ≠ 0) ∧ c.Ends d.time)

/-- Every slot in use is accounted for, and no two open connections have the same ports and
peer. -/
structure NoneStranded (d : Desk) : Prop where
  accounted : ∀ i, (d.table.conns i).inUse = true → d.Accounted (d.table.conns i)
  distinct : ∀ i j, i ≠ j → (d.table.conns i).state ≠ .closed →
    (d.table.conns j).state ≠ .closed → (d.table.conns i).tuple ≠ (d.table.conns j).tuple

/-- No peer asks for port 0; a listener is closed when another one is left or no unclaimed
connection is; no open connection has the port and the peer of the next active open; and no
client asks for a TRANSACT. -/
def Tidy : Act → Prop
  | .frame _ _ seg => seg.dstPort ≠ 0
  | .closeListener _ rid _ => ∀ k, d.table.listener rid = some k →
      (∀ i, (d.table.conns i).unclaimed = false) ∨ ∃ j, j ≠ k ∧ (d.table.listeners j).port ≠ 0
  | .connect _ _ _ _ dst dport _ =>
    ∀ i, (d.table.conns i).meets d.table.nextPort dst dport = false
  | .transact .. => False
  | _ => True

instance (d : Desk) (a : Act) : Decidable (d.Tidy a) := by
  induction a using Act.casesOn <;> unfold Tidy <;> infer_instance

structure Kept (d : Desk) : Prop where
  waiting : ∀ i, (d.table.conns i).unclaimed = true →
    (d.table.conns i).Waiting ∧ ∃ k, (d.table.listeners k).port ≠ 0
  distinct : ∀ i j, i ≠ j → (d.table.conns i).state ≠ .closed →
    (d.table.conns j).state ≠ .closed → (d.table.conns i).tuple ≠ (d.table.conns j).tuple
  quiet : d.transact = none

/-- The condition on a step that dials is that of a CONNECT. -/
lemma Tidy.dials {d : Desk} {a : Act} {dst dport : ℕ} (h : d.Tidy a)
    (hdials : a.dials = some (dst, dport)) (i : Fin maxConns) :
    (d.table.conns i).meets d.table.nextPort dst dport = false := by
  cases a with
  | connect client minted now iss dst' dport' radio =>
    cases hdials
    exact h i
  | transact => exact h.elim
  | _ => cases hdials

end Desk

lemma Conn.tuple_of_face {c : Conn} {f : Face} (h : c.face = f) :
    c.tuple = (f.localPort, f.remoteIp, f.remotePort) := by
  rw [← h]
  rfl

lemma Conn.Keeps.open {c c' : Conn} (h : c.Keeps c') (hstate : c'.state ≠ .closed) :
    c.state ≠ .closed ∧ c'.tuple = c.tuple := by
  rcases h with hworks | ⟨-, -, hclosed⟩
  · exact ⟨fun hclosed => hstate (hworks.closed hclosed), tuple_of_face hworks.face⟩
  · exact absurd hclosed hstate

lemma Conn.Keeps.waiting {c c' : Conn} (h : c.Keeps c') (hw : c.Waiting)
    (hc : c'.unclaimed) : c'.Waiting := by
  obtain ⟨hrid, hstate⟩ := unclaimed_iff.mp hc
  rcases h with hworks | ⟨-, -, hclosed⟩
  · exact (hworks.waiting ((congrArg Face.rid hworks.face).symm.trans hrid) hw).resolve_left hstate
  · exact absurd hclosed hstate

lemma tuple_ne_of_meets {c : Conn} {lport rip rport : ℕ}
    (h : c.meets lport rip rport = false) (hstate : c.state ≠ .closed) :
    c.tuple ≠ (lport, rip, rport) := by
  intro heq
  obtain ⟨hlocal, hip, hport⟩ : c.localPort = lport ∧ c.remoteIp = rip ∧ c.remotePort = rport := by
    simpa [Conn.tuple] using heq
  rw [Bool.eq_false_iff] at h
  exact h (by simp [Conn.meets, hstate, hlocal, hip, hport])

namespace Desk.Kept

variable {d d' : Desk} {a : Act}

lemma start (arena : Fin maxConns → List UInt8) (live : List ℕ) (clocked : Bool) :
    (Desk.start arena live clocked).Kept := by
  refine ⟨fun i hc => ?_, fun i j _ hi => absurd rfl hi, rfl⟩
  exact absurd rfl (unclaimed_iff.mp hc).2

lemma distinct_of_new (h : d.Kept) {i : Fin maxConns} {tuple : ℕ × ℕ × ℕ}
    (hslots : ∀ j, j ≠ i → (d.table.conns j).Keeps (d'.table.conns j))
    (hslot : (d'.table.conns i).tuple = tuple)
    (hnew : ∀ j, j ≠ i → (d.table.conns j).state ≠ .closed → (d.table.conns j).tuple ≠ tuple) :
    ∀ j k, j ≠ k → (d'.table.conns j).state ≠ .closed → (d'.table.conns k).state ≠ .closed →
      (d'.table.conns j).tuple ≠ (d'.table.conns k).tuple := by
  intro j k hne hj hk
  by_cases hji : j = i
  · subst hji
    obtain ⟨hopen, hsame⟩ := (hslots k hne.symm).open hk
    rw [hslot, hsame]
    exact (hnew k hne.symm hopen).symm
  · obtain ⟨hopen, hsame⟩ := (hslots j hji).open hj
    by_cases hki : k = i
    · subst hki
      rw [hslot, hsame]
      exact hnew j hne hopen
    · obtain ⟨hopen', hsame'⟩ := (hslots k hki).open hk
      rw [hsame, hsame']
      exact h.distinct j k hne hopen hopen'

lemma turn (h : d.Kept) (hok : d.Tidy a) (hturn : Turn d a d') :
    (∀ i, (d'.table.conns i).unclaimed →
      (d'.table.conns i).Waiting ∧ ∃ k, (d'.table.listeners k).port ≠ 0) ∧
    ∀ i j, i ≠ j → (d'.table.conns i).state ≠ .closed → (d'.table.conns j).state ≠ .closed →
      (d'.table.conns i).tuple ≠ (d'.table.conns j).tuple := by
  cases hturn with
  | keeps hslots hdoors =>
    refine ⟨fun i hc => ?_, fun i j hne hi hj => ?_⟩
    · obtain ⟨hw, k, hk⟩ := h.waiting i ((hslots i).unclaimed hc).1
      exact ⟨(hslots i).waiting hw hc, k, by rw [hdoors]; exact hk⟩
    obtain ⟨hopen, hsame⟩ := (hslots i).open hi
    obtain ⟨hopen', hsame'⟩ := (hslots j).open hj
    rw [hsame, hsame']
    exact h.distinct i j hne hopen hopen'
  | dials hdials i hslots hslot hrid hdoors =>
    refine ⟨fun j hc => ?_, ?_⟩
    · by_cases hj : j = i
      · subst hj
        exact absurd ((congrArg Face.rid hslot).symm.trans (unclaimed_iff.mp hc).1) hrid
      · obtain ⟨hw, k, hk⟩ := h.waiting j ((hslots j hj).unclaimed hc).1
        exact ⟨(hslots j hj).waiting hw hc, k, by rw [hdoors]; exact hk⟩
    · exact h.distinct_of_new hslots (Conn.tuple_of_face hslot)
        fun j _ hopen => tuple_ne_of_meets (hok.dials hdials j) hopen
  | opens i hfree hans hconns hdoors =>
    obtain ⟨hmeets, k, hk⟩ := Table.answers_spec hans
    have hslots : ∀ j, j ≠ i → (d.table.conns j).Keeps (d'.table.conns j) := by
      intro j hj
      rw [hconns, update_of_ne hj]
      exact .refl _
    refine ⟨fun j hc => ?_, ?_⟩
    · by_cases hj : j = i
      · subst hj
        rw [hconns, update_self, hdoors]
        exact ⟨.of_passiveOpen .., k, hk ▸ hok⟩
      · obtain ⟨hw, hdoor⟩ := h.waiting j ((hslots j hj).unclaimed hc).1
        exact ⟨(hslots j hj).waiting hw hc, by rw [hdoors]; exact hdoor⟩
    · refine h.distinct_of_new hslots ?_ fun j _ hopen =>
        tuple_ne_of_meets (hmeets j) hopen
      rw [hconns, update_self]
      rfl
  | claims k i hholds hdoor hpend hrid hconns hdoors =>
    have hstate : ∀ j, (d'.table.conns j).state = (d.table.conns j).state ∧
        (d'.table.conns j).tuple = (d.table.conns j).tuple := by
      intro j
      rw [hconns]
      by_cases hj : j = i
      · subst hj
        rw [update_self]
        exact ⟨rfl, rfl⟩
      · rw [update_of_ne hj]
        exact ⟨rfl, rfl⟩
    refine ⟨fun j hc => ?_, fun j l hne => ?_⟩
    · rw [hdoors]
      by_cases hj : j = i
      · subst hj
        rw [hconns, update_self] at hc
        exact absurd (unclaimed_iff.mp hc).1 hrid
      · rw [hconns, update_of_ne hj] at hc ⊢
        exact h.waiting j hc
    · rw [(hstate j).1, (hstate j).2, (hstate l).1, (hstate l).2]
      exact h.distinct j l hne
  | registers k hport hfree hconns hdoors =>
    refine ⟨fun i hc => ?_, by rw [hconns]; exact h.distinct⟩
    rw [hconns] at hc ⊢
    refine ⟨(h.waiting i hc).1, k, ?_⟩
    rw [hdoors, update_self]
    exact hport
  | closes k hdoor hconns hdoors =>
    refine ⟨fun i hc => ?_, by rw [hconns]; exact h.distinct⟩
    rw [hconns] at hc ⊢
    refine ⟨(h.waiting i hc).1, ?_⟩
    rcases hok k hdoor with hnone | ⟨j, hj, hport⟩
    · rw [hnone i] at hc
      cases hc
    · refine ⟨j, ?_⟩
      rw [hdoors, update_of_ne hj]
      exact hport

lemma of_reaches {arena : Fin maxConns → List UInt8} {live : List ℕ} {clocked : Bool}
    (hrun : Reaches step Desk.Tidy (Desk.start arena live clocked) d) : d.Kept := by
  refine hrun.invariant_of (fun _ hprefix => Owned.of_reaches hprefix) (start arena live clocked)
    fun d a d' howned h hok hstep => ?_
  obtain ⟨d₁, hact, hturn, -, rfl⟩ := turn_of_step howned hstep
  obtain ⟨hwaiting, hdistinct⟩ := h.turn hok hturn
  refine ⟨hwaiting, hdistinct, (act_rest hact).2 h.quiet ?_⟩
  rintro now iss dst dport request rfl
  exact hok

lemma noneStranded (h : d.Kept) (howned : Owned d) (hclock : d.time = some) : d.NoneStranded := by
  refine ⟨fun i hused => ?_, h.distinct⟩
  by_cases hrid : (d.table.conns i).rid = 0
  · have hclaim : (d.table.conns i).unclaimed := by
      refine unclaimed_iff.mpr ⟨hrid, fun hclosed => ?_⟩
      simp [Conn.inUse, hrid, hclosed] at hused
    obtain ⟨hw, hdoor⟩ := h.waiting i hclaim
    rcases hw.stage with harmed | hopen
    · refine .inr (.inr ⟨.inl harmed.timer, ?_⟩)
      rw [hclock]
      exact harmed.ends hw.quiet.2
    · refine .inr (.inl ⟨?_, hdoor⟩)
      rcases hopen with hs | hs <;> simp [Conn.awaitsAccept, hrid, hw.accepted, hs, State.handedOut]
  · have hdelegated := Owned.isDelegated_of_named howned.named h.quiet hrid
    exact .inl ⟨hrid, howned.issued.live (.inl i) _ (token_eq_some.mpr ⟨rfl, hdelegated⟩)⟩

end Desk.Kept

/-- **No slot is stranded.**  On a machine with a clock, in every run in which the steps meet
the condition, every slot in use is accounted for, and no two open connections have the same
ports and peer. -/
theorem no_slot_stranded {arena : Fin maxConns → List UInt8} {live : List ℕ} {d : Desk}
    (hrun : Reaches step Desk.Tidy (Desk.start arena live true) d) : d.NoneStranded :=
  (Kept.of_reaches hrun).noneStranded (Owned.of_reaches hrun) (time_of_reaches hrun)

/-- A listener, a connection that is accepted and one that is not. -/
theorem no_slot_stranded_listening : ∃ d, Reaches step Desk.Tidy deskStart d ∧
    (∀ i, (d.table.conns i).inUse = true) ∧ d.NoneStranded := by
  exact exists_reaches_and ([.listen 1 80 (some 4096) true] ++ peerOpens ⟨0, by decide⟩ 80 7000 ++
    [.accept 1 4096 mintedRights (some 4097) true] ++ peerOpens ⟨1, by decide⟩ 80 7001)
    (by decide) fun _ hrun _ => no_slot_stranded hrun

/-- A slot in use that nobody has, that no listener can hand out and that no timer closes. -/
def Desk.stranded (i : Fin maxConns) : Bool :=
  let c := d.table.conns i
  c.inUse && c.rid == 0 && c.retxAt == 0 && c.stateDeadline == 0 &&
    decide (∀ k, (d.table.listeners k).port = 0)

lemma Desk.stranded_spec {d : Desk} {i : Fin maxConns} (h : d.stranded i) : ¬d.NoneStranded := by
  simp only [stranded, Bool.and_eq_true, beq_iff_eq, decide_eq_true_iff] at h
  obtain ⟨⟨⟨⟨hused, hrid⟩, hretx⟩, hdeadline⟩, hdoors⟩ := h
  intro hnone
  rcases hnone.accounted i hused with ⟨howned, -⟩ | ⟨-, k, hk⟩ | ⟨harmed, -⟩
  · exact howned hrid
  · exact hk (hdoors k)
  · rcases harmed with hne | hne
    · exact hne hretx
    · exact hne hdeadline

/-- A peer takes both slots of a machine that listens on nothing, through port 0. -/
def portZero : List Desk.Act :=
  peerOpens ⟨0, Nat.zero_lt_two⟩ 0 7000 ++ peerOpens ⟨1, Nat.one_lt_two⟩ 0 7001

/-- A listener is closed while a connection to its port waits to be accepted. -/
def closeEarly : List Desk.Act :=
  [.listen 1 80 (some 4096) true] ++ peerOpens ⟨0, Nat.zero_lt_two⟩ 80 7000 ++
    [.closeListener 1 4096 mintedRights]

/-- A peer connects to the port that the next active open takes, and is then connected to. -/
def samePort : List Desk.Act :=
  [.listen 1 49152 (some 4096) true] ++ peerOpens ⟨0, Nat.zero_lt_two⟩ 49152 80 ++
    [.connect 2 (some 4097) 10 900 9 80 false]

/-- Slots can be stranded, both of them and without a listener, and two open connections can
have the same ports and peer. -/
theorem slots_stranded :
    (∃ d, Reaches step Free deskStart d ∧ (∀ i, d.stranded i = true) ∧ ¬d.NoneStranded) ∧
    (∃ d, Reaches step Free deskStart d ∧ (∃ i, d.stranded i = true) ∧ ¬d.NoneStranded) ∧
    ∃ d, Reaches step Free deskStart d ∧
      (∀ i, (d.table.conns i).state ≠ .closed ∧ (d.table.conns i).tuple = (49152, 9, 80)) ∧
      ¬d.NoneStranded := by
  refine ⟨?_, ?_, ?_⟩
  · exact exists_reaches_and portZero (by decide)
      fun _ _ hall => stranded_spec (hall ⟨0, by decide⟩)
  · exact exists_reaches_and closeEarly (by decide) fun _ _ ⟨_, hi⟩ => stranded_spec hi
  · refine exists_reaches_and samePort (by decide) fun d _ hall hnone => ?_
    obtain ⟨hopen, htuple⟩ := hall ⟨0, by decide⟩
    obtain ⟨hopen', htuple'⟩ := hall ⟨1, by decide⟩
    exact hnone.distinct _ _ (by decide) hopen hopen' (htuple.trans htuple'.symm)

end Godspeed.Tcp
