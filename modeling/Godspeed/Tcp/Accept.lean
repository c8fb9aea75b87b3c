import Godspeed.Tcp.Turn

/-!
# Which connections a listener hands out

`ACCEPT` through a listener hands out the first unclaimed connection whose handshake is over,
whichever port it was made to: `pending_accept` does not look at the listener.  A connection
made to another port, or made while the port belonged to another listener, can be handed out.

It is not in the runs that meet `Desk.Alone`: a listener is registered when no unclaimed
connection is left in the table, and a SYN is answered while no listener of another port is
registered.  Unclaimed connections are then those of the registered listener, over the whole
run (`Desk.Tied`).
-/

namespace Godspeed.Tcp

open Capability Issue Slots Transition Function

/-- A connection that is open and has no owner. -/
def Conn.unclaimed (c : Conn) : Bool := c.rid == 0 && c.state != .closed

namespace Desk

/-- A listener is registered when there is no unclaimed connection, and a SYN is answered
when there is no listener of another port. -/
def Alone (d : Desk) : Act → Prop
  | .listen .. => ∀ i, (d.table.conns i).unclaimed = false
  | .frame _ _ seg => d.table.answers seg = true → ∀ k, (d.table.listeners k).port ≠ 0 →
      (d.table.listeners k).port = seg.dstPort
  | _ => True

instance (d : Desk) (a : Act) : Decidable (d.Alone a) := by
  unfold Alone
  split <;> infer_instance

/-- What was handed out through a listener was made to its port while it was registered, and
went to a client with a capability on a listener of that port. -/
def Confined (d : Desk) : Prop :=
  ∀ h ∈ d.handed, h.localPort = h.port ∧ h.since ≤ h.born ∧ h.entitled = true

structure Tied (d : Desk) : Prop where
  past : ∀ k, d.since k ≤ d.tick
  /-- An unclaimed connection was made to every listener that is registered. -/
  tied : ∀ i k, (d.table.conns i).unclaimed = true → (d.table.listeners k).port ≠ 0 →
    (d.table.conns i).localPort = (d.table.listeners k).port ∧ d.since k ≤ d.born i
  confined : d.Confined

end Desk

lemma unclaimed_iff {c : Conn} : c.unclaimed ↔ c.rid = 0 ∧ c.state ≠ .closed := by
  simp [Conn.unclaimed]

lemma unclaimed_of_awaits {c : Conn} (h : c.awaitsAccept) : c.unclaimed := by
  simp only [Conn.awaitsAccept, Bool.and_eq_true, beq_iff_eq] at h
  refine unclaimed_iff.mpr ⟨h.1.1, fun hclosed => ?_⟩
  rw [hclosed] at h
  cases h.2

lemma Conn.Keeps.unclaimed {c c' : Conn} (h : c.Keeps c') (hc : c'.unclaimed) :
    c.unclaimed ∧ c'.localPort = c.localPort := by
  obtain ⟨hrid, hstate⟩ := unclaimed_iff.mp hc
  rcases h with hworks | ⟨-, -, hclosed⟩
  · refine ⟨unclaimed_iff.mpr ⟨?_, fun hclosed => hstate (hworks.closed hclosed)⟩,
      congrArg Face.localPort hworks.face⟩
    exact (congrArg Face.rid hworks.face).symm.trans hrid
  · exact absurd hclosed hstate

namespace Desk.Tied

variable {d d' : Desk} {a : Act}

lemma start (arena : Fin maxConns → List UInt8) (live : List ℕ) (clocked : Bool) :
    (Desk.start arena live clocked).Tied :=
  ⟨fun _ => le_rfl, fun _ _ _ hport => absurd rfl hport, fun h hh => by cases hh⟩

lemma entitled_of_holds {client rid : ℕ} {right : Rights} {k : Fin maxListen} {port : ℕ}
    (hholds : d.holds client rid right) (hdoor : d.table.listener rid = some k)
    (hport : port = (d.table.listeners k).port) : d.entitled client port := by
  obtain ⟨h, hh, hcap⟩ := List.any_eq_true.mp hholds
  have hspec := first_spec hdoor
  simp only [Bool.and_eq_true, beq_iff_eq, bne_iff_ne] at hcap hspec
  refine List.any_eq_true.mpr ⟨k, List.mem_finRange k, ?_⟩
  simp only [Bool.and_eq_true, beq_iff_eq, bne_iff_ne, List.any_eq_true]
  exact ⟨⟨hport.symm, hport ▸ hspec.2⟩, h, hh, hcap.1.1, hcap.1.2.trans hspec.1.symm⟩

lemma turn (h : d.Tied) (hok : d.Alone a) (hturn : Turn d a d') : (∀ k, d'.since k ≤ d.tick) ∧
      (∀ i k, (d'.table.conns i).unclaimed → (d'.table.listeners k).port ≠ 0 →
        (d'.table.conns i).localPort = (d'.table.listeners k).port ∧ d'.since k ≤ d'.born i) ∧
      d'.Confined := by
  cases hturn with
  | keeps hslots hdoors hsince hborn hhanded =>
    refine ⟨fun k => hsince ▸ h.past k, fun i k hc hport => ?_, ?_⟩
    · obtain ⟨hc', hlocal⟩ := (hslots i).unclaimed hc
      rw [hdoors] at hport ⊢
      rw [hsince, hborn, hlocal]
      exact h.tied i k hc' hport
    · rw [Confined, hhanded]
      exact h.confined
  | dials hdials j hslots hslot hrid hdoors hsince hborn hhanded =>
    refine ⟨fun k => hsince ▸ h.past k, fun i k hc hport => ?_, ?_⟩
    · by_cases hi : i = j
      · subst hi
        exact absurd ((congrArg Face.rid hslot).symm.trans (unclaimed_iff.mp hc).1) hrid
      obtain ⟨hc', hlocal⟩ := (hslots i hi).unclaimed hc
      rw [hdoors] at hport ⊢
      rw [hsince, hborn, hlocal]
      exact h.tied i k hc' hport
    · rw [Confined, hhanded]
      exact h.confined
  | @opens now iss seg _ j hfree hans hconns hdoors hsince hborn hhanded =>
    refine ⟨fun k => hsince ▸ h.past k, fun i k hc hport => ?_, ?_⟩
    · rw [hdoors] at hport ⊢
      rw [hsince, hborn]
      by_cases hi : i = j
      · subst hi
        rw [hconns, update_self, update_self]
        exact ⟨(hok hans k hport).symm, h.past k⟩
      · rw [hconns, update_of_ne hi] at hc
        rw [hconns, update_of_ne hi, update_of_ne hi]
        exact h.tied i k hc hport
    · rw [Confined, hhanded]
      exact h.confined
  | claims k j hholds hdoor hpend hrid hconns hdoors hsince hborn hhanded =>
    have hport : (d.table.listeners k).port ≠ 0 := by
      have hspec := first_spec hdoor
      simp only [Bool.and_eq_true, bne_iff_ne] at hspec
      exact hspec.2
    obtain ⟨hlocal, hborn'⟩ := h.tied j k (unclaimed_of_awaits (first_spec hpend)) hport
    refine ⟨fun k => hsince ▸ h.past k, fun i k' hc hport' => ?_, fun o ho => ?_⟩
    · rw [hdoors] at hport' ⊢
      rw [hsince, hborn]
      by_cases hi : i = j
      · subst hi
        rw [hconns, update_self] at hc
        exact absurd (unclaimed_iff.mp hc).1 hrid
      · rw [hconns, update_of_ne hi] at hc ⊢
        exact h.tied i k' hc hport'
    · rw [hhanded] at ho
      rcases List.mem_cons.mp ho with rfl | hold
      · exact ⟨hlocal, hborn', entitled_of_holds hholds hdoor hlocal⟩
      · exact h.confined o hold
  | registers k hport hfree hconns hdoors hsince hborn hhanded =>
    refine ⟨fun j => ?_, fun i j hc hport' => ?_, ?_⟩
    · rw [hsince]
      by_cases hj : j = k
      · rw [hj, update_self]
      · rw [update_of_ne hj]
        exact h.past j
    · -- there is no unclaimed connection
      rw [hconns, hok i] at hc
      cases hc
    · rw [Confined, hhanded]
      exact h.confined
  | closes k hdoor hconns hdoors hsince hborn hhanded =>
    refine ⟨fun k => hsince ▸ h.past k, fun i j hc hport => ?_, ?_⟩
    · rw [hconns] at hc ⊢
      rw [hdoors] at hport ⊢
      by_cases hj : j = k
      · rw [hj, update_self] at hport
        exact absurd rfl hport
      · rw [update_of_ne hj] at hport ⊢
        rw [hsince, hborn]
        exact h.tied i j hc hport
    · rw [Confined, hhanded]
      exact h.confined

lemma of_reaches {arena : Fin maxConns → List UInt8} {live : List ℕ} {clocked : Bool}
    (hrun : Reaches Desk.step Desk.Alone (Desk.start arena live clocked) d) : d.Tied := by
  refine hrun.invariant_of (fun _ hprefix => Owned.of_reaches hprefix) (start arena live clocked)
    fun d a d' howned h hok hstep => ?_
  obtain ⟨d₁, -, hturn, -, rfl⟩ := turn_of_step howned hstep
  obtain ⟨hpast, htied, hconfined⟩ := h.turn hok hturn
  exact ⟨fun k => Nat.le_succ_of_le (hpast k), htied, hconfined⟩

end Desk.Tied

/-- **A listener hands out its own connections.**  In every run in which listeners are registered
with no unclaimed connection left, and SYNs are answered for one listener at a time, what `ACCEPT`
has handed out through a listener was made to its port while it was registered, and went to a
client with a capability on a listener of that port. -/
theorem accept_confined {arena : Fin maxConns → List UInt8} {live : List ℕ} {clocked : Bool}
    {d : Desk} (hrun : Reaches Desk.step Desk.Alone (Desk.start arena live clocked) d) :
    d.Confined :=
  (Desk.Tied.of_reaches hrun).confined

/-! ## Two listeners -/

/-- The service of the schedules below, with small arenas. -/
def deskStart : Desk := Desk.start (fun _ => List.replicate 4 0) [] true

/-- A peer's handshake with a port: its SYN, our SYN-ACK, its acknowledgement. -/
def peerOpens (i : Fin maxConns) (port : ℕ) (srcPort : ℕ) : List Desk.Act :=
  [.frame 1 100 { peerSeg 500 0 true false false [] with dstPort := port, srcPort },
    .poll i 2,
    .frame 3 0 { peerSeg 501 101 false true false [] with dstPort := port, srcPort }]

/-- A listener, a connection to its port and an `ACCEPT`; it is closed while a second listener
is registered, and this one accepts in turn. -/
theorem accept_confined_two : ∃ d, Reaches Desk.step Desk.Alone deskStart d ∧
    d.handed.map Handover.port = [81, 80] ∧ d.Confined := by
  exact exists_reaches_and ([.listen 1 80 (some 4096) true] ++ peerOpens ⟨0, by decide⟩ 80 7000 ++
    [.accept 1 4096 mintedRights (some 4097) true, .listen 2 81 (some 4098) true,
      .closeListener 1 4096 mintedRights] ++ peerOpens ⟨1, by decide⟩ 81 7001 ++
    [.accept 2 4098 mintedRights (some 4099) true]) (by decide)
    fun _ hrun _ => accept_confined hrun

/-- Two clients listen on two ports.  A connection made to the second port is handed to the
first client, which has no capability on a listener of that port. -/
theorem accept_crosses_ports : ∃ d, Reaches Desk.step Free deskStart d ∧
    ∃ h ∈ d.handed, h.client = 1 ∧ h.port = 80 ∧ h.localPort = 81 ∧ h.entitled = false :=
  exists_reaches ([.listen 1 80 (some 4096) true, .listen 2 81 (some 4097) true] ++
    peerOpens ⟨0, by decide⟩ 81 7000 ++ [.accept 1 4096 mintedRights (some 4098) true]) (by decide)

/-- **An id names one connection**, in any run: it is live, or it is the id of the transaction
that is being served, no other slot has it, and no listener has it. -/
theorem id_names_one {arena : Fin maxConns → List UInt8} {live : List ℕ} {clocked : Bool}
    {ok : Desk → Desk.Act → Prop} {d : Desk} {rid : ℕ} {i : Fin maxConns}
    (hrun : Reaches Desk.step ok (Desk.start arena live clocked) d)
    (hi : (d.table.conns i).ownedBy rid) :
    (rid ∈ d.live ∨ (rid = transactId ∧ ∃ x, d.transact = some x ∧ x.slot = i)) ∧
      (∀ j, (d.table.conns j).ownedBy rid → j = i) ∧
      ∀ k, (d.table.listeners k).port ≠ 0 → (d.table.listeners k).rid ≠ rid := by
  have howned := Owned.of_reaches hrun
  have hissued := howned.issued
  obtain ⟨hrid, hne⟩ := ownedBy_iff_rid.mp hi
  rcases howned.named.conn i with hzero | hdelegated | ⟨hone, x, hx, rfl⟩
  · exact absurd (hrid.symm.trans hzero) hne
  · rw [hrid] at hdelegated
    rw [ownedBy_iff hdelegated] at hi
    refine ⟨.inl (hissued.live (.inl i) _ hi), fun j hj => ?_, fun k hport hrid => ?_⟩
    · exact Sum.inl_injective
        (hissued.unique (.inl j) (.inl i) _ ((ownedBy_iff hdelegated).mp hj) hi)
    · cases hissued.unique (.inr k) (.inl i) _ (listenerToken_eq_some.mpr ⟨hrid, hport⟩) hi
  · obtain rfl : rid = transactId := hrid.symm.trans hone
    refine ⟨.inr ⟨rfl, x, hx, rfl⟩, fun j hj => ?_, fun k hport hrid => ?_⟩
    · have hnamed := howned.named.conn j
      rw [(ownedBy_iff_rid.mp hj).1] at hnamed
      rcases hnamed with hzero | hdelegated | ⟨-, y, hy, rfl⟩
      · cases hzero
      · cases hdelegated
      · rw [Option.some_inj.mp (hy.symm.trans hx)]
    · -- the ids of listeners are minted
      have hminted := howned.named.door k hport
      rw [hrid] at hminted
      cases hminted

/-- The connection of an `ACCEPT`, and that of a TRANSACT that is being served. -/
theorem id_names_one_transacting : ∃ d, Reaches Desk.step Free deskStart d ∧
    ((d.table.conns ⟨0, by decide⟩).ownedBy 4097 ∧ (d.table.conns ⟨1, by decide⟩).ownedBy 1) ∧
    4097 ∈ d.live ∧ ∀ j, (d.table.conns j).ownedBy 1 → j = ⟨1, by decide⟩ :=
  exists_reaches_and ([.listen 1 80 (some 4096) true] ++ peerOpens ⟨0, by decide⟩ 80 7000 ++
    [.accept 1 4096 mintedRights (some 4097) true, .transact 5 900 9 80 [71]]) (by decide)
    fun _ hrun ⟨haccepted, htransact⟩ =>
      ⟨(id_names_one hrun haccepted).1.resolve_right fun h => absurd h.1 (by decide),
        (id_names_one hrun htransact).2.1⟩

end Godspeed.Tcp
