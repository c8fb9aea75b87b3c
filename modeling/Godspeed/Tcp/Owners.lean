import Godspeed.Lib.Issue
import Godspeed.Tcp.Desk
import Godspeed.Tcp.Standing

/-!
# The resource ids in the table

Connections and listeners hold resource ids.  In every run, whatever the clients and the
peers do, an id that is held is live and is held once (`Owned`): a slot that is found by an id
is the right one, and an id that is withdrawn is withdrawn from nobody else.  The one id that
was not minted is that of the transaction being served.
-/

namespace Godspeed.Tcp

open Capability Issue Slots Transition Function Table Option Desk

/-- The resource id of the connection, if it has a minted one. -/
def Conn.token (c : Conn) : Option ℕ := if isDelegated c.rid then some c.rid else none

def Listener.token (l : Listener) : Option ℕ := if l.port = 0 then none else some l.rid

/-- The ids in the table, by connection slot and by listener slot. -/
def Table.tokens (t : Table) : Fin maxConns ⊕ Fin maxListen → Option ℕ :=
  Sum.elim (fun i => (t.conns i).token) fun k => (t.listeners k).token

variable {c : Conn} {rid : ℕ} {port : ℕ}

lemma token_eq_some : c.token = some rid ↔ c.rid = rid ∧ isDelegated rid := by
  unfold Conn.token
  split
  next hdelegated =>
    rw [some_inj]
    exact ⟨fun h => ⟨h, h ▸ hdelegated⟩, And.left⟩
  next hnot =>
    simp only [reduceCtorEq, false_iff]
    exact fun h => hnot (h.1 ▸ h.2)

lemma ne_zero_of_isDelegated (h : isDelegated rid) : rid ≠ 0 := by
  rintro rfl
  cases h

lemma ownedBy_iff_rid : c.ownedBy rid ↔ c.rid = rid ∧ rid ≠ 0 := by
  simp only [Conn.ownedBy, Bool.and_eq_true, beq_iff_eq, bne_iff_ne]
  exact and_congr_right fun h => by rw [h]

lemma ownedBy_iff (hrid : isDelegated rid) : c.ownedBy rid ↔ c.token = some rid := by
  rw [token_eq_some, ownedBy_iff_rid]
  exact and_congr_right fun _ => ⟨fun _ => hrid, fun _ => ne_zero_of_isDelegated hrid⟩

lemma listenerToken_eq_some {l : Listener} : l.token = some rid ↔ l.rid = rid ∧ l.port ≠ 0 := by
  unfold Listener.token
  split
  next hzero =>
    simp [hzero]
  next hne =>
    simp [hne]

namespace Table

variable {t : Table} {rid : ℕ}

/-- Each slot keeps its id, or has none that was minted. -/
lemma issued_of_rid {t' : Table} {live : List ℕ} (h : Issued t.tokens live)
    (hdoors : t'.listeners = t.listeners)
    (hrid : ∀ i, (t'.conns i).rid = (t.conns i).rid ∨ isDelegated (t'.conns i).rid = false) :
    Issued t'.tokens live := by
  refine h.shrink ?_
  rintro (i | k) rid hheld
  · obtain ⟨hsame, hdelegated⟩ := token_eq_some.mp hheld
    refine token_eq_some.mpr ⟨((hrid i).resolve_right fun hnot => ?_).symm.trans hsame, hdelegated⟩
    rw [hsame, hdelegated] at hnot
    cases hnot
  · exact (congrArg Listener.token (congrFun hdoors k)).symm.trans hheld

/-- One slot is written. -/
lemma tokens_update {t' : Table} {i : Fin maxConns} (hothers : ∀ j, j ≠ i → t'.conns j = t.conns j)
    (hdoors : t'.listeners = t.listeners) :
    t'.tokens = update t.tokens (.inl i) (t'.conns i).token := by
  funext a
  rcases a with j | k
  · by_cases hj : j = i
    · subst hj
      rw [update_self]
      rfl
    · rw [update_of_ne (by simpa using hj)]
      exact congrArg Conn.token (hothers j hj)
  · rw [update_of_ne (by simp)]
    exact congrArg Listener.token (congrFun hdoors k)

lemma onSlot_self {i : Fin maxConns} {f : Conn → Conn} :
    (t.onSlot i f).conns i = f (t.conns i) := update_self ..

lemma onSlot_of_ne {i j : Fin maxConns} {f : Conn → Conn} (hj : j ≠ i) :
    (t.onSlot i f).conns j = t.conns j := update_of_ne hj ..

lemma tokens_onSlot (t : Table) (i : Fin maxConns) (f : Conn → Conn) :
    (t.onSlot i f).tokens = update t.tokens (.inl i) (f (t.conns i)).token := by
  rw [tokens_update (fun _ => onSlot_of_ne) rfl, onSlot_self]

lemma tokens_listener (k : Fin maxListen) (l : Listener) :
    { t with listeners := update t.listeners k l }.tokens = update t.tokens (.inr k) l.token := by
  funext a
  rcases a with i | j
  · rw [update_of_ne (by simp)]
    rfl
  by_cases hj : j = k
  · subst hj
    simp [tokens]
  · rw [update_of_ne (by simpa using hj)]
    simp [tokens, hj]

lemma token_of_listener {k : Fin maxListen} (h : t.listener rid = some k) :
    t.tokens (.inr k) = some rid := by
  have hk := first_spec h
  simp only [Bool.and_eq_true, beq_iff_eq, bne_iff_ne] at hk
  exact listenerToken_eq_some.mpr hk

lemma issued_forget {live : List ℕ} (h : Issued t.tokens live) (hrid : isDelegated rid)
    (hdoors : ∀ k, t.tokens (.inr k) ≠ some rid) :
    Issued (t.forget rid).tokens (withdraw live rid) := by
  unfold forget onRid
  cases hfirst : first t.conns (Conn.ownedBy rid) with
  | none =>
    have hnone := first_eq_none.mp hfirst
    have hsame : writeFirst (Conn.ownedBy rid) Conn.reset t.conns = t.conns := by
      funext i
      rcases writeFirst_cases (Conn.ownedBy rid) Conn.reset t.conns i with hi | ⟨hi, -⟩
      · exact hi
      · rw [hnone i] at hi
        cases hi
    rw [hsame]
    refine h.withdraw ?_
    rintro (i | k) ha
    · have := hnone i
      rw [Bool.eq_false_iff] at this
      exact this ((ownedBy_iff hrid).mpr ha)
    · exact hdoors k ha
  | some i =>
    rw [writeFirst_of_first hfirst]
    have htokens := tokens_onSlot t i Conn.reset
    exact htokens ▸ h.retire ((ownedBy_iff hrid).mp (first_spec hfirst))

/-- A SYN that is answered meets no connection, and a listener slot has its port. -/
lemma answers_spec {seg : Seg} (h : t.answers seg) :
    (∀ i, (t.conns i).meets seg.dstPort seg.srcIp seg.srcPort = false) ∧
      ∃ k, (t.listeners k).port = seg.dstPort := by
  simp only [answers, listeningOn, Bool.and_eq_true, isNone_iff_eq_none, isSome_iff_exists] at h
  obtain ⟨⟨⟨hnone, -⟩, -⟩, k, hk⟩ := h
  have hport := first_spec hk
  exact ⟨first_eq_none.mp hnone, k, beq_iff_eq.mp hport⟩

lemma listen_eq_some {t' : Table} (h : t.listen port rid = some t') :
    ∃ k, (first t.listeners fun l => l.port == 0) = some k ∧ port ≠ 0 ∧
      (∀ j, (t.listeners j).port ≠ port) ∧
      t' = { t with listeners := update t.listeners k ⟨port, rid⟩ } := by
  unfold listen at h
  split at h
  · cases h
  rename_i hport
  split at h
  · cases h
  rename_i htaken
  obtain ⟨k, hk, rfl⟩ := map_eq_some_iff.mp h
  refine ⟨k, hk, hport, fun j hj => htaken ?_, rfl⟩
  obtain ⟨j', hj'⟩ := exists_first (t := t.listeners) (p := fun l => l.port == port)
    (beq_iff_eq.mpr hj)
  rw [hj']
  rfl

lemma unlisten_eq_some {t' : Table} (h : t.unlisten rid = some t') : ∃ k, t.listener rid = some k ∧
      t' = { t with listeners := update t.listeners k .free } := by
  obtain ⟨k, hk, rfl⟩ := map_eq_some_iff.mp h
  exact ⟨k, hk, rfl⟩

/-- A listener with a new id is found by it, and is the one that is taken back. -/
lemma unlisten_of_new {live : List ℕ} (h : Issued t.tokens live) (hnew : rid ∉ live)
    (hport : port ≠ 0) (k : Fin maxListen) :
    unlisten { t with listeners := update t.listeners k ⟨port, rid⟩ } rid =
      some { t with listeners := update t.listeners k .free } := by
  have hfound : listener { t with listeners := update t.listeners k ⟨port, rid⟩ } rid = some k := by
    refine first_of_unique (by simp [hport]) fun j hj => ?_
    by_contra hne
    dsimp only at hj
    rw [update_of_ne hne] at hj
    simp only [Bool.and_eq_true, beq_iff_eq, bne_iff_ne] at hj
    exact hnew (h.live (.inr j) rid (listenerToken_eq_some.mpr hj))
  unfold unlisten
  rw [hfound, map_some, update_idem]

end Table

/-! ## The invariant -/

/-- Every id in the table was minted, but that of the transaction being served. -/
structure Desk.Named (d : Desk) : Prop where
  conn : ∀ i, (d.table.conns i).rid = 0 ∨ isDelegated (d.table.conns i).rid = true ∨
    ((d.table.conns i).rid = transactId ∧ ∃ x, d.transact = some x ∧ x.slot = i)
  door : ∀ k, (d.table.listeners k).port ≠ 0 → isDelegated (d.table.listeners k).rid = true

/-- The ids in the table are live and held once, and an outbound connection whose handshake is
waited for has none of a listener. -/
structure Owned (d : Desk) : Prop where
  issued : Issued d.table.tokens d.live
  named : d.Named
  dialled : ∀ dial, d.dial = some dial →
    isDelegated dial.rid ∧ ∀ k, d.table.tokens (.inr k) ≠ some dial.rid

lemma mintable_iff {d : Desk} : d.mintable rid ↔ isDelegated rid ∧ rid ∉ d.live := by
  simp [mintable]

lemma Desk.mintable_ne_zero {d : Desk} (h : d.mintable rid) : rid ≠ 0 :=
  ne_zero_of_isDelegated (mintable_iff.mp h).1

/-- A free slot is opened to dial out; the others and the listeners stay. -/
structure Table.Dialled (t t' : Table) (i : Fin maxConns) (rid dst dport : ℕ) : Prop where
  free : t.freeSlot = some i
  others : ∀ j, j ≠ i → t'.conns j = t.conns j
  face : (t'.conns i).face = ⟨rid, false, t.nextPort, dst, dport⟩
  doors : t'.listeners = t.listeners

lemma Table.connect_cases (t : Table) (rid now : ℕ) (iss : Seq) (dst dport : ℕ) {f : Conn → Conn}
    (hf : ∀ c, (f c).face = c.face) :
    (∃ t' i, t.connect rid now iss dst dport = (t', some i) ∧
      t.Dialled (t'.onSlot i f) i rid dst dport) ∨
    ∃ t', t.connect rid now iss dst dport = (t', none) ∧ t'.conns = t.conns ∧
      t'.listeners = t.listeners := by
  have hsame : freeSlot { t with
      nextPort := if t.nextPort ≥ 65000 then 49152 else t.nextPort + 1 } = t.freeSlot := rfl
  unfold connect
  dsimp only
  rw [hsame]
  cases hfree : t.freeSlot with
  | none => exact .inr ⟨_, rfl, rfl, rfl⟩
  | some i =>
    refine .inl ⟨_, i, rfl, hfree, fun j hj => ?_, ?_, rfl⟩
    · simp [onSlot, hj]
    · simp only [onSlot, update_self, hf]
      rfl

lemma synOut_face (c : Conn) (now : ℕ) (radio : Bool) :
    ((if radio then c.smallWindow else c).synOut now).1.face = c.face := by
  cases radio <;> rfl

lemma Desk.makeRoom_cases (d : Desk) (now : ℕ) : d.makeRoom now = d ∨
    ∃ i, (d.table.conns i).rid ≠ 0 ∧ d.makeRoom now =
      { d with table := d.table.onSlot i Conn.reset }.revoke (d.table.conns i).rid := by
  unfold makeRoom
  split
  · exact .inl rfl
  split
  next table rid hreclaim =>
    obtain ⟨i, hi, heq⟩ := map_eq_some_iff.mp hreclaim
    cases heq
    have hscore := best_spec hi
    refine .inr ⟨i, ?_, rfl⟩
    by_contra hzero
    simp [hzero] at hscore
  · exact .inl rfl

/-- The id of a connection stays. -/
def Conn.RidStays (c c' : Conn) : Prop := c'.rid = c.rid

/-- The id of a connection stays, or goes. -/
def Conn.RidStaysOrGoes (c c' : Conn) : Prop := c'.rid = c.rid ∨ c'.rid = 0

lemma Conn.RidStaysOrGoes.minted {c c' : Conn} (h : c.RidStaysOrGoes c') :
    c'.rid = c.rid ∨ isDelegated c'.rid = false :=
  h.imp_right fun hzero => by rw [hzero]; rfl

namespace Owned

variable {d : Desk} {t : Table} {live : List ℕ} {rid client : ℕ} {d' : Desk}

lemma start (arena : Fin maxConns → List UInt8) (live : List ℕ) (clocked : Bool) :
    Owned (Desk.start arena live clocked) := by
  refine ⟨⟨?_, ?_⟩, ⟨fun i => .inl rfl, fun k hk => absurd rfl hk⟩, fun dial hdial => by cases hdial⟩
  · rintro (i | k) t h <;> cases h
  · rintro (i | k) b t h <;> cases h

lemma of_idle (hissued : Issued d.table.tokens d.live) (hnamed : d.Named)
    (hdial : d.dial = none) : Owned d :=
  ⟨hissued, hnamed, fun dial hd => by rw [hdial] at hd; cases hd⟩

/-- Slots that keep their ids, or lose them. -/
lemma named_of_rid (h : d.Named) (htransact : d'.transact = d.transact)
    (hdoors : d'.table.listeners = d.table.listeners)
    (hrid : ∀ i, (d.table.conns i).RidStaysOrGoes (d'.table.conns i)) : d'.Named := by
  refine ⟨fun i => ?_, hdoors ▸ h.door⟩
  rcases hrid i with hsame | hzero
  · rw [hsame, htransact]
    exact h.conn i
  · exact .inl hzero

/-- A slot that gets a minted id, or loses its own. -/
lemma named_update (h : d.Named) (htransact : d'.transact = d.transact)
    (hdoors : d'.table.listeners = d.table.listeners) {i : Fin maxConns}
    (hothers : ∀ j, j ≠ i → d'.table.conns j = d.table.conns j)
    (hrid : (d'.table.conns i).rid = 0 ∨ isDelegated (d'.table.conns i).rid) : d'.Named := by
  refine ⟨fun j => ?_, hdoors ▸ h.door⟩
  by_cases hj : j = i
  · subst hj
    exact hrid.imp_right .inl
  · rw [hothers j hj, htransact]
    exact h.conn j

/-- A listener that is registered with a minted id, or taken back. -/
lemma named_door (h : d.Named) (htransact : d'.transact = d.transact)
    (hconns : d'.table.conns = d.table.conns) {k : Fin maxListen} {l : Listener}
    (hdoors : d'.table.listeners = update d.table.listeners k l)
    (hl : l.port ≠ 0 → isDelegated l.rid) : d'.Named := by
  refine ⟨by rw [hconns, htransact]; exact h.conn, fun j hport => ?_⟩
  rw [hdoors] at hport ⊢
  by_cases hj : j = k
  · subst hj
    rw [update_self] at hport ⊢
    exact hl hport
  · rw [update_of_ne hj] at hport ⊢
    exact h.door j hport

lemma forget_rid (t : Table) (rid : ℕ) (i : Fin maxConns) :
    (t.conns i).RidStaysOrGoes ((t.forget rid).conns i) :=
  writeFirst_rel (R := Conn.RidStaysOrGoes) (fun _ => .inl rfl)
    (fun _ _ => .inr rfl) i

lemma isDelegated_of_named {i : Fin maxConns} (h : d.Named) (hidle : d.transact = none)
    (hrid : (d.table.conns i).rid ≠ 0) : isDelegated (d.table.conns i).rid := by
  rcases h.conn i with hzero | hdelegated | ⟨-, x, hx, -⟩
  · exact absurd hzero hrid
  · exact hdelegated
  · rw [hidle] at hx
    cases hx

section

variable (h : Owned d)
include h

lemma release (hdial : d.dial = none) (hrid : isDelegated rid)
    (hdoors : ∀ k, d.table.tokens (.inr k) ≠ some rid) : Owned (d.release rid) :=
  of_idle (issued_forget h.issued hrid hdoors)
    (named_of_rid h.named rfl rfl (forget_rid d.table rid)) hdial

/-- A step that moves no id and no listener. -/
lemma still (hissued : Issued d'.table.tokens d'.live) (hnamed : d'.Named)
    (hdial : d'.dial = d.dial) (hdoors : d'.table.listeners = d.table.listeners) : Owned d' := by
  refine ⟨hissued, hnamed, fun dial hd => ?_⟩
  obtain ⟨hdelegated, hnone⟩ := h.dialled dial (hdial ▸ hd)
  refine ⟨hdelegated, fun k => ?_⟩
  change (d'.table.listeners k).token ≠ _
  rw [hdoors]
  exact hnone k

lemma congr (hlive : d'.live = d.live) (hdial : d'.dial = d.dial)
    (htransact : d'.transact = d.transact) (hdoors : d'.table.listeners = d.table.listeners)
    (hrid : ∀ i, (d'.table.conns i).rid = (d.table.conns i).rid) : Owned d' :=
  h.still (hlive ▸ issued_of_rid h.issued hdoors fun i => .inl (hrid i))
    (named_of_rid h.named htransact hdoors fun i => .inl (hrid i)) hdial hdoors

lemma forgo (hnew : d.mintable rid) (hlive : d'.live = withdraw (rid :: d.live) rid)
    (hdial : d'.dial = d.dial) (htransact : d'.transact = d.transact)
    (hdoors : d'.table.listeners = d.table.listeners)
    (hconns : d'.table.conns = d.table.conns) : Owned d' := by
  have hrid : ∀ i, (d'.table.conns i).rid = (d.table.conns i).rid := fun i => by rw [hconns]
  refine h.still ?_ (named_of_rid h.named htransact hdoors fun i => .inl (hrid i)) hdial hdoors
  exact hlive ▸ issued_of_rid (h.issued.forgo (mintable_iff.mp hnew).2) hdoors fun i => .inl (hrid i)

section

variable (hdial : d.dial = none)
include hdial

lemma serveListen {granted : Bool}
    (hnew : d.mintable rid) : Owned (d.serveListen client port rid granted) := by
  unfold Desk.serveListen
  split
  next table k hlisten hk =>
    obtain ⟨k', hk', hport, -, rfl⟩ := listen_eq_some hlisten
    have hissued := h.issued.issue (.inr k') (mintable_iff.mp hnew).2
    have htoken : (⟨port, rid⟩ : Listener).token = some rid :=
      listenerToken_eq_some.mpr ⟨rfl, hport⟩
    rw [← htoken, ← tokens_listener] at hissued
    split
    · exact of_idle hissued (named_door h.named rfl rfl rfl fun _ => (mintable_iff.mp hnew).1) hdial
    rw [unlisten_of_new h.issued (mintable_iff.mp hnew).2 hport]
    refine of_idle ?_ (named_door h.named rfl rfl rfl fun hfree => absurd rfl hfree) hdial
    have htokens := tokens_listener (t := d.table) k' .free
    exact htokens ▸ (h.issued.clear (.inr k')).forgo (mintable_iff.mp hnew).2
  · exact h.forgo hnew rfl rfl rfl rfl rfl

lemma makeRoom (hidle : d.transact = none) (now : ℕ) : Owned (d.makeRoom now) := by
  rcases d.makeRoom_cases now with heq | ⟨i, hrid, heq⟩
  · rwa [heq]
  have htoken : d.table.tokens (.inl i) = some (d.table.conns i).rid :=
    token_eq_some.mpr ⟨rfl, isDelegated_of_named h.named hidle hrid⟩
  have htokens := tokens_onSlot d.table i Conn.reset
  rw [heq]
  exact of_idle (htokens ▸ h.issued.retire htoken) (named_update h.named rfl rfl
    (fun _ => onSlot_of_ne) (.inl (congrArg Conn.rid onSlot_self))) hdial

lemma closeListener {table : Table}
    (hun : d.table.unlisten rid = some table) : Owned ({ d with table }.revoke rid) := by
  obtain ⟨k, hk, rfl⟩ := unlisten_eq_some hun
  refine of_idle ?_ (named_door h.named rfl rfl rfl fun hfree => absurd rfl hfree) hdial
  exact tokens_listener k .free ▸ h.issued.retire (token_of_listener hk)

lemma serveAccept {k : Fin maxListen} {i : Fin maxConns} {granted : Bool} (hnew : d.mintable rid) :
    Owned (d.serveAccept client k i rid granted) := by
  have hdelegated := (mintable_iff.mp hnew).1
  have hissued := h.issued.issue (.inl i) (mintable_iff.mp hnew).2
  have htoken : Conn.token { d.table.conns i with rid } = some rid :=
    token_eq_some.mpr ⟨rfl, hdelegated⟩
  rw [← htoken, ← tokens_onSlot d.table i fun c => { c with rid }] at hissued
  unfold Desk.serveAccept
  split
  · refine of_idle hissued (named_update (i := i) h.named rfl rfl (fun j hj => ?_) (.inr ?_)) hdial
    · simp [grant, onSlot, hj]
    · simpa [grant, onSlot] using hdelegated
  have hretired := hissued.retire (by
    rw [tokens_onSlot, update_self, htoken])
  have htokens := tokens_onSlot (d.table.onSlot i fun c => { c with rid }) i
    fun c => { c with rid := 0 }
  refine of_idle (htokens ▸ hretired) (named_update (i := i) h.named rfl rfl (fun j hj => ?_)
    (.inl ?_)) hdial
  · simp [revoke, onSlot, hj]
  · simp [revoke, onSlot]

/-- The slot of a transaction is the only one without a minted id. -/
lemma startTransact (hidle : d.transact = none) {now : ℕ} {iss : Seq} {dst dport : ℕ}
    {request : List UInt8} : Owned (d.startTransact now iss dst dport request) := by
  unfold Desk.startTransact
  rcases d.table.connect_cases transactId now iss dst dport (fun c => synOut_face c now false) with
    ⟨t, i, heq, hdialled⟩ | ⟨t, heq, hconns, hdoors⟩
  · rw [heq]
    have hrid := congrArg Face.rid hdialled.face
    refine of_idle (issued_of_rid h.issued hdialled.doors fun j => ?_)
      ⟨fun j => ?_, hdialled.doors ▸ h.named.door⟩ hdial <;> by_cases hj : j = i
    · subst hj
      exact .inr (congrArg isDelegated hrid)
    · exact .inl (congrArg Conn.rid (hdialled.others j hj))
    · subst hj
      exact .inr (.inr ⟨hrid, _, rfl, rfl⟩)
    · have hsame := hdialled.others j hj
      refine (h.named.conn j).imp (fun hzero => ?_) (.imp (fun hdelegated => ?_) ?_)
      · exact (congrArg Conn.rid hsame).trans hzero
      · exact (congrArg (isDelegated ·.rid) hsame).trans hdelegated
      · rintro ⟨-, x, hx, -⟩
        rw [hidle] at hx
        cases hx
  · rw [heq]
    exact h.congr rfl rfl rfl hdoors fun i => by rw [hconns]

end

lemma startOpen {now : ℕ} {iss : Seq} {dst dport : ℕ} {radio : Bool}
    (hnew : d.mintable rid) : Owned (d.startOpen client rid now iss dst dport radio) := by
  obtain ⟨hdelegated, hdead⟩ := mintable_iff.mp hnew
  unfold Desk.startOpen
  rcases d.table.connect_cases rid now iss dst dport (fun c => synOut_face c now radio) with
    ⟨t, i, heq, hdialled⟩ | ⟨t, heq, hconns, hdoors⟩
  · rw [heq]
    have hrid := congrArg Face.rid hdialled.face
    refine ⟨?_, named_update (i := i) h.named rfl hdialled.doors hdialled.others (.inr ?_),
      fun dial hd => ?_⟩
    · have htokens := tokens_update hdialled.others hdialled.doors
      rw [token_eq_some.mpr ⟨hrid, hdelegated⟩] at htokens
      exact htokens ▸ h.issued.issue (.inl i) hdead
    · exact (congrArg isDelegated hrid).trans hdelegated
    · cases hd
      refine ⟨hdelegated, fun k hk => hdead (h.issued.live (.inr k) rid ?_)⟩
      exact (congrArg Listener.token (congrFun hdialled.doors k)).symm.trans hk
  · rw [heq]
    exact h.forgo hnew rfl rfl rfl hdoors hconns

/-- Work on the connection of the transaction. -/
lemma onTransact {f : Conn → Conn} {transact : Option Transact}
    (hslot : transact.map Transact.slot = d.transact.map Transact.slot)
    (hf : ∀ c, (f c).rid = c.rid) :
    Owned { d with table := d.table.onRid transactId f, transact } := by
  have hrid : ∀ i, ((d.table.onRid transactId f).conns i).rid = (d.table.conns i).rid := fun i =>
    writeFirst_rel (R := Conn.RidStays) (fun _ => rfl) (fun c _ => hf c) i
  refine h.still (issued_of_rid h.issued rfl fun i => .inl (hrid i)) ⟨fun i => ?_, h.named.door⟩
    rfl rfl
  rw [hrid i]
  refine (h.named.conn i).imp_right (Or.imp_right (And.imp_right ?_))
  rintro ⟨x, hx, rfl⟩
  rw [hx, map_some] at hslot
  exact map_eq_some_iff.mp hslot

/-- After the end of the transaction no slot has its id. -/
lemma endTransact (slot : Fin maxConns) (now : ℕ) : Owned (d.endTransact slot now) := by
  have hclosed : Owned { d with table := d.table.onRid transactId Conn.close } :=
    h.onTransact rfl fun _ => rfl
  set t := (d.table.onRid transactId Conn.close).onSlot slot fun c =>
    (c.pollOne (d.time now)).1
  have hrid : ∀ i, (t.conns i).rid = ((d.table.onRid transactId Conn.close).conns i).rid := by
    intro i
    refine update_rel (R := Conn.RidStays) (fun _ => rfl) ?_ i
    exact congrArg Face.rid (pollOne_face ..)
  have hissued : Issued t.tokens d.live :=
    issued_of_rid hclosed.issued rfl fun i => .inl (hrid i)
  refine hclosed.still (issued_of_rid hissued rfl fun i => (forget_rid t transactId i).minted)
    ⟨fun i => ?_, hclosed.named.door⟩ rfl rfl
  have hnamed := hclosed.named.conn
  simp only [← hrid] at hnamed
  by_cases howned : (t.conns i).ownedBy transactId
  · -- the slot of the transaction is the first with its id
    have hslot : ∀ j, (t.conns j).ownedBy transactId → ∃ x, d.transact = some x ∧ x.slot = j := by
      intro j hj
      have hj' := hnamed j
      rw [(ownedBy_iff_rid.mp hj).1] at hj'
      exact ((hj'.resolve_left (by decide)).resolve_left (by decide)).2
    obtain ⟨x, hx, rfl⟩ := hslot i howned
    have hfirst : first t.conns (Conn.ownedBy transactId) = some x.slot := by
      refine first_of_unique howned fun j hj => ?_
      obtain ⟨y, hy, rfl⟩ := hslot j hj
      rw [some_inj.mp (hy.symm.trans hx)]
    refine .inl ?_
    change (writeFirst (Conn.ownedBy transactId) Conn.reset t.conns x.slot).rid = 0
    rw [writeFirst_of_first hfirst, update_self]
    rfl
  · have hsame : (t.forget transactId).conns i = t.conns i :=
      (writeFirst_cases _ _ t.conns i).resolve_right fun hi => howned hi.1
    refine (hnamed i).imp (congrArg Conn.rid hsame).trans (.imp
      (congrArg (isDelegated ·.rid) hsame).trans fun hone => ?_)
    exact absurd (ownedBy_iff_rid.mpr ⟨hone.1, by decide⟩) howned

end

lemma onFrame_rid (t : Table) (now : ℕ) (iss : Seq) (seg : Seg) (i : Fin maxConns) :
    (t.conns i).RidStaysOrGoes ((t.onFrame now iss seg).conns i) := by
  unfold Table.onFrame
  split
  · split
    · exact update_rel (R := Conn.RidStaysOrGoes) (fun _ => .inl rfl) (.inr rfl) i
    · exact .inl rfl
  · exact writeFirst_rel (R := Conn.RidStaysOrGoes) (fun _ => .inl rfl)
      (fun c _ => .inl (congrArg Face.rid (onSegment_face c now seg).1)) i

lemma onFrame_listeners (t : Table) (now : ℕ) (iss : Seq) (seg : Seg) :
    (t.onFrame now iss seg).listeners = t.listeners := by
  unfold Table.onFrame
  split
  · split <;> rfl
  · rfl

lemma serveUse_listeners (t : Table) (rid : ℕ) (right : Rights) (what : Use) :
    (serveUse t rid right what).listeners = t.listeners := by
  unfold serveUse
  cases what with
  | recv max | close | send data =>
    dsimp only
    split <;> rfl
  | stat => rfl

end Owned

end Godspeed.Tcp
