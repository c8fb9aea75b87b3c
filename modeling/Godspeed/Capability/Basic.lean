import Godspeed.Capability.Generation

/-!
# Rights, capabilities and resource ids

`capability/rights.rs`, `capability/cap.rs` and the id layout of
`capability/mod.rs`: ids 1 to 19 are the stable gate resources, endpoints use
`[100, DELEGATED_BASE)` and delegated resources the band above it.
-/

namespace Godspeed.Capability

/-- The first id `alloc_endpoint_id` hands out. -/
def firstEndpointId : Nat := 100

/-- `DELEGATED_BASE`. -/
def delegatedBase : Nat := 4096

/-- `DELEGATED_CAP`. -/
def delegatedCap : Nat := 2048

/-- `is_delegated`. -/
def isDelegated (id : Nat) : Bool :=
  delegatedBase ≤ id && id < delegatedBase + delegatedCap

/-- The ids of the stable gate resources. -/
def isGate (id : Nat) : Bool := 1 ≤ id && id ≤ 19

/-- `Rights(u8)`. -/
structure Rights where
  bits : BitVec 8
  deriving DecidableEq, Repr

namespace Rights

def READ : Rights := ⟨1⟩
def WRITE : Rights := ⟨2⟩
def SEND : Rights := ⟨4⟩
def RECV : Rights := ⟨8⟩
def GRANT : Rights := ⟨16⟩
def REVOKE : Rights := ⟨32⟩

/-- `contains`. -/
def contains (rights other : Rights) : Bool := rights.bits &&& other.bits == other.bits

/-- `narrow`. -/
def narrow (rights mask : Rights) : Rights := ⟨rights.bits &&& mask.bits⟩

/-- `without`. -/
def without (rights mask : Rights) : Rights := ⟨rights.bits &&& ~~~mask.bits⟩

/-- `union`. -/
def union (rights other : Rights) : Rights := ⟨rights.bits ||| other.bits⟩

end Rights

/-- `CapError`. -/
inductive CapError
  | capNotHeld
  | capInsufficientRights
  | capNotGrantable
  | capWrongScope
  | capRevoked
  | endpointDead
  | generationMismatch
  deriving DecidableEq, Repr

/-- `cap_err_to_i64`. -/
def CapError.code : CapError → Int
  | .capNotHeld => -2
  | .capInsufficientRights => -3
  | .capNotGrantable => -4
  | .capWrongScope => -5
  | .capRevoked => -6
  | .endpointDead => -7
  | .generationMismatch => -6

end Godspeed.Capability

namespace Godspeed

/-- `Capability`. -/
structure Cap where
  resourceId : Nat
  rights : Capability.Rights
  generation : Nat
  deriving DecidableEq, Repr

/-- `Capability::without_grant`. -/
def Cap.withoutGrant (cap : Cap) : Cap :=
  { cap with rights := cap.rights.without .GRANT }

end Godspeed
