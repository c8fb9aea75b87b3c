import Godspeed.Gsfs.Directory

/-!
# Records of a directory block

A record as it is read from its slot of a directory block.
-/

namespace Godspeed.Gsfs

open Word

/-- A record, read.  A name of an impossible length is none. -/
structure Rec where
  itype : Nat
  name : Option (List UInt8)
  isSealed : Bool
  size : Nat
  first : Nat
  count : Nat
  deriving DecidableEq, Repr

variable (b : Block)

def recOf (slot : Nat) : Rec where
  itype := recType b slot
  name := if recNameLen b slot ≠ 0 ∧ recNameLen b slot ≤ nameMax then some (recName b slot) else none
  isSealed := recIsSealed b slot
  size := recSize b slot
  first := recFirst b slot
  count := recCount b slot

end Godspeed.Gsfs
