import Godspeed.Lib.Text

/-!
# What a package's contract requests

The part of a service contract that installing and starting the package reads.
-/

namespace Godspeed.Pm

abbrev Bytes : Type := List UInt8

/-- The most send peers a contract may request and still be installed. -/
def maxPeers : Nat := 8

/-- What a contract requests that installing it needs to know. -/
structure Contract where
  /-- The send peers it requests, in the contract's order. -/
  peers : List (List Char)
  /-- It has `ipc_receive`: it gets an endpoint of its own. -/
  receives : Bool
  /-- Its memory limit in bytes; 0 when the contract names none. -/
  memoryLimit : Nat
  /-- The device a driver drives, as the 24-bit PCI class code. -/
  pciClass : Option Nat
  /-- Which BAR holds the registers: an index, or 7 for the first memory BAR. -/
  pciBar : Nat
  /-- It asks for an interrupt. -/
  pciIrq : Bool
  /-- The DMA arena it asks for, in bytes; 0 for none. -/
  dmaBytes : Nat
  /-- The USB device a driver drives, as vendor and product. -/
  usb : Option (Nat × Nat)
  /-- It can hand its state to a newer version of itself and end. -/
  handover : Bool
deriving DecidableEq, Repr

def Contract.blank : Contract where
  peers := []
  receives := false
  memoryLimit := 0
  pciClass := none
  pciBar := 7
  pciIrq := false
  dmaBytes := 0
  usb := none
  handover := false

end Godspeed.Pm
