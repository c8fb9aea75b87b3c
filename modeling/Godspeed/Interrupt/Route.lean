import Mathlib.Algebra.GroupWithZero.Nat
import Mathlib.Logic.Function.Basic
import Mathlib.Order.Fin.Basic

/-!
# Interrupt routes

`interrupt/route.rs`: the table that maps an interrupt line to the endpoint of
the driver it is delivered to.  A registration overwrites whatever the line was
routed to; a death releases every line of the dying endpoint.  Masking and
unmasking the line at the controller is not modelled.
-/

namespace Godspeed.Interrupt

/-- `MAX_IRQ`. -/
def maxIrq : Nat := 256

instance : NeZero maxIrq := ⟨by decide⟩

abbrev Irq := Fin maxIrq

/-- `IRQ_TABLE`. -/
structure IrqTable where
  route : Irq → Option Nat

namespace IrqTable

def init : IrqTable := ⟨fun _ => none⟩

variable (table : IrqTable)

/-- `register`. -/
def register (irq : Irq) (endpoint : Nat) : IrqTable :=
  ⟨Function.update table.route irq (some endpoint)⟩

/-- `unregister_endpoint`. -/
def unregisterEndpoint (endpoint : Nat) : IrqTable :=
  ⟨fun irq => if table.route irq = some endpoint then none else table.route irq⟩

/-- The loop of the spawn path: every line of the device, to one endpoint. -/
def registerAll (irqs : List Irq) (endpoint : Nat) : IrqTable :=
  irqs.foldl (fun table irq => table.register irq endpoint) table

/-- The registered lines lead to the endpoint, the others where they led before. -/
lemma route_registerAll (irqs : List Irq) (endpoint : Nat) (irq : Irq) :
    (table.registerAll irqs endpoint).route irq =
      if irq ∈ irqs then some endpoint else table.route irq := by
  unfold registerAll
  induction irqs generalizing table with
  | nil => simp
  | cons first irqs ih =>
    rw [List.foldl_cons, ih]
    by_cases hin : irq ∈ irqs
    · simp [hin]
    · by_cases hfirst : irq = first
      · simp [hfirst, register]
      · simp [hfirst, register]

end IrqTable

end Godspeed.Interrupt
