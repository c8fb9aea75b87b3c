import Godspeed.Capability.Band
import Godspeed.Capability.CapTable
import Godspeed.Ipc.Names

/-!
# Gate resources and the privilege word of a spawn

The nineteen stable gate resources of `capability/mod.rs`, and from
`task/mod.rs` the privilege word a spawn request carries, the check that the
spawner holds every requested privilege with GRANT, the privileges the kernel's
own catalogue gives to the supervisor, and the capabilities a spawn mints on
gate resources from all of these.
-/

namespace Godspeed.Capability

open Ipc (Name)

/-- The gate resources, in the order of their ids. -/
inductive Gate
  | logWrite
  | spawn
  | consoleRead
  | consolePush
  | introspect
  | serviceControl
  | resourceMint
  | reboot
  | acquireAny
  | netDevice
  | gpioDevice
  | usbDisk
  | setClock
  | fireIrq
  | imageSpawn
  | pciCfg
  | devicePower
  | cpuClock
  | powerOff
  deriving DecidableEq, Repr

/-- The `ResourceId` of a gate. -/
def Gate.id : Gate → Nat
  | .logWrite => 1
  | .spawn => 2
  | .consoleRead => 3
  | .consolePush => 4
  | .introspect => 5
  | .serviceControl => 6
  | .resourceMint => 7
  | .reboot => 8
  | .acquireAny => 9
  | .netDevice => 10
  | .gpioDevice => 11
  | .usbDisk => 12
  | .setClock => 13
  | .fireIrq => 14
  | .imageSpawn => 15
  | .pciCfg => 16
  | .devicePower => 17
  | .cpuClock => 18
  | .powerOff => 19

lemma lt_firstEndpointId_of_isGate {id : Nat} (h : isGate id) : id < firstEndpointId := by
  simp only [isGate, Bool.and_eq_true, decide_eq_true_eq] at h
  unfold firstEndpointId
  omega

/-- The bytes of `"supervisor"`. -/
def supervisorName : Name := [115, 117, 112, 101, 114, 118, 105, 115, 111, 114]

/-- `privbits`: the bits of `SpawnRequest::privileges`. -/
inductive PrivBit
  | spawn
  | consolePush
  | introspect
  | serviceControl
  | fireIrq
  | reboot
  | acquireAny
  | resourceMint
  | gpio
  | setClockFloor
  | setClock
  | netDevice
  | pciCfg
  | cpuClock
  | powerOff
  deriving DecidableEq, Repr

namespace PrivBit

def position : PrivBit → Nat
  | .spawn => 0
  | .consolePush => 1
  | .introspect => 2
  | .serviceControl => 3
  | .fireIrq => 4
  | .reboot => 5
  | .acquireAny => 6
  | .resourceMint => 7
  | .gpio => 8
  | .setClockFloor => 9
  | .setClock => 10
  | .netDevice => 11
  | .pciCfg => 12
  | .cpuClock => 13
  | .powerOff => 14

/-- The gate resource whose GRANT right the bit is checked against. -/
def gate : PrivBit → Gate
  | .spawn => .spawn
  | .consolePush => .consolePush
  | .introspect => .introspect
  | .serviceControl => .serviceControl
  | .fireIrq => .fireIrq
  | .reboot => .reboot
  | .acquireAny => .acquireAny
  | .resourceMint => .resourceMint
  | .gpio => .gpioDevice
  | .setClockFloor => .setClock
  | .setClock => .setClock
  | .netDevice => .netDevice
  | .pciCfg => .pciCfg
  | .cpuClock => .cpuClock
  | .powerOff => .powerOff

def label : PrivBit → String
  | .spawn => "SPAWN"
  | .consolePush => "CONSOLE_PUSH"
  | .introspect => "INTROSPECT"
  | .serviceControl => "SERVICE_CONTROL"
  | .fireIrq => "FIRE_IRQ"
  | .reboot => "REBOOT"
  | .acquireAny => "ACQUIRE_ANY"
  | .resourceMint => "RESOURCE_MINT"
  | .gpio => "GPIO"
  | .setClockFloor => "SET_CLOCK_FLOOR"
  | .setClock => "SET_CLOCK"
  | .netDevice => "NET_DEVICE"
  | .pciCfg => "PCI_CFG"
  | .cpuClock => "CPU_CLOCK"
  | .powerOff => "POWER_OFF"

/-- The order in which `privileges_caller_lacks` checks them. -/
def checks : List PrivBit :=
  [.spawn, .consolePush, .introspect, .serviceControl, .fireIrq, .reboot, .acquireAny,
    .resourceMint, .gpio, .setClockFloor, .setClock, .netDevice, .pciCfg, .cpuClock, .powerOff]

def set (bit : PrivBit) (word : BitVec 32) : Bool := word.getLsbD bit.position

/-- `SUPERVISOR_DELEGATABLE`, in the source's order. -/
def supervisorDelegatable : List PrivBit :=
  [.resourceMint, .introspect, .serviceControl, .spawn, .acquireAny, .consolePush, .fireIrq,
    .reboot, .gpio, .setClockFloor, .setClock, .netDevice, .pciCfg, .cpuClock, .powerOff]

end PrivBit

/-- `privbits::KNOWN`: the low fifteen bits. -/
def privKnown : BitVec 32 := 0x7FFF

/-- `privileges_caller_lacks`: the first requested privilege that the caller's
table does not hold with GRANT. -/
def privilegesCallerLacks (caller : CapTable) (requested : BitVec 32) : Option String :=
  if requested &&& ~~~privKnown ≠ 0 then some "an unknown privilege bit"
  else
    (PrivBit.checks.find? fun bit =>
      bit.set requested && !caller.holdsResource bit.gate.id .GRANT).map PrivBit.label

/-- The privileges a spawn mints for: the fields of `Privileges`, with
`resource_mint`, which the source carries beside them, and `image_spawn` and
`usb_disk`, which have no bit. -/
structure Privileges where
  bits : PrivBit → Bool
  imageSpawn : Bool
  usbDisk : Bool

/-- The privileges a spawn request names. -/
def Privileges.ofWord (word : BitVec 32) : Privileges where
  bits bit := bit.set word
  imageSpawn := false
  usbDisk := false

/-- `service_privileges`, and the mint flag of `service_hw`: what the kernel's
catalogue gives by name. -/
def servicePrivileges (name : Name) : Privileges where
  bits
    | .spawn => name = supervisorName
    | .introspect => name = supervisorName
    | .serviceControl => name = supervisorName
    | .acquireAny => name = supervisorName
    | _ => false
  imageSpawn := name = supervisorName
  usbDisk := false

/-- The part of a spawn request that decides what is minted on gate resources. -/
structure Grants where
  name : Name
  /-- `priv_override`: the word of the request, or none for the kernel's own spawn. -/
  word : Option (BitVec 32)
  /-- `has_console_read`. -/
  consoleRead : Bool
  /-- The device handed to the task is one whose power the arch layer controls. -/
  devicePower : Bool

namespace Grants

variable (grants : Grants)

/-- `privs`, resolved from the word or from the catalogue. -/
def privileges : Privileges :=
  match grants.word with
  | some word => .ofWord word
  | none => servicePrivileges grants.name

/-- What is minted before the endpoints: the log capability and SPAWN. -/
def early : List (Bool × Gate × Rights) :=
  [(true, .logWrite, .WRITE), (grants.privileges.bits .spawn, .spawn, .WRITE)]

/-- What is minted after them, in the source's order. -/
def late : List (Bool × Gate × Rights) :=
  let privileges := grants.privileges
  [(grants.consoleRead, .consoleRead, .READ),
    (privileges.bits .consolePush, .consolePush, .WRITE),
    (privileges.bits .introspect, .introspect, .READ),
    (privileges.bits .serviceControl, .serviceControl, .WRITE)] ++
  PrivBit.supervisorDelegatable.map (fun bit =>
    (decide (grants.name = supervisorName), bit.gate, .GRANT)) ++
  [(privileges.bits .resourceMint, .resourceMint, .WRITE),
    (privileges.bits .fireIrq, .fireIrq, .WRITE),
    (privileges.bits .reboot, .reboot, .WRITE),
    (privileges.bits .acquireAny, .acquireAny, .WRITE),
    (privileges.bits .netDevice, .netDevice, .WRITE),
    (privileges.bits .pciCfg, .pciCfg, .READ),
    (privileges.bits .cpuClock, .cpuClock, .WRITE),
    (privileges.bits .powerOff, .powerOff, .WRITE),
    (grants.devicePower, .devicePower, .WRITE),
    (privileges.usbDisk, .usbDisk, .WRITE),
    (privileges.bits .gpio, .gpioDevice, .WRITE),
    (privileges.imageSpawn, .imageSpawn, .WRITE),
    (privileges.bits .setClock, .setClock, .WRITE),
    (privileges.bits .setClockFloor, .setClock, .READ)]

/-- A table takes the gate capabilities and those of the two endpoints. -/
lemma length_gates_le : grants.early.length + 4 + grants.late.length ≤ maxCapsPerTask := by
  simp [early, late, PrivBit.supervisorDelegatable, maxCapsPerTask]

/-- The spawn mints this right on this gate. -/
def Mints (gate : Gate) (rights : Rights) : Prop :=
  (true, gate, rights) ∈ grants.early ++ grants.late

end Grants

end Godspeed.Capability
