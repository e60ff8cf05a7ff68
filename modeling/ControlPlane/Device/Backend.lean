import ControlPlane.Device.Chip

/-! # Devices

A device is what the control plane drives: an emulated chip, an emulated chip that fails chosen
operations, or the node of a kernel driver.  The only driver node there is here refuses every
request, so that an operation on it fails once its arguments have been checked.

Each operation of the chip is an operation of every device; `Device.fault` says when a fault was
injected into it. -/

namespace ControlPlane

/-- Where the shared pool lies on the bus, and its size in bytes. -/
structure DmaInfo where
  base : Nat
  size : Nat
  deriving DecidableEq

/-- The operations that fail whenever they are tried. -/
structure Faults where
  readRegister : Bool
  writeRegister : Bool
  dmaInfo : Bool
  mapPool : Bool
  runCommand : Bool

namespace Faults

def none : Faults := ⟨false, false, false, false, false⟩

end Faults

inductive Device where
  | emulated (chip : Chip)
  | faulty (faults : Faults) (chip : Chip)
  | node

namespace Device

instance : Inhabited Device := ⟨.node⟩

def name : Device → String
  | emulated _ => "stub"
  | faulty _ _ => "chaos"
  | node => "bde"

/-- The emulated chip inside a device. -/
def chip? : Device → Option Chip
  | emulated c => some c
  | faulty _ c => some c
  | node => none

/-- The device with its emulated chip changed. -/
def mapChip (f : Chip → Chip) : Device → Device
  | emulated c => emulated (f c)
  | faulty faults c => faulty faults (f c)
  | node => node

/-- An operation of the chip as one of the device: `fault` tells whether and under which name it
was made to fail, `check` what the driver node still checks, and `request` what it refuses. -/
def onChip {α : Type} (fault : Faults → Bool) (operation : String)
    (check : Except DeviceError Unit) (request : String) (op : DeviceOperation Chip α) :
    DeviceOperation Device α := fun d =>
  match d with
  | emulated c =>
    match op c with
    | .ok a c' => .ok a (emulated c')
    | .error e c' => .error e (emulated c')
  | faulty faults c =>
    if fault faults then
      .error (.synthetic operation) d
    else
      match op c with
      | .ok a c' => .ok a (faulty faults c')
      | .error e c' => .error e (faulty faults c')
  | node =>
    match check with
    | .ok _ => .error (.io request .notTerminal) node
    | .error e => .error e node

def checkRegister (offset : Nat) : Except DeviceError Unit :=
  if offset < Registers.window then .ok () else .error (.registerOutOfRange offset)

def readRegister (offset : Nat) : DeviceOperation Device UInt32 :=
  onChip Faults.readRegister "register_read" (checkRegister offset) "read_reg"
    (Chip.readRegister offset)

def writeRegister (offset : Nat) (value : UInt32) : DeviceOperation Device Unit :=
  onChip Faults.writeRegister "register_write" (checkRegister offset) "write_reg"
    (Chip.writeRegister offset value)

/-- Asks where the pool is. -/
def dmaInfo : DeviceOperation Device DmaInfo :=
  onChip Faults.dmaInfo "dma_info" (.ok ()) "get_dma_info" fun c =>
    .ok ⟨c.poolBase, c.pool.size⟩ c

/-- Makes the pool accessible, and tells its size. -/
def mapPool : DeviceOperation Device Nat :=
  onChip Faults.mapPool "map_dma_region" (.ok ()) "get_dma_info" fun c => .ok c.pool.size c

def runCommand (command payload : List UInt32) :
    DeviceOperation Device (UInt32 × List UInt32) :=
  onChip Faults.runCommand "run_command"
    ((Chip.checkCommand command.length payload.length).mapError .misuse) "schan_op"
    (Chip.runCommand command payload)

/-! ### The mapped pool

Accesses to the pool do not go through the device, so no fault stops them. -/

def pool (d : Device) : DmaRegion :=
  match d.chip? with
  | some c => c.pool
  | none => .clear 0

def readPool (offset len : Nat) : DeviceOperation Device (List UInt8) := fun d =>
  match d.pool.read offset len with
  | .ok data => .ok data d
  | .error e => .error (.misuse e) d

def writePool (offset : Nat) (data : List UInt8) : DeviceOperation Device Unit := fun d =>
  match d.pool.write offset data with
  | .ok pool => .ok () (d.mapChip fun c => { c with pool := pool })
  | .error e => .error (.misuse e) d

def readPoolWords (offset words : Nat) : DeviceOperation Device (List UInt32) := fun d =>
  match d.pool.readWords offset words with
  | .ok data => .ok data d
  | .error e => .error (.misuse e) d

def writePoolWords (offset : Nat) (data : List UInt32) : DeviceOperation Device Unit := fun d =>
  match d.pool.writeWords offset data with
  | .ok pool => .ok () (d.mapChip fun c => { c with pool := pool })
  | .error e => .error (.misuse e) d

/-! ### Opening -/

/-- Opens the driver node at a path: `lookup` is what the system answers to it. -/
def openNode (path : String) (lookup : String → Except OsError Unit) :
    Except DeviceError Device :=
  if path.toList.contains '\x00' then
    .error (.misuse (.path path))
  else
    match lookup path with
    | .ok _ => .ok node
    | .error .noEntry => .error .missing
    | .error e => .error (.io ("opening " ++ path) e)

end Device

end ControlPlane
