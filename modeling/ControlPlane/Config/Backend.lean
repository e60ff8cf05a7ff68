import ControlPlane.Config.Data
import ControlPlane.Device.Backend

/-! # Choice of the device

Settings choose one of the devices of `Device`, each with settings of its own.

* **Rates.**  Each operation of a faulty device has a rate, which is the probability that it fails
  when it is tried.  `FaultRates.isCertain` tells which rates leave nothing to chance; the device
  that is opened fails where failing is certain.
* **As data.**  A choice is a record that names the device in its entry `backend`.  `ofData?` reads
  it and `toData` writes it.  Entries that the device does not know are passed over. -/

namespace ControlPlane

/-- How likely each operation of a device is to fail. -/
structure FaultRates where
  readRegister : Float
  writeRegister : Float
  dmaInfo : Float
  mapPool : Float
  runCommand : Float

namespace FaultRates

def none : FaultRates := ⟨0, 0, 0, 0, 0⟩

/-- The same rate for all operations. -/
def uniform (p : Float) : FaultRates := ⟨p, p, p, p, p⟩

/-- A rate for the operations that change the device, and none for the others. -/
def ofChanges (p : Float) : FaultRates := { none with writeRegister := p, runCommand := p }

/-- The rates with the names they have in settings. -/
def toList (r : FaultRates) : List (String × Float) :=
  [("register_read", r.readRegister), ("register_write", r.writeRegister),
    ("dma_info", r.dmaInfo), ("map_dma_region", r.mapPool), ("run_command", r.runCommand)]

/-- The rates with which the named operations always fail, and no other ever does. -/
def always (names : List String) : FaultRates :=
  let rate (name : String) : Float := if names.contains name then 1 else 0
  ⟨rate "register_read", rate "register_write", rate "dma_info", rate "map_dma_region",
    rate "run_command"⟩

/-- A number, if it is a probability. -/
def probability? (x : Float) : Option Float := if 0 ≤ x ∧ x ≤ 1 then some x else Option.none

/-- Whether an operation with this rate fails every time. -/
def isCertain (rate : Float) : Bool := 1 ≤ rate

/-- Whether an operation with this rate may fail. -/
def isPossible (rate : Float) : Bool := 0 < rate

/-- The operations that fail every time. -/
def faults (r : FaultRates) : Faults :=
  ⟨isCertain r.readRegister, isCertain r.writeRegister, isCertain r.dmaInfo,
    isCertain r.mapPool, isCertain r.runCommand⟩

end FaultRates

/-- Which device to open, and how. -/
inductive DeviceSettings where
  | emulated (pool : DmaInfo)
  | faulty (pool : DmaInfo) (rates : FaultRates)
  | node (path : String)

namespace DeviceSettings

def defaultPool : DmaInfo := ⟨0x10000000, 2 ^ 20⟩

/-- Where the kernel's driver puts its node. -/
def defaultPath : String := "/dev/nos-bde"

def defaults : DeviceSettings := emulated defaultPool

def name : DeviceSettings → String
  | emulated _ => "stub"
  | faulty _ _ => "chaos"
  | node _ => "bde"

/-- Opens the device; `lookup` is what the system answers to the path of a node. -/
def openDevice (lookup : String → Except OsError Unit) :
    DeviceSettings → Except DeviceError Device
  | emulated pool => .ok (.emulated (.fresh pool.base pool.size))
  | faulty pool rates => .ok (.faulty rates.faults (.fresh pool.base pool.size))
  | node path => Device.openNode path lookup

/-! ### As data -/

def poolOfData? (d : Data) : Option DmaInfo := do
  let entries ← d.fields? ["dma_base", "dma_size"]
  let base ← Data.orDefault entries "dma_base" defaultPool.base (Data.natural? (2 ^ 64))
  let size ← Data.orDefault entries "dma_size" defaultPool.size (Data.natural? (2 ^ 64))
  return ⟨base, size⟩

def rateOfData? (d : Data) : Option Float := do
  let entries ← d.fields? ["value"]
  let value ← Data.lookup? entries "value"
  value.real?

/-- The pool and the rates of a faulty device. -/
def faultsOfData? (d : Data) : Option (DmaInfo × FaultRates) := do
  let entries ← d.fields? ("stub" :: FaultRates.none.toList.map Prod.fst)
  let rate? (name : String) := Data.orDefault entries name 0 rateOfData?
  let pool ← Data.orDefault entries "stub" defaultPool poolOfData?
  let readRegister ← rate? "register_read"
  let writeRegister ← rate? "register_write"
  let dmaInfo ← rate? "dma_info"
  let mapPool ← rate? "map_dma_region"
  let runCommand ← rate? "run_command"
  return (pool, ⟨readRegister, writeRegister, dmaInfo, mapPool, runCommand⟩)

def pathOfData? (d : Data) : Option String := do
  let entries ← d.fields? ["devpath"]
  Data.orDefault entries "devpath" defaultPath Data.text?

/-- The name of the device that a choice names, and the record of its settings. -/
def cut? : Data → Option (String × Data)
  | .table entries => do
    let name ← Data.lookup? entries "backend"
    let name ← name.text?
    return (name, .table (entries.filter fun e => e.1 != "backend"))
  | .list (name :: rest) => do
    let name ← name.text?
    return (name, .list rest)
  | _ => none

def ofData? (d : Data) : Option DeviceSettings := do
  let (name, d) ← cut? d
  match name with
  | "stub" => (poolOfData? d).map emulated
  | "chaos" => (faultsOfData? d).map fun (pool, rates) => faulty pool rates
  | "bde" => (pathOfData? d).map node
  | _ => none

def poolEntries (pool : DmaInfo) : List (String × Data) :=
  [("dma_base", .integer pool.base), ("dma_size", .integer pool.size)]

/-- The entries of a choice, without the name of the device. -/
def entries : DeviceSettings → List (String × Data)
  | emulated pool => poolEntries pool
  | faulty pool rates =>
    ("stub", .table (poolEntries pool)) ::
      rates.toList.map fun (name, rate) => (name, .table [("value", .real rate)])
  | node path => [("devpath", .text path)]

def toData (s : DeviceSettings) : Data := .table (("backend", .text s.name) :: s.entries)

end DeviceSettings

end ControlPlane
