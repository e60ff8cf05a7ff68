import ControlPlane.Board
import ControlPlane.Table.Access
import ControlPlane.Table.Bridge
import ControlPlane.VlanTag

/-! # Stations

A station is a MAC address that is reached through a port on a VLAN.  Stations are kept in the
chip's hash table.  A key hashes to its home slot and may lie in that slot or one of the next five.
The chip is not asked what a slot holds: what was written is kept here, slot by slot, and decides
where a key lies and which slots are taken.

* **Placement.**  `place` finds the slot that holds a key, or else the first vacant one among its
  candidates.
* **Failure.**  An entry that the chip did not take is not recorded.  An entry that is removed is
  gone from the record whether or not the chip could clear it. -/

namespace ControlPlane

structure Station where
  mac : MacAddr
  vlan : Nat
  port : PortId
  /-- Kept by the chip until it is removed. -/
  static : Bool
  deriving DecidableEq

/-- How a table has been used. -/
structure Usage where
  size : Nat
  occupancy : Nat
  inserts : Nat
  deletes : Nat
  updates : Nat
  /-- Taken slots that were passed in search of a vacant one. -/
  collisions : Nat
  deleteMisses : Nat
  exhaustion : Nat
  deriving DecidableEq

namespace Usage

def fresh (size : Nat) : Usage := ⟨size, 0, 0, 0, 0, 0, 0, 0⟩

def inserted (u : Usage) : Usage :=
  { u with inserts := u.inserts + 1, occupancy := u.occupancy + 1 }

def updated (u : Usage) : Usage := { u with updates := u.updates + 1 }

def deleted (u : Usage) : Usage :=
  { u with deletes := u.deletes + 1, occupancy := u.occupancy - 1 }

def missed (u : Usage) : Usage := { u with deleteMisses := u.deleteMisses + 1 }

def passed (u : Usage) (slots : Nat) : Usage := { u with collisions := u.collisions + slots }

def exhausted (u : Usage) : Usage := { u with exhaustion := u.exhaustion + 1 }

end Usage

structure Stations where
  slots : KeyMap Nat Station
  usage : Usage

namespace Stations

variable {δ : Type} [Bus δ]

def fresh : Stations := ⟨∅, .fresh Table.station.depth⟩

/-- How many slots a key may lie in. -/
def probes : Nat := 6

/-- The slots that a key may lie in, its home first. -/
def candidates (mac : MacAddr) (vlan : Nat) : List Nat :=
  (List.range probes).map fun i => (StationEntry.home mac vlan + i) % Table.station.depth

/-- Whether a slot holds a key. -/
def holds (s : Stations) (mac : MacAddr) (vlan slot : Nat) : Bool :=
  match s.slots.get? slot with
  | some station => station.mac == mac && station.vlan == vlan
  | none => false

/-- The slot that holds a key. -/
def find? (s : Stations) (mac : MacAddr) (vlan : Nat) : Option Nat :=
  (candidates mac vlan).find? (s.holds mac vlan)

def get? (s : Stations) (mac : MacAddr) (vlan : Nat) : Option Station :=
  (s.find? mac vlan).bind s.slots.get?

/-- Where a key belongs. -/
inductive Place where
  /-- It is there already. -/
  | held (slot : Nat)
  /-- The first vacant candidate, after some that are taken. -/
  | vacant (slot passed : Nat)
  /-- All candidates are taken. -/
  | nowhere (passed : Nat)

def place (s : Stations) (mac : MacAddr) (vlan : Nat) : Place :=
  match s.find? mac vlan with
  | some slot => .held slot
  | none =>
    let passed := ((candidates mac vlan).takeWhile s.slots.contains).length
    match (candidates mac vlan).find? fun slot => !s.slots.contains slot with
    | some slot => .vacant slot passed
    | none => .nowhere passed

/-- The entry that tells the chip about a station. -/
def entry (station : Station) : StationEntry :=
  ⟨station.mac, station.vlan, station.port.num, 0, station.static⟩

/-- Writes a station to a slot and then records it; `count` counts the success. -/
def record (slot : Nat) (station : Station) (count : Usage → Usage) :
    Operation (Stations × δ) Unit := fun (s, bus) =>
  match Table.station.write slot (entry station).encode bus with
  | .ok _ bus => .ok () (⟨s.slots.insert slot station, count s.usage⟩, bus)
  | .error e bus => .error e (s, bus)

/-- Adds a station, in place of an earlier one with its key. -/
def add (board : Board) (station : Station) : Operation (Stations × δ) Unit := fun (s, bus) =>
  if ¬ VlanTag.IsTag station.vlan then
    .error (.invalid (.vlanTag station.vlan)) (s, bus)
  else if ¬ board.Has station.port then
    .error (.invalid (.beyondPorts station.port board.ports)) (s, bus)
  else
    match s.place station.mac station.vlan with
    | .held slot => record slot station Usage.updated (s, bus)
    | .vacant slot passed =>
      record slot station Usage.inserted ({ s with usage := s.usage.passed passed }, bus)
    | .nowhere passed =>
      .error (.full (.table Table.station.name))
        ({ s with usage := (s.usage.passed passed).exhausted }, bus)

/-- Removes the station with a key. -/
def remove (mac : MacAddr) (vlan : Nat) : Operation (Stations × δ) Unit := fun (s, bus) =>
  if ¬ VlanTag.IsTag vlan then
    .error (.invalid (.vlanTag vlan)) (s, bus)
  else
    match s.find? mac vlan with
    | none => .error (.missing (.station mac vlan)) ({ s with usage := s.usage.missed }, bus)
    | some slot =>
      .ok () (⟨s.slots.erase slot, s.usage.deleted⟩,
        Operation.after (Table.station.clear slot) bus)

/-- The station with a key. -/
def lookup (s : Stations) (mac : MacAddr) (vlan : Nat) : Except Error Station :=
  if VlanTag.IsTag vlan then
    match s.get? mac vlan with
    | some station => .ok station
    | none => .error (.missing (.station mac vlan))
  else
    .error (.invalid (.vlanTag vlan))

end Stations

end ControlPlane
