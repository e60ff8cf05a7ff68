import ControlPlane.Operation
import ControlPlane.Table.Access
import ControlPlane.Table.Bridge
import ControlPlane.VlanTag

/-! # Traps

A trap sends matching frames to the processor, or elsewhere, whatever the stations say.  The chip
has 512 slots for them, and a new trap takes the lowest one that is vacant.  As with stations, what
was written is kept here slot by slot. -/

namespace ControlPlane

structure Traps where
  slots : KeyMap Nat TrapEntry

namespace Traps

variable {δ : Type} [Bus δ]

def fresh : Traps := ⟨∅⟩

/-- The lowest vacant slot. -/
def vacant? (t : Traps) : Option Nat :=
  (List.range Table.trap.depth).find? fun slot => !t.slots.contains slot

/-- Adds a trap; the answer is its slot. -/
def add (trap : TrapEntry) : Operation (Traps × δ) Nat := fun (t, bus) =>
  if ¬ VlanTag.IsTag trap.vlan then
    .error (.invalid (.vlanTag trap.vlan)) (t, bus)
  else
    match t.vacant? with
    | none => .error (.full (.table Table.trap.name)) (t, bus)
    | some slot =>
      match Table.trap.write slot trap.encode bus with
      | .ok _ bus => .ok slot (⟨t.slots.insert slot trap⟩, bus)
      | .error e bus => .error e (t, bus)

/-- Removes the trap in a slot. -/
def remove (slot : Nat) : Operation (Traps × δ) Unit := fun (t, bus) =>
  if ¬ slot < Table.trap.depth then
    .error (.invalid (.trapSlot slot)) (t, bus)
  else if t.slots.contains slot then
    .ok () (⟨t.slots.erase slot⟩, Operation.after (Table.trap.clear slot) bus)
  else
    .error (.missing (.trap slot)) (t, bus)

/-- The address that bridges send their protocol frames to. -/
def bridgeProtocolMac : MacAddr := ⟨0x01, 0x80, 0xc2, 0, 0, 0⟩

/-- The trap that sends the frames of the spanning tree protocol to the processor, on any VLAN. -/
def bridgeProtocol : TrapEntry :=
  ⟨bridgeProtocolMac, 0, TrapEntry.addressMask, 0, true, true⟩

end Traps

end ControlPlane
