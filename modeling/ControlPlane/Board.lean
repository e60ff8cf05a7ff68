import ControlPlane.Operation

/-! # Boards

What is fixed about the board that a switch is built on: how many of the front-panel ports it has,
how their interfaces are named, and the MAC address that their own addresses are made from. -/

namespace ControlPlane

structure Board where
  ports : Nat
  /-- What stands before the port's number in an interface's name. -/
  stem : String
  macBase : MacAddr

namespace Board

def defaultStem : String := "swp"

def defaultMacBase : MacAddr := ⟨2, 0, 0, 0, 0, 0⟩

/-- Whether the board has a port. -/
def Has (b : Board) (p : PortId) : Prop := p.num ≤ b.ports

instance (b : Board) (p : PortId) : Decidable (b.Has p) := inferInstanceAs (Decidable (_ ≤ _))

/-- Fails unless the board has a port. -/
def check {σ : Type} (b : Board) (p : PortId) : Operation σ Unit :=
  Operation.require (b.Has p) (.invalid (.beyondPorts p b.ports))

/-- The port of the board that an interface's name stands for. -/
def named? (b : Board) (name : String) : Option PortId :=
  (PortId.ofIfname? b.stem name).filter fun p => b.Has p

/-- The MAC address of a port's interface: the base with the port as its last octet. -/
def macOf (b : Board) (p : PortId) : MacAddr := b.macBase.withLastOctet (UInt8.ofNat p.num)

end Board

end ControlPlane
