import ControlPlane.Ipv4
import ControlPlane.MacAddr

/-! # Kernel events

The kernel decides which interfaces are up, which of them have addresses, who the neighbours are
and where routes lead.  Each change of these is an event.  Interfaces are named by the kernel's
index. -/

namespace ControlPlane

/-- The kernel's index of an interface. -/
abbrev IfIndex := UInt32

instance : Key UInt32 where
  rank n := n.toNat
  rank_inj h := UInt32.toNat.inj h

/-- Whether something has come or gone. -/
inductive Change where
  | added
  | removed
  deriving DecidableEq

namespace Change

def text : Change → String
  | added => "added"
  | removed => "removed"

end Change

/-- A neighbour: its address, and the interface that it is reached by. -/
structure Neighbor where
  ip : Ipv4
  ifindex : IfIndex
  deriving DecidableEq

namespace Neighbor

/-- Neighbours are ordered by address and then by interface. -/
instance : Key Neighbor where
  rank n := n.ip.bits.toNat * 2 ^ 32 + n.ifindex.toNat
  rank_inj {a b} h := by
    obtain ⟨⟨x⟩, i⟩ := a
    obtain ⟨⟨y⟩, j⟩ := b
    have hi := i.toNat_lt
    have hj := j.toNat_lt
    simp only at h
    have hx : x.toNat = y.toNat := by omega
    have hij : i.toNat = j.toNat := by omega
    rw [UInt32.toNat.inj hx, UInt32.toNat.inj hij]

end Neighbor

inductive Event where
  | link (ifindex : IfIndex) (name : String) (up : Bool)
  | linkRemoved (ifindex : IfIndex)
  | address (ifindex : IfIndex) (change : Change)
  /-- A route, with the address and interface of its next hop if it has them. -/
  | route (subnet : Subnet) (change : Change) (gateway : Option Ipv4) (via : Option IfIndex)
  | neighbor (ip : Ipv4) (ifindex : IfIndex) (mac : Option MacAddr) (change : Change)
  deriving DecidableEq

/-- What became of an event. -/
inductive EventOutcome where
  /-- The tables were changed. -/
  | applied
  /-- The event does not concern the switch. -/
  | ignored
  /-- The event was noted and takes effect with a later one. -/
  | pending
  | failed
  deriving DecidableEq

namespace EventOutcome

def text : EventOutcome → String
  | applied => "applied"
  | ignored => "ignored"
  | pending => "pending"
  | failed => "failed"

end EventOutcome

end ControlPlane
