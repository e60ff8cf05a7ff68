/-! # VLAN tags

A tag has twelve bits.  Tag 0 stands for untagged traffic: it may be matched, but names no VLAN. -/

namespace ControlPlane.VlanTag

/-- The largest tag. -/
def last : Nat := 4095

/-- Whether `n` is a tag, 0 included. -/
def IsTag (n : Nat) : Prop := n ≤ last

/-- Whether `n` is the tag of a VLAN. -/
def IsVlan (n : Nat) : Prop := 1 ≤ n ∧ n ≤ last

instance (n : Nat) : Decidable (IsTag n) := inferInstanceAs (Decidable (_ ≤ _))

instance (n : Nat) : Decidable (IsVlan n) := inferInstanceAs (Decidable (_ ∧ _))

theorem IsVlan.isTag {n : Nat} (h : IsVlan n) : IsTag n := h.2

end ControlPlane.VlanTag
