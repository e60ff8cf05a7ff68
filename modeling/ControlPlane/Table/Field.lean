import ControlPlane.Bits
import ControlPlane.Table.Layout

/-! # Fields of table entries

An entry is described by its fields, runs of bits that do not overlap.  An encoder lists the value
of each field and leaves all other bits clear; a decoder reads the fields one after the other and
stops, with `none`, at one that the words it was given do not reach.

`Fields.get_pack` says that a packed field reads back cut to its width, whatever is packed beside
it. -/

namespace ControlPlane

/-- A run of `width` bits from bit `lo` on. -/
structure Field where
  lo : Nat
  width : Nat
  deriving DecidableEq

namespace Field

/-- A field of one bit. -/
def bit (lo : Nat) : Field := ⟨lo, 1⟩

/-- Neither field has a bit of the other. -/
def Disjoint (f g : Field) : Prop := f.lo + f.width ≤ g.lo ∨ g.lo + g.width ≤ f.lo

instance (f g : Field) : Decidable (Disjoint f g) := inferInstanceAs (Decidable (_ ∨ _))

/-- The field's value, or `none` past the end of the words. -/
def read? (f : Field) (words : List UInt32) : Option Nat := Words.getField words f.lo f.width

/-- Whether a field of one bit is set, or `none` past the end of the words. -/
def isSet? (f : Field) (words : List UInt32) : Option Bool := (f.read? words).map (· == 1)

end Field

namespace Fields

/-- The number whose listed fields have the listed values and whose other bits are clear. -/
def pack : List (Field × Nat) → Nat
  | [] => 0
  | (f, v) :: rest => Bits.put (pack rest) f.lo f.width v

/-- A packed field reads back, cut to its width, if no field packed before it overlaps it. -/
theorem get_pack (before after : List (Field × Nat)) (f : Field) (v : Nat)
    (h : ∀ g ∈ before, g.1.Disjoint f) :
    Bits.get (pack (before ++ (f, v) :: after)) f.lo f.width = v % 2 ^ f.width := by
  induction before with
  | nil => exact Bits.get_put_self _ _ _ _
  | cons g before ih =>
    obtain ⟨g, w⟩ := g
    rw [List.cons_append, pack, Bits.get_put_of_disjoint _ _ (h (g, w) List.mem_cons_self)]
    exact ih fun g' hg => h g' (List.mem_cons_of_mem _ hg)

/-- The words of a table's entry with the listed field values. -/
def encode (t : Table) (fields : List (Field × Nat)) : List UInt32 :=
  Words.ofNat t.words (pack fields)

@[simp] theorem length_encode (t : Table) (fields : List (Field × Nat)) :
    (encode t fields).length = t.words :=
  Words.length_ofNat _ _

end Fields

end ControlPlane
