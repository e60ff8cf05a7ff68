import ControlPlane.Device.Channel
import ControlPlane.Table.Layout

/-! # Writing table entries

Entries are written whole, through any transport.  An index outside the table or a wrong number of
words is refused before the transport is used; `after_write_of_refused` says that such a write
leaves the transport alone. -/

namespace ControlPlane

namespace Table

variable {δ : Type} [Bus δ]

/-- Writes one entry. -/
def write (t : Table) (index : Nat) (words : List UInt32) : Operation δ Unit := fun bus =>
  if ¬ index < t.depth then
    .error (.invalid (.entryIndex t index)) bus
  else if words.length ≠ t.words then
    .error (.invalid (.entryWidth t words.length)) bus
  else
    (Bus.write (t.address index) words : DeviceOperation δ Unit).lift bus

/-- Writes zeros over one entry, which makes it invalid where the table has a bit for that. -/
def clear (t : Table) (index : Nat) : Operation δ Unit :=
  t.write index (List.replicate t.words 0)

theorem after_write_of_refused (t : Table) {index : Nat} {words : List UInt32} (bus : δ)
    (h : t.depth ≤ index ∨ words.length ≠ t.words) :
    Operation.after (t.write index words) bus = bus := by
  unfold Operation.after write
  by_cases hi : index < t.depth
  · have hw : words.length ≠ t.words := by
      rcases h with h | h
      · omega
      · exact h
    simp [hi, hw]
  · simp [hi]

end Table

end ControlPlane
