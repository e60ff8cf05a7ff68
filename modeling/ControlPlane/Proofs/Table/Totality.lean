import ControlPlane.Proofs.Table.Codecs

/-! # Which words decode

A decoder reads fields until it has an entry, and stops at one that its words do not reach.

* **Fixed places.**  The fields of an entry lie inside it, so that words of its size have them all,
  whatever they spell (`Fields.Laid.readable`).  The decoders of nine tables read nothing else.
* **Listed members.**  How many members a descriptor lists is up to its count, and the count goes to 1023
  where the words end after ten of them (`GroupEntry.listed?_isSome_iff`).  The descriptors that the switch
  writes list eight at most, and the decoder does not look at that bound.
* **All tables.**  `Table.decodes_iff`: words of an entry's size decode, unless they are a descriptor whose
  list runs past its end. -/

namespace ControlPlane

/-- A list is looked up where each of its places is. -/
theorem mapM_isSome_iff {α β : Type} {f : α → Option β} {as : List α} :
    (as.mapM f).isSome ↔ ∀ a ∈ as, (f a).isSome := by
  induction as with
  | nil => simp
  | cons a as ih =>
      rw [List.mapM_cons, List.forall_mem_cons, ← ih]
      cases f a with
      | none => simp
      | some b => cases as.mapM f <;> simp

namespace Field

variable {f : Field} {v : Nat} {words : List UInt32}

/-- What the words spell in a field. -/
def value (f : Field) (words : List UInt32) : Nat := Bits.get (Words.toNat words) f.lo f.width

theorem read?_isSome_iff (f : Field) (words : List UInt32) :
    (f.read? words).isSome ↔ Words.Reaches words f.lo f.width := by
  rw [read?, Words.getField]
  split <;> simp_all

theorem read?_of_reaches (h : Words.Reaches words f.lo f.width) : f.read? words = some (f.value words) :=
  if_pos h

theorem isSet?_of_read? (h : f.read? words = some v) : f.isSet? words = some (v == 1) := by
  rw [isSet?, h, Option.map_some]

end Field

namespace Fields

variable {t : Table} {f : Field} {fs : List Field} {words : List UInt32}

theorem Within.reaches (h : Within t f) (hl : words.length = t.words) : Words.Reaches words f.lo f.width :=
  ⟨h.1, .inr (by rw [hl]; exact h.2)⟩

/-- All fields of an entry can be read from any words of its size. -/
theorem Laid.readable (h : Laid t fs) (hl : words.length = t.words) :
    fs.Forall fun f => f.read? words = some (f.value words) := by
  rw [List.forall_iff_forall_mem]
  intro f hf
  exact Field.read?_of_reaches ((h.2 f hf).reaches hl)

end Fields

/-! ### Fixed places -/

section fixed

variable {words : List UInt32}

theorem StationEntry.decode_isSome (hl : words.length = Table.station.words) :
    (StationEntry.decode words).isSome := by
  obtain ⟨hvalid, -, hvlan, hmac, hport, hmodule, hstatic⟩ := StationEntry.fields_laid.readable hl
  unfold StationEntry.decode
  rw [Field.isSet?_of_read? hvalid, hmac, hvlan, hport, hmodule, Field.isSet?_of_read? hstatic]
  simp only [Option.bind_eq_bind, Option.bind_some]
  split <;> rfl

theorem TrapEntry.decode_isSome (hl : words.length = Table.trap.words) :
    (TrapEntry.decode words).isSome := by
  obtain ⟨hvalid, hkey, hmask, hport, hcpu, hbpdu⟩ := TrapEntry.fields_laid.readable hl
  unfold TrapEntry.decode
  rw [Field.isSet?_of_read? hvalid, hkey, hmask, hport, Field.isSet?_of_read? hcpu,
    Field.isSet?_of_read? hbpdu]
  simp only [Option.bind_eq_bind, Option.bind_some]
  split <;> rfl

theorem InterfaceEntry.decode_isSome (hl : words.length = Table.interface.words) :
    (InterfaceEntry.decode words).isSome := by
  obtain ⟨hvlan, hmac⟩ := InterfaceEntry.fields_laid.readable hl
  unfold InterfaceEntry.decode
  rw [hvlan, hmac]
  rfl

theorem IngressHop.decode_isSome (hl : words.length = Table.ingressHop.words) :
    (IngressHop.decode words).isSome := by
  obtain ⟨htype, hport, hmodule⟩ := IngressHop.fields_laid.readable hl
  unfold IngressHop.decode
  rw [htype, hport, hmodule]
  rfl

theorem EgressHop.decode_isSome (hl : words.length = Table.egressHop.words) :
    (EgressHop.decode words).isSome := by
  obtain ⟨htype, hinterface, hmac⟩ := EgressHop.fields_laid.readable hl
  unfold EgressHop.decode
  rw [htype, hinterface, hmac]
  rfl

theorem RouteEntry.decode_isSome (hl : words.length = Table.route.words) :
    (RouteEntry.decode words).isSome := by
  obtain ⟨hvalid, hkey, hmask, hgroup, hhop⟩ := RouteEntry.fields_laid.readable hl
  unfold RouteEntry.decode
  rw [Field.isSet?_of_read? hvalid, hmask, hkey, Field.isSet?_of_read? hgroup, hhop]
  simp only [Option.bind_eq_bind, Option.bind_some]
  -- a valid entry whose mask has no length decodes too, as none
  split
  · split <;> rfl
  · rfl

theorem VlanEntry.decode_isSome (hl : words.length = Table.vlan.words) :
    (VlanEntry.decode words).isSome := by
  obtain ⟨hports, hingress, hgroup, hvalid, hprofile⟩ := VlanEntry.fields_laid.readable hl
  unfold VlanEntry.decode
  rw [Field.isSet?_of_read? hvalid, hports, hingress, hgroup, hprofile]
  simp only [Option.bind_eq_bind, Option.bind_some]
  split <;> rfl

theorem EgressVlanEntry.decode_isSome (hl : words.length = Table.egressVlan.words) :
    (EgressVlanEntry.decode words).isSome := by
  obtain ⟨hvalid, hgroup, huntagged, hports⟩ := EgressVlanEntry.fields_laid.readable hl
  unfold EgressVlanEntry.decode
  rw [Field.isSet?_of_read? hvalid, hgroup, huntagged, hports]
  simp only [Option.bind_eq_bind, Option.bind_some]
  split <;> rfl

theorem MemberEntry.decode_isSome (hl : words.length = Table.member.words) :
    (MemberEntry.decode words).isSome := by
  have hhop := MemberEntry.fields_laid.readable hl
  unfold MemberEntry.decode
  rw [hhop]
  rfl

end fixed

/-! ### Listed members -/

namespace GroupEntry

variable {words : List UInt32}

theorem head_laid : Fields.Laid .group [countField, baseField, walkBit] := by decide

/-- The number of listed members that end inside a descriptor.  A group's own members are fewer
(`listedMax`): the last two of these places run into the bits after the list. -/
def listedPlaces : Nat := 10

/-- Words that name more listed members than a descriptor has places for. -/
def Overlong (words : List UInt32) : Prop :=
  walkBit.value words = 0 ∧ listedPlaces < countField.value words

instance (words : List UInt32) : Decidable (Overlong words) := inferInstanceAs (Decidable (_ ∧ _))

theorem listedField_reaches_iff (hl : words.length = Table.group.words) (i : Nat) :
    Words.Reaches words (listedField i).lo (listedField i).width ↔ i < listedPlaces := by
  simp only [Words.Reaches, hl, listedField, listedPlaces, Table.words, Table.layout]
  omega

/-- Members are listed up to the last place of a descriptor, and no further. -/
theorem listed?_isSome_iff (hl : words.length = Table.group.words) (count : Nat) :
    (listed? words count).isSome ↔ count ≤ listedPlaces := by
  simp only [listed?, mapM_isSome_iff, List.mem_range, Field.read?_isSome_iff,
    listedField_reaches_iff hl]
  refine ⟨fun h => ?_, fun h i hi => Nat.lt_of_lt_of_le hi h⟩
  apply Nat.le_of_not_lt
  intro hlt
  exact Nat.lt_irrefl _ (h listedPlaces hlt)

theorem walkBit_value_lt (words : List UInt32) : walkBit.value words < 2 := Bits.get_lt _ _ _

/-- A descriptor decodes unless it is overlong. -/
theorem decode_isSome_iff (hl : words.length = Table.group.words) :
    (decode words).isSome ↔ ¬ Overlong words := by
  obtain ⟨hcount, hbase, hwalk⟩ := head_laid.readable hl
  have hlisted := listed?_isSome_iff hl (countField.value words)
  unfold decode
  rw [hcount, hbase, Field.isSet?_of_read? hwalk]
  simp only [Option.bind_eq_bind, Option.bind_some, Overlong]
  by_cases hzero : countField.value words = 0
  · rw [if_pos hzero, hzero]
    simp [listedPlaces]
  · rw [if_neg hzero]
    by_cases hset : walkBit.value words = 1
    · simp [hset]
    · have hclear : walkBit.value words = 0 := by
        have := walkBit_value_lt words
        omega
      simp only [hclear, true_and, Nat.not_lt, ← hlisted]
      cases listed? words (countField.value words) <;> simp

end GroupEntry

/-! ### All tables -/

namespace Table

/-- Words of an entry's size decode, into an entry or into none, unless they are a group's descriptor whose
list of members runs past its end. -/
theorem decodes_iff (t : Table) (words : List UInt32) (hl : words.length = t.words) :
    (t.decodeEntry words).isSome ↔ ¬ (t = group ∧ GroupEntry.Overlong words) := by
  have hfixed (h : (t.decodeEntry words).isSome) (ht : t ≠ group) :
      (t.decodeEntry words).isSome ↔ ¬ (t = group ∧ GroupEntry.Overlong words) :=
    iff_of_true h fun hg => ht hg.1
  cases t with
  | station => exact hfixed (StationEntry.decode_isSome hl) (by decide)
  | trap => exact hfixed (TrapEntry.decode_isSome hl) (by decide)
  | interface => exact hfixed (InterfaceEntry.decode_isSome hl) (by decide)
  | ingressHop => exact hfixed (IngressHop.decode_isSome hl) (by decide)
  | egressHop => exact hfixed (EgressHop.decode_isSome hl) (by decide)
  | route => exact hfixed (RouteEntry.decode_isSome hl) (by decide)
  | vlan => exact hfixed (VlanEntry.decode_isSome hl) (by decide)
  | egressVlan => exact hfixed (EgressVlanEntry.decode_isSome hl) (by decide)
  | member => exact hfixed (MemberEntry.decode_isSome hl) (by decide)
  | group =>
      rw [show group.decodeEntry words = GroupEntry.decode words from rfl,
        GroupEntry.decode_isSome_iff hl]
      simp

/-- A descriptor with ten listed members decodes, with eleven it does not; if it sends the chip to the span,
it decodes with eleven too. -/
theorem decodes_iff_descriptors :
    [10, 0, 0, 0, 0, 0, 0].length = group.words ∧ (group.decodeEntry [10, 0, 0, 0, 0, 0, 0]).isSome ∧
    ¬ (group.decodeEntry [11, 0, 0, 0, 0, 0, 0]).isSome ∧
    (group.decodeEntry [11, 0, 0, 0, 0, 0, 16]).isSome :=
  ⟨rfl, (decodes_iff group [10, 0, 0, 0, 0, 0, 0] rfl).mpr (by decide),
    fun h => (decodes_iff group [11, 0, 0, 0, 0, 0, 0] rfl).mp h (by decide),
    (decodes_iff group [11, 0, 0, 0, 0, 0, 16] rfl).mpr (by decide)⟩

/-- The list of eleven members runs past the end of a descriptor's seven words. -/
theorem descriptor_read_past_end :
    [11, 0, 0, 0, 0, 0, 0].length = group.words ∧ group.decodeEntry [11, 0, 0, 0, 0, 0, 0] = none := by
  decide

end Table

end ControlPlane
