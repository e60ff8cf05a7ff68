import ControlPlane.Panel.Location
import ControlPlane.Proofs.Device.MemoryBus
import ControlPlane.Table.Access

/-! # Sites

A `Site` is a place in the chip's memory that the control plane writes as a whole: an entry of a table,
or a block's word of enabled lanes.  A site that is on the chip has addresses of 32 bits, and few enough
words for one exchange.

* **What is stored.**  A site stores what was written to it last (`Site.Wrote.stored_self`), and a write
  to a site that lies apart changes nothing (`Site.Wrote.stored_of_apart`).
* **Writes.**  `Site.write` is a write of the transport, and every write of an entry is one
  (`Table.write_eq`).  `Site.write_ends` says where it ends. -/

namespace ControlPlane

open Operation (Ends)

/-! ### Consecutive words -/

theorem mem_wordAddresses {address words a : Nat} (h : a ∈ wordAddresses address words)
    (hb : address + 4 * words ≤ 2 ^ 32) : address ≤ a ∧ a + 4 ≤ address + 4 * words := by
  induction words generalizing address with
  | zero => cases h
  | succ words ih =>
      rcases List.mem_cons.mp h with rfl | h
      · rw [Nat.mod_eq_of_lt (by omega)]
        omega
      · have := ih h (by omega)
        omega

namespace Memory

variable {m : Memory UInt32} {address : Nat} {words : List UInt32}

/-- A word that lies apart from those written is as it was. -/
theorem read_writeAll_of_apart {a : Nat} (hb : address + 4 * words.length ≤ 2 ^ 32)
    (h : a + 4 ≤ address ∨ address + 4 * words.length ≤ a) :
    (m.writeAll (wordWrites address words)).read a = m.read a := by
  refine read_writeAll_of_notMem _ _ _ fun w hw => ?_
  have := mem_wordAddresses (List.of_mem_zip hw).1 hb
  omega

/-- Words that lie apart from those written are as they were. -/
theorem readAll_writeAll_of_apart {start count : Nat} (hb : address + 4 * words.length ≤ 2 ^ 32)
    (hs : start + 4 * count ≤ 2 ^ 32)
    (h : start + 4 * count ≤ address ∨ address + 4 * words.length ≤ start) :
    (m.writeAll (wordWrites address words)).readAll (wordAddresses start count) =
      m.readAll (wordAddresses start count) := by
  refine List.map_congr_left fun a ha => ?_
  have := mem_wordAddresses ha hs
  exact read_writeAll_of_apart hb (by omega)

end Memory

/-! ### Sites -/

/-- A place in the chip's memory that is written as a whole. -/
inductive Site where
  | entry (t : Table) (index : Nat)
  /-- The word of a block's enabled lanes. -/
  | enables (block : Nat)
  deriving DecidableEq

namespace Site

def address : Site → Nat
  | entry t index => t.address index
  | enables block => (Location.ofBlock block 0).enableWord

/-- The number of words. -/
def words : Site → Nat
  | entry t _ => t.words
  | enables _ => 1

/-- Whether the chip has the site. -/
def OnChip : Site → Prop
  | entry t index => index < t.depth
  | enables block => block < Location.blockBases.length

/-- What a memory holds at a site. -/
def stored (s : Site) (m : Memory UInt32) : List UInt32 := m.readAll (wordAddresses s.address s.words)

/-- The words of a site that nothing was written to. -/
def blank (s : Site) : List UInt32 := List.replicate s.words 0

/-- Two sites share no word. -/
def Apart (s u : Site) : Prop :=
  s.address + 4 * s.words ≤ u.address ∨ u.address + 4 * u.words ≤ s.address

theorem Apart.symm {s u : Site} (h : s.Apart u) : u.Apart s := Or.symm h

theorem words_le (s : Site) : s.words ≤ payloadWordsMax := by
  cases s with
  | entry t _ =>
      change t.words ≤ payloadWordsMax
      cases t <;> decide
  | enables _ => exact (by decide : 1 ≤ payloadWordsMax)

theorem OnChip.address_lt {s : Site} (h : s.OnChip) : s.address + 4 * s.words < 2 ^ 32 := by
  cases s with
  | entry t index => exact t.address_lt h
  | enables block =>
      have hall : ∀ b < Location.blockBases.length, (enables b).address + 4 * 1 < 2 ^ 32 := by decide
      exact hall block h

theorem stored_eq_blank_iff {s : Site} {m : Memory UInt32} :
    s.stored m = s.blank ↔ ∀ a ∈ wordAddresses s.address s.words, m.read a = 0 := by
  rw [stored, blank, Memory.readAll, List.eq_replicate_iff, List.length_map, length_wordAddresses]
  simp only [List.mem_map, forall_exists_index, and_imp, forall_apply_eq_imp_iff₂, true_and]

theorem stored_clear (s : Site) : s.stored .clear = s.blank :=
  stored_eq_blank_iff.mpr fun a _ => Memory.read_clear a

end Site

/-! ### Writes -/

section write

variable {δ : Type} [Bus δ]

/-- A write to a site through a transport. -/
def Site.write (s : Site) (words : List UInt32) : Operation δ Unit :=
  (Bus.write s.address words : DeviceOperation δ Unit).lift

theorem Table.write_eq (t : Table) {index : Nat} {words : List UInt32} (hi : index < t.depth)
    (hw : words.length = t.words) :
    (t.write index words : Operation δ Unit) = (Site.entry t index).write words := by
  funext bus
  rw [Table.write, if_neg (not_not_intro hi), if_neg (not_not_intro hw)]
  rfl

theorem Table.clear_eq (t : Table) {index : Nat} (hi : index < t.depth) :
    (t.clear index : Operation δ Unit) = (Site.entry t index).write (Site.entry t index).blank :=
  t.write_eq hi List.length_replicate

namespace Site

variable {s : Site} {words : List UInt32} {bus bus' : δ}

variable [MemoryBus δ]

/-- What a transport reaches once words were written to a site, whether or not they were taken. -/
structure Wrote (s : Site) (words : List UInt32) (bus bus' : δ) : Prop where
  sound : MemoryBus.Sound bus'
  backing_eq : MemoryBus.backing bus' = (MemoryBus.backing bus).write s.address words

/-- Whether a transport takes what is written to a site. -/
def Taken (s : Site) (bus : δ) : Prop := (MemoryBus.backing bus).takes s.address s.words = true

theorem Taken.not_refused (h : s.Taken bus) :
    (MemoryBus.backing bus).refuses s.address s.words = false := by
  rw [Taken, Backing.takes, Bool.and_eq_true, Bool.not_eq_true'] at h
  exact h.1

theorem Taken.not_stalled (h : s.Taken bus) : (MemoryBus.backing bus).stalls = false := by
  rw [Taken, Backing.takes, Bool.and_eq_true, Bool.not_eq_true', Bool.not_eq_true'] at h
  exact h.2

/-- What a chip that is not stalled does not take, it refuses. -/
theorem refused_of_not_taken (hs : (MemoryBus.backing bus).stalls = false) (h : ¬ s.Taken bus) :
    (MemoryBus.backing bus).refuses s.address s.words = true := by
  rw [Taken, Backing.takes, hs, Bool.not_false, Bool.and_true, Bool.not_eq_true', Bool.not_eq_false] at h
  exact h

theorem write_ends (hs : s.OnChip) (hw : words.length = s.words) (h : MemoryBus.Sound bus) :
    Ends (s.write words) bus (fun _ bus' => s.Wrote words bus bus' ∧ s.Taken bus)
      fun _ bus' => s.Wrote words bus bus' ∧ ¬ s.Taken bus := by
  refine Ends.mapError ((MemoryBus.write_ends h (Nat.lt_of_le_of_lt (Nat.le_add_right _ _)
    hs.address_lt) (hw ▸ s.words_le)).mono ?_ ?_)
  · rintro _ bus' ⟨hsound, hback, htakes⟩
    exact ⟨⟨hsound, hback⟩, by rw [Taken, ← hw]; exact htakes⟩
  · rintro _ bus' ⟨hsound, hback, htakes⟩
    exact ⟨⟨hsound, hback⟩, by rw [Taken, ← hw, htakes]; exact Bool.false_ne_true⟩

/-- Holds of a transport once it has not taken what was written to a site, and goes on holding. -/
def Tells (refused : δ → Prop) : Prop := ∀ (s : Site) (words : List UInt32) (bus : δ), s.OnChip →
  words.length = s.words → MemoryBus.Sound bus →
  Ends (s.write words) bus (fun _ bus' => refused bus → refused bus') fun _ bus' => refused bus'

/-- Which writes are taken does not depend on what is written. -/
theorem Wrote.takes_eq (h : s.Wrote words bus bus') :
    (MemoryBus.backing bus').takes = (MemoryBus.backing bus).takes := by
  rw [h.backing_eq, Backing.write_takes]

theorem Wrote.taken_iff (h : s.Wrote words bus bus') (u : Site) : u.Taken bus' ↔ u.Taken bus := by
  rw [Taken, Taken, h.takes_eq]

theorem Wrote.stalls_eq (h : s.Wrote words bus bus') :
    (MemoryBus.backing bus').stalls = (MemoryBus.backing bus).stalls := by
  rw [h.backing_eq, Backing.write_stalls]

/-- A write that is refused leaves the memory as it is. -/
theorem Wrote.backing_of_refused (h : s.Wrote words bus bus') (hw : words.length = s.words)
    (hr : (MemoryBus.backing bus).refuses s.address s.words = true) :
    MemoryBus.backing bus' = MemoryBus.backing bus := by
  rw [h.backing_eq, Backing.write, hw, if_pos hr]

/-- A site stores what was written to it, unless the write was refused. -/
theorem Wrote.stored_self (h : s.Wrote words bus bus') (hs : s.OnChip) (hw : words.length = s.words)
    (hr : (MemoryBus.backing bus).refuses s.address s.words = false) :
    s.stored (MemoryBus.backing bus').memory = words := by
  have hb := hs.address_lt
  rw [h.backing_eq, Backing.write, hw, if_neg (by rw [hr]; exact Bool.false_ne_true), stored, ← hw]
  exact Memory.readAll_writeAll_words _ _ (by omega)

/-- What lies apart from a site is not changed by a write to it. -/
theorem Wrote.stored_of_apart {u : Site} (h : s.Wrote words bus bus') (hs : s.OnChip)
    (hu : u.OnChip) (hw : words.length = s.words) (ha : s.Apart u) :
    u.stored (MemoryBus.backing bus').memory = u.stored (MemoryBus.backing bus).memory := by
  have hb := hs.address_lt
  have hb' := hu.address_lt
  rw [h.backing_eq, Backing.write]
  split
  · rfl
  · exact Memory.readAll_writeAll_of_apart (by omega) (by omega) (by rw [hw]; exact ha.symm)

/-- Some writes are not taken. -/
def Faulty (bus : δ) : Prop :=
  ∃ address words, (MemoryBus.backing bus).takes address words = false

/-- That some writes are not taken is told at once. -/
theorem tells_faulty : Tells (Faulty : δ → Prop) := by
  intro s words bus hs hw hsound
  refine (write_ends hs hw hsound).mono ?_ ?_
  · rintro _ bus' ⟨hwrote, -⟩ ⟨address, count, ht⟩
    exact ⟨address, count, by rw [hwrote.backing_eq, Backing.write_takes]; exact ht⟩
  · rintro _ bus' ⟨hwrote, ht⟩
    refine ⟨s.address, s.words, ?_⟩
    rw [hwrote.backing_eq, Backing.write_takes]
    exact (Bool.not_eq_true _).mp ht

end Site

/-- What tells of all refusals tells of those of sites. -/
theorem Bus.Tells.sites [MemoryBus δ] {refused : δ → Prop} (ht : Bus.Tells refused) :
    Site.Tells refused := by
  intro s words bus _ _ _
  refine Ends.mapError ?_
  cases hb : (Bus.write s.address words : DeviceOperation δ Unit) bus with
  | ok a bus' =>
      refine Operation.ends_ok hb fun h => ?_
      have := ht.persists s.address words h
      rwa [Operation.after, hb] at this
  | error e bus' => exact Operation.ends_error hb (ht.of_error _ _ hb)

end write

end ControlPlane
