import Std.Data.TreeMap

/-! # Maps that list their entries in key order

A `KeyMap` holds at most one value per key and lists its entries by increasing key.  The order
of the keys comes from `Key.rank`, an injective map to the natural numbers, so that two keys
compare equal exactly when they are equal.

* **View.**  Everything about a map is read off `get?`; `get?_empty`, `get?_insert` and
  `get?_erase` say what each operation does to it.
* **Order.**  `mem_toList_iff` ties the listing to `get?`, and `toList_sorted` says that the
  listing goes by increasing rank, hence that no key is listed twice. -/

namespace ControlPlane

/-- A type of keys, ordered by an injective rank. -/
class Key (κ : Type) where
  rank : κ → Nat
  rank_inj : ∀ {a b : κ}, rank a = rank b → a = b

namespace Key

/-- Keys compare as their ranks do. -/
def order {κ : Type} [Key κ] (a b : κ) : Ordering :=
  compare (rank a) (rank b)

theorem order_eq_iff {κ : Type} [Key κ] {a b : κ} : order a b = .eq ↔ a = b := by
  constructor
  · intro h
    exact rank_inj (Nat.compare_eq_eq.mp h)
  · rintro rfl
    exact Nat.compare_eq_eq.mpr rfl

theorem order_lt_iff {κ : Type} [Key κ] {a b : κ} : order a b = .lt ↔ rank a < rank b :=
  Nat.compare_eq_lt

instance {κ : Type} [Key κ] : Std.TransCmp (order : κ → κ → Ordering) where
  eq_swap := (Nat.compare_swap _ _).symm
  isLE_trans hab hbc := by
    simp only [order, Nat.isLE_compare] at *
    omega

instance {κ : Type} [Key κ] : Std.LawfulEqCmp (order : κ → κ → Ordering) where
  compare_self {_} := order_eq_iff.mpr rfl
  eq_of_compare h := order_eq_iff.mp h

end Key

instance : Key Nat where
  rank n := n
  rank_inj h := h

/-- A finite map whose entries are listed by increasing key. -/
structure KeyMap (κ β : Type) [Key κ] where
  tree : Std.TreeMap κ β Key.order

namespace KeyMap

variable {κ β : Type} [Key κ]

def empty : KeyMap κ β := ⟨∅⟩

instance : EmptyCollection (KeyMap κ β) := ⟨empty⟩

instance : Inhabited (KeyMap κ β) := ⟨empty⟩

/-- The value at `k`, if there is one. -/
def get? (m : KeyMap κ β) (k : κ) : Option β := m.tree[k]?

def contains (m : KeyMap κ β) (k : κ) : Bool := (m.get? k).isSome

/-- Puts `v` at `k`, in place of any earlier value. -/
def insert (m : KeyMap κ β) (k : κ) (v : β) : KeyMap κ β := ⟨m.tree.insert k v⟩

def erase (m : KeyMap κ β) (k : κ) : KeyMap κ β := ⟨m.tree.erase k⟩

/-- The entries by increasing key. -/
def toList (m : KeyMap κ β) : List (κ × β) := m.tree.toList

def keys (m : KeyMap κ β) : List κ := m.toList.map Prod.fst

def values (m : KeyMap κ β) : List β := m.toList.map Prod.snd

def size (m : KeyMap κ β) : Nat := m.tree.size

/-! ### What each operation does to the view -/

@[simp] theorem get?_empty (k : κ) : (∅ : KeyMap κ β).get? k = none :=
  Std.TreeMap.getElem?_emptyc

theorem get?_insert (m : KeyMap κ β) (k : κ) (v : β) (a : κ) [DecidableEq κ] :
    (m.insert k v).get? a = if k = a then some v else m.get? a := by
  simp only [get?, insert, Std.TreeMap.getElem?_insert, Key.order_eq_iff]

@[simp] theorem get?_insert_self (m : KeyMap κ β) (k : κ) (v : β) :
    (m.insert k v).get? k = some v :=
  Std.TreeMap.getElem?_insert_self

theorem get?_insert_of_ne (m : KeyMap κ β) {k a : κ} (v : β) (h : k ≠ a) :
    (m.insert k v).get? a = m.get? a := by
  rw [get?, insert, Std.TreeMap.getElem?_insert, if_neg (mt Key.order_eq_iff.mp h), get?]

theorem get?_erase (m : KeyMap κ β) (k a : κ) [DecidableEq κ] :
    (m.erase k).get? a = if k = a then none else m.get? a := by
  simp only [get?, erase, Std.TreeMap.getElem?_erase, Key.order_eq_iff]

@[simp] theorem get?_erase_self (m : KeyMap κ β) (k : κ) : (m.erase k).get? k = none :=
  Std.TreeMap.getElem?_erase_self

theorem get?_erase_of_ne (m : KeyMap κ β) {k a : κ} (h : k ≠ a) :
    (m.erase k).get? a = m.get? a := by
  rw [get?, erase, Std.TreeMap.getElem?_erase, if_neg (mt Key.order_eq_iff.mp h), get?]

theorem contains_iff (m : KeyMap κ β) (k : κ) :
    m.contains k = true ↔ ∃ v, m.get? k = some v :=
  Option.isSome_iff_exists

/-! ### The listing -/

theorem mem_toList_iff (m : KeyMap κ β) (k : κ) (v : β) :
    (k, v) ∈ m.toList ↔ m.get? k = some v :=
  Std.TreeMap.mem_toList_iff_getElem?_eq_some

theorem mem_keys_iff (m : KeyMap κ β) (k : κ) : k ∈ m.keys ↔ ∃ v, m.get? k = some v := by
  simp only [keys, List.mem_map, Prod.exists, mem_toList_iff, exists_and_right, exists_eq_right]

theorem toList_sorted (m : KeyMap κ β) :
    m.toList.Pairwise fun a b => Key.rank a.1 < Key.rank b.1 := by
  have h := Std.TreeMap.ordered_keys_toList (t := m.tree)
  exact h.imp fun h => Key.order_lt_iff.mp h

end KeyMap

end ControlPlane
