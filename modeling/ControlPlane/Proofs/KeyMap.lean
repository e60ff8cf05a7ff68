import ControlPlane.Routing.State
import Mathlib.Algebra.BigOperators.Group.List.Basic
import Mathlib.Algebra.GroupWithZero.Nat
import Mathlib.Data.Finset.Card

/-! # The entries of a map and totals over them

What is true of all entries of a map, or had by one of them alone, is told after an insertion from the new
entry and those before (`forall_insert`, `exists_insert_iff`, `apart_insert`), and after an erasure from those
before (`get?_erase_eq_some_iff`, `exists_erase_iff`).

What is counted here is counted over the entries of a map: the egress objects built on an interface,
the routes to a target.  `KeyMap.total m f` adds up `f` over the values of `m`.

* **One entry more or less.**  Two maps that differ in one key alone have listings that differ in one
  entry (`toList_perm_cons`), so `total_insert` and `total_erase` give the new total from the old.
* **Nothing to count.**  A total is zero exactly if every entry counts for nothing
  (`total_eq_zero_iff`).
* **Key by key.**  Totals over two maps agree if every key counts for the same in both
  (`total_congr`). -/

namespace ControlPlane.KeyMap

variable {κ β : Type} [Key κ]

/-- The sum of `f` over the values of a map. -/
def total (m : KeyMap κ β) (f : β → Nat) : Nat := (m.values.map f).sum

/-! ### Lookup -/

theorem contains_of_get? {m : KeyMap κ β} {k : κ} {v : β} (h : m.get? k = some v) : m.contains k = true :=
  (contains_iff m k).mpr ⟨v, h⟩

theorem contains_eq_false_iff (m : KeyMap κ β) (k : κ) : m.contains k = false ↔ m.get? k = none := by
  simp [contains]

theorem get?_alter [DecidableEq κ] (m : KeyMap κ β) (k : κ) (f : β → β) (a : κ) :
    (m.alter k f).get? a = if k = a then (m.get? a).map f else m.get? a := by
  unfold alter
  cases hk : m.get? k with
  | none =>
      by_cases h : k = a
      · subst h; simp [hk]
      · simp [h]
  | some b =>
      simp only [get?_insert]
      by_cases h : k = a
      · subst h; simp [hk]
      · simp [h]

theorem contains_alter [DecidableEq κ] (m : KeyMap κ β) (k : κ) (f : β → β) (a : κ) :
    (m.alter k f).contains a = m.contains a := by
  unfold contains
  rw [get?_alter]
  by_cases h : k = a <;> simp [h]

theorem contains_insert [DecidableEq κ] (m : KeyMap κ β) (k : κ) (v : β) (a : κ) :
    (m.insert k v).contains a = (decide (k = a) || m.contains a) := by
  unfold contains
  rw [get?_insert]
  by_cases h : k = a <;> simp [h]

theorem contains_erase [DecidableEq κ] (m : KeyMap κ β) (k a : κ) :
    (m.erase k).contains a = (!decide (k = a) && m.contains a) := by
  unfold contains
  rw [get?_erase]
  by_cases h : k = a <;> simp [h]

/-- What an insertion leaves in the map was inserted or was there. -/
theorem eq_or_get?_of_insert {m : KeyMap κ β} {k a : κ} {v w : β}
    (h : (m.insert k v).get? a = some w) : a = k ∧ w = v ∨ m.get? a = some w := by
  by_cases hk : k = a
  · subst hk
    rw [get?_insert_self] at h
    exact .inl ⟨rfl, (Option.some.inj h).symm⟩
  · rw [get?_insert_of_ne m v hk] at h
    exact .inr h

/-- What an erasure leaves in the map is there under other keys. -/
theorem get?_erase_eq_some_iff {m : KeyMap κ β} {k a : κ} {w : β} :
    (m.erase k).get? a = some w ↔ k ≠ a ∧ m.get? a = some w := by
  by_cases hk : k = a
  · subst hk
    simp
  · rw [get?_erase_of_ne m hk, and_iff_right hk]

theorem get?_of_get?_erase {m : KeyMap κ β} {k a : κ} {w : β}
    (h : (m.erase k).get? a = some w) : m.get? a = some w :=
  (get?_erase_eq_some_iff.mp h).2

/-- Entering what is there already changes nothing. -/
theorem get?_insert_eq_self {m : KeyMap κ β} {k : κ} {v : β} (h : m.get? k = some v) :
    (m.insert k v).get? = m.get? := by
  funext a
  by_cases hk : k = a
  · subst hk
    rw [get?_insert_self, h]
  · exact get?_insert_of_ne m v hk

theorem get?_erase_eq_self {m : KeyMap κ β} {k : κ} (h : m.get? k = none) :
    (m.erase k).get? = m.get? := by
  funext a
  by_cases hk : k = a
  · subst hk
    rw [get?_erase_self, h]
  · exact get?_erase_of_ne m hk

theorem get?_insert_eq_update [DecidableEq κ] (m : KeyMap κ β) (k : κ) (v : β) :
    (m.insert k v).get? = Function.update m.get? k (some v) := by
  funext a
  by_cases h : k = a
  · subst h; simp
  · rw [get?_insert_of_ne _ _ h, Function.update_of_ne (Ne.symm h)]

theorem get?_erase_eq_update [DecidableEq κ] (m : KeyMap κ β) (k : κ) :
    (m.erase k).get? = Function.update m.get? k none := by
  funext a
  by_cases h : k = a
  · subst h; simp
  · rw [get?_erase_of_ne _ h, Function.update_of_ne (Ne.symm h)]

theorem contains_insert_iff (m : KeyMap κ β) (k : κ) (v : β) (a : κ) :
    (m.insert k v).contains a = true ↔ m.contains a = true ∨ a = k := by
  by_cases h : k = a
  · subst h; simp [contains]
  · simp [contains, get?_insert_of_ne m v h, Ne.symm h]

theorem contains_erase_iff (m : KeyMap κ β) (k a : κ) :
    (m.erase k).contains a = true ↔ m.contains a = true ∧ a ≠ k := by
  by_cases h : k = a
  · subst h; simp [contains]
  · simp [contains, get?_erase_of_ne m h, Ne.symm h]

theorem mem_values_iff (m : KeyMap κ β) (v : β) : v ∈ m.values ↔ ∃ k, m.get? k = some v := by
  simp only [values, List.mem_map, Prod.exists, mem_toList_iff, exists_eq_right]

/-! ### All entries after a change -/

/-- What is true of the new entry and of those before is true of all after an insertion. -/
theorem forall_insert {m : KeyMap κ β} {k : κ} {v : β} {P : κ → β → Prop} (hnew : P k v)
    (hold : ∀ a w, m.get? a = some w → P a w) (a : κ) (w : β)
    (h : (m.insert k v).get? a = some w) : P a w := by
  obtain ⟨rfl, rfl⟩ | hw := eq_or_get?_of_insert h
  · exact hnew
  · exact hold a w hw

/-- What is had under a new key is had by the new entry, or was had before. -/
theorem exists_insert_iff {m : KeyMap κ β} {k : κ} (v : β) {P : β → Prop} (hk : m.get? k = none) :
    (∃ a w, (m.insert k v).get? a = some w ∧ P w) ↔ (∃ a w, m.get? a = some w ∧ P w) ∨ P v := by
  constructor
  · rintro ⟨a, w, hw, hp⟩
    obtain ⟨-, rfl⟩ | hold := eq_or_get?_of_insert hw
    · exact .inr hp
    · exact .inl ⟨a, w, hold, hp⟩
  · rintro (⟨a, w, hw, hp⟩ | hp)
    · have hne : k ≠ a := by
        rintro rfl
        rw [hk] at hw
        cases hw
      exact ⟨a, w, (m.get?_insert_of_ne v hne).trans hw, hp⟩
    · exact ⟨k, v, m.get?_insert_self k v, hp⟩

/-- What no other entry has is gone with the entry that has it. -/
theorem exists_erase_iff {m : KeyMap κ β} {k : κ} {v : β} {P : β → Prop} (hv : m.get? k = some v)
    (hunique : P v → ∀ a w, m.get? a = some w → P w → a = k) :
    (∃ a w, (m.erase k).get? a = some w ∧ P w) ↔ (∃ a w, m.get? a = some w ∧ P w) ∧ ¬ P v := by
  simp only [get?_erase_eq_some_iff]
  constructor
  · rintro ⟨a, w, ⟨hne, hw⟩, hp⟩
    exact ⟨⟨a, w, hw, hp⟩, fun hpv => hne (hunique hpv a w hw hp).symm⟩
  · rintro ⟨⟨a, w, hw, hp⟩, hnot⟩
    refine ⟨a, w, ⟨?_, hw⟩, hp⟩
    rintro rfl
    cases hv.symm.trans hw
    exact hnot hp

/-- Entries that share nothing still share nothing after an insertion, if what the new entry has no other had. -/
theorem apart_insert {ι : Type} {m : KeyMap κ β} {k : κ} {v : β} {P : β → ι → Prop}
    (hnew : ∀ n a w, P v n → m.get? a = some w → P w n → a = k)
    (hold : ∀ a a' w w' n, m.get? a = some w → m.get? a' = some w' → P w n → P w' n → a = a')
    (a a' : κ) (w w' : β) (n : ι) (h : (m.insert k v).get? a = some w)
    (h' : (m.insert k v).get? a' = some w') (hn : P w n) (hn' : P w' n) : a = a' := by
  obtain ⟨rfl, rfl⟩ | hw := eq_or_get?_of_insert h
  · obtain ⟨rfl, -⟩ | hw' := eq_or_get?_of_insert h'
    · rfl
    · exact (hnew n a' w' hn hw' hn').symm
  · obtain ⟨rfl, rfl⟩ | hw' := eq_or_get?_of_insert h'
    · exact hnew n a w hn' hw hn
    · exact hold a a' w w' n hw hw' hn hn'

/-! ### Listings -/

theorem toList_nodup (m : KeyMap κ β) : m.toList.Nodup := by
  refine m.toList_sorted.imp ?_
  rintro a b h rfl
  exact Nat.lt_irrefl _ h

theorem keys_sorted (m : KeyMap κ β) : m.keys.Pairwise fun a b => Key.rank a < Key.rank b :=
  List.pairwise_map.mpr m.toList_sorted

theorem keys_nodup (m : KeyMap κ β) : m.keys.Nodup := by
  refine m.keys_sorted.imp ?_
  rintro a b h rfl
  exact Nat.lt_irrefl _ h

/-- A map with one entry more than another lists that entry beside the others. -/
theorem toList_perm_cons {m m' : KeyMap κ β} {k : κ} {v : β} (hv : m.get? k = some v)
    (hk : m'.get? k = none) (h : ∀ a, a ≠ k → m.get? a = m'.get? a) :
    m.toList.Perm ((k, v) :: m'.toList) := by
  have hnot : (k, v) ∉ m'.toList := by
    rw [mem_toList_iff, hk]
    exact fun h => nomatch h
  refine (List.perm_ext_iff_of_nodup m.toList_nodup ?_).mpr ?_
  · exact List.nodup_cons.mpr ⟨hnot, m'.toList_nodup⟩
  · rintro ⟨a, b⟩
    rw [List.mem_cons, mem_toList_iff, mem_toList_iff]
    by_cases ha : a = k
    · subst ha
      simp [hv, hk, eq_comm]
    · simp [h a ha, ha]

/-! ### Sizes -/

theorem size_insert (m : KeyMap κ β) (k : κ) (v : β) :
    (m.insert k v).size = if m.contains k then m.size else m.size + 1 := by
  rw [size, insert, Std.TreeMap.size_insert, Std.TreeMap.contains_eq_isSome_getElem?]
  rfl

theorem size_erase (m : KeyMap κ β) (k : κ) :
    (m.erase k).size = if m.contains k then m.size - 1 else m.size := by
  rw [size, erase, Std.TreeMap.size_erase, Std.TreeMap.contains_eq_isSome_getElem?]
  rfl

/-- A map with an entry is not of size zero. -/
theorem size_pos_of_get? {m : KeyMap κ β} {k : κ} {v : β} (h : m.get? k = some v) : 0 < m.size := by
  rw [size, ← Std.TreeMap.length_toList]
  exact List.length_pos_of_mem ((m.mem_toList_iff k v).mpr h)

/-- Where no two entries have the same number, there are as many entries as numbers. -/
theorem size_eq_card {m : KeyMap κ β} {f : β → Nat}
    (hinj : ∀ k k' v v', m.get? k = some v → m.get? k' = some v' → f v = f v' → k = k')
    {numbers : Finset Nat} (hn : ∀ n, n ∈ numbers ↔ ∃ k v, m.get? k = some v ∧ f v = n) :
    m.size = numbers.card := by
  have hnodup : (m.toList.map fun e => f e.2).Nodup := by
    refine List.Nodup.map_on ?_ m.toList_nodup
    rintro ⟨k, v⟩ hv ⟨k', v'⟩ hv' heq
    rw [mem_toList_iff] at hv hv'
    obtain rfl := hinj k k' v v' hv hv' heq
    cases hv.symm.trans hv'
    rfl
  have hset : (m.toList.map fun e => f e.2).toFinset = numbers := by
    ext n
    simp only [List.mem_toFinset, List.mem_map, Prod.exists, mem_toList_iff, hn]
  rw [← hset, List.toFinset_card_of_nodup hnodup, List.length_map, size,
    ← Std.TreeMap.length_toList]
  rfl

/-! ### Totals -/

theorem total_of_split {m m' : KeyMap κ β} {k : κ} {v : β} (f : β → Nat) (hv : m.get? k = some v)
    (hk : m'.get? k = none) (h : ∀ a, a ≠ k → m.get? a = m'.get? a) :
    m.total f = f v + m'.total f := by
  have hp := ((toList_perm_cons hv hk h).map Prod.snd).map f
  unfold total values
  rw [hp.sum_eq]
  simp

theorem total_erase (m : KeyMap κ β) {k : κ} {v : β} (f : β → Nat) (hv : m.get? k = some v) :
    m.total f = f v + (m.erase k).total f :=
  total_of_split f hv (m.get?_erase_self k) fun _ ha => (m.get?_erase_of_ne (Ne.symm ha)).symm

/-- The total after an insertion, from the total of the other entries. -/
theorem total_insert_erase (m : KeyMap κ β) (k : κ) (v : β) (f : β → Nat) :
    (m.insert k v).total f = f v + (m.erase k).total f := by
  refine total_of_split f (m.get?_insert_self k v) (m.get?_erase_self k) fun a ha => ?_
  rw [m.get?_insert_of_ne v (Ne.symm ha), m.get?_erase_of_ne (Ne.symm ha)]

theorem total_insert (m : KeyMap κ β) {k : κ} (v : β) (f : β → Nat) (hk : m.get? k = none) :
    (m.insert k v).total f = f v + m.total f :=
  total_of_split f (m.get?_insert_self k v) hk fun _ ha => m.get?_insert_of_ne v (Ne.symm ha)

theorem total_eq_zero_iff (m : KeyMap κ β) (f : β → Nat) :
    m.total f = 0 ↔ ∀ k v, m.get? k = some v → f v = 0 := by
  unfold total
  rw [List.sum_eq_zero_iff_forall_eq_nat]
  constructor
  · intro h k v hv
    exact h _ (List.mem_map_of_mem ((m.mem_values_iff v).mpr ⟨k, hv⟩))
  · intro h n hn
    obtain ⟨v, hv, rfl⟩ := List.mem_map.mp hn
    obtain ⟨k, hk⟩ := (m.mem_values_iff v).mp hv
    exact h k v hk

/-! ### Totals key by key -/

/-- The keys whose values count for something, with what they count for. -/
def weights (m : KeyMap κ β) (f : β → Nat) : List (κ × Nat) :=
  (m.toList.filter fun e => f e.2 ≠ 0).map fun e => (e.1, f e.2)

theorem mem_weights_iff (m : KeyMap κ β) (f : β → Nat) (k : κ) (n : Nat) :
    (k, n) ∈ m.weights f ↔ n ≠ 0 ∧ (m.get? k).elim 0 f = n := by
  simp only [weights, List.mem_map, List.mem_filter, Prod.exists, Prod.mk.injEq, mem_toList_iff,
    decide_eq_true_eq]
  constructor
  · rintro ⟨a, v, ⟨hv, hne⟩, rfl, rfl⟩
    exact ⟨hne, by rw [hv]; rfl⟩
  · rintro ⟨hne, hn⟩
    cases hk : m.get? k with
    | none =>
        rw [hk] at hn
        exact absurd hn.symm hne
    | some v =>
        rw [hk] at hn
        exact ⟨k, v, ⟨hk, fun hzero => hne (hn.symm.trans hzero)⟩, rfl, hn⟩

theorem weights_nodup (m : KeyMap κ β) (f : β → Nat) : (m.weights f).Nodup := by
  refine List.pairwise_map.mpr ((m.toList_sorted.filter _).imp ?_)
  rintro a b hlt he
  rw [(Prod.mk.inj he).1] at hlt
  exact Nat.lt_irrefl _ hlt

/-- What counts for nothing can be left out of a total. -/
theorem sum_weights (m : KeyMap κ β) (f : β → Nat) :
    ((m.weights f).map Prod.snd).sum = m.total f := by
  unfold weights total values
  rw [List.map_map, List.map_map]
  induction m.toList with
  | nil => rfl
  | cons e es ih =>
      by_cases h : f e.2 = 0
      · simpa [h] using ih
      · simpa [h] using ih

/-- Totals are the same where every key counts for the same. -/
theorem total_congr {γ : Type} {m : KeyMap κ β} {m' : KeyMap κ γ} {f : β → Nat} {g : γ → Nat}
    (h : ∀ k, (m'.get? k).elim 0 g = (m.get? k).elim 0 f) : m'.total g = m.total f := by
  have hperm : (m'.weights g).Perm (m.weights f) := by
    refine (List.perm_ext_iff_of_nodup (m'.weights_nodup g) (m.weights_nodup f)).mpr ?_
    rintro ⟨k, n⟩
    rw [mem_weights_iff, mem_weights_iff, h k]
  rw [← sum_weights, ← sum_weights, (hperm.map Prod.snd).sum_eq]

/-- What is counted is how many keys have a value of the kind. -/
theorem total_indicator_congr {γ : Type} {m : KeyMap κ β} {m' : KeyMap κ γ} {p : β → Prop}
    {q : γ → Prop} [DecidablePred p] [DecidablePred q]
    (h : ∀ k, (∃ v, m'.get? k = some v ∧ q v) ↔ ∃ v, m.get? k = some v ∧ p v) :
    (m'.total fun v => if q v then 1 else 0) = m.total fun v => if p v then 1 else 0 := by
  refine total_congr fun k => ?_
  have hk := h k
  cases hm' : m'.get? k <;> cases hm : m.get? k <;> simp_all

end ControlPlane.KeyMap
