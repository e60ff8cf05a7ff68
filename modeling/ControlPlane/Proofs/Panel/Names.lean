import ControlPlane.Port
import ControlPlane.Proofs.Text.Numerals

/-! # Names of interfaces

The interface of a port is named by a stem and the port's number.  Whatever the stem is, a name stands for
a port exactly if it is the name of that port's interface (`PortId.ofIfname?_eq_some_iff`).  So the names of
one stem and the ports correspond one to one, and a name with anything else behind the stem stands for no
port (`PortId.names_one_to_one`). -/

namespace ControlPlane.PortId

variable {stem name : String} {p q : PortId}

theorem ofNat?_eq_some_iff {n : Nat} : ofNat? n = some p ↔ p.num = n := by
  constructor
  · intro h
    unfold ofNat? at h
    split at h
    · cases h
      rfl
    · cases h
  · rintro rfl
    exact ofNat?_num p

theorem afterStem?_eq_some_iff {stem name rest : List Char} :
    afterStem? stem name = some rest ↔ name = stem ++ rest := by
  induction stem generalizing name with
  | nil => simp [afterStem?]
  | cons s stem ih =>
      cases name with
      | nil => simp [afterStem?]
      | cons c name =>
          by_cases h : s = c
          · simp [afterStem?, h, ih]
          · simp [afterStem?, h, Ne.symm h]

theorem toList_ifname (p : PortId) (stem : String) :
    (p.ifname stem).toList = stem.toList ++ Nat.toDigits 10 p.num := by
  rw [ifname, String.toList_append, Nat.toString_eq_repr, Nat.toList_repr]

/-- A name stands for a port exactly if it is the name of the port's interface. -/
theorem ofIfname?_eq_some_iff : ofIfname? stem name = some p ↔ name = p.ifname stem := by
  rw [← String.toList_inj, toList_ifname]
  unfold ofIfname?
  constructor
  · intro h
    split at h
    · cases h
    · next digits hdigits =>
        rw [afterStem?_eq_some_iff] at hdigits
        split at h
        · cases h
        · next hzero =>
            split at h
            · cases h
            · next n hn =>
                rw [Text.unsigned?_eq_some_iff (by decide)] at hn
                rw [hdigits, hn.eq_toDigits hzero, ofNat?_eq_some_iff.mp h]
  · intro h
    have hzero : (Nat.toDigits 10 p.num).head? ≠ some '0' :=
      Text.head?_toDigits_ne_zero (by decide) p.one_le
    have hnum : Text.unsigned? 10 (Nat.toDigits 10 p.num) = some p.num :=
      (Text.unsigned?_eq_some_iff (by decide)).mpr (Text.spells_toDigits (by decide) p.num)
    rw [afterStem?_eq_some_iff.mpr h]
    simp only [if_neg hzero, hnum, ofNat?_num]

theorem ifname_inj : p.ifname stem = q.ifname stem ↔ p = q := by
  refine ⟨fun h => ?_, fun h => h ▸ rfl⟩
  have hp : ofIfname? stem (p.ifname stem) = some p := ofIfname?_eq_some_iff.mpr rfl
  have hq : ofIfname? stem (p.ifname stem) = some q := ofIfname?_eq_some_iff.mpr h
  exact Option.some.inj (hp.symm.trans hq)

/-- What stands behind the stem of a port's name is the port's number, as it is written. -/
theorem ofIfname?_append_eq_none {rest : String} (h : ∀ p : PortId, rest.toList ≠ Nat.toDigits 10 p.num) :
    ofIfname? stem (stem ++ rest) = none := by
  rw [Option.eq_none_iff_forall_ne_some]
  intro p hp
  rw [ofIfname?_eq_some_iff, ← String.toList_inj, toList_ifname, String.toList_append] at hp
  exact h p (List.append_cancel_left hp)

/-- **Names and ports correspond one to one.**  Under every stem, a name stands for a port if and only if it
is the name of the port's interface.  So no two names stand for one port, and no two ports have one name.
A stem with a zero behind it, with any character behind it that is no digit (a sign, or a suffix after the
number), or with the number of no port, however long, stands for none. -/
theorem names_one_to_one (stem : String) :
    (∀ name p, ofIfname? stem name = some p ↔ name = p.ifname stem) ∧
    (∀ name name' p, ofIfname? stem name = some p → ofIfname? stem name' = some p → name = name') ∧
    (∀ p q : PortId, p.ifname stem = q.ifname stem → p = q) ∧
    (∀ rest, ofIfname? stem (stem ++ ("0" ++ rest)) = none) ∧
    (∀ rest : String, (∃ c ∈ rest.toList, c.isDigit = false) → ofIfname? stem (stem ++ rest) = none) ∧
    ∀ n, ¬ (1 ≤ n ∧ n ≤ portCount) → ofIfname? stem (stem ++ toString n) = none := by
  refine ⟨fun name p => ofIfname?_eq_some_iff, fun name name' p h h' => ?_, fun p q => ifname_inj.mp,
    fun rest => ofIfname?_append_eq_none fun p hp => ?_,
    fun rest ⟨c, hc, hdigit⟩ => ofIfname?_append_eq_none fun p hp => ?_,
    fun n hn => ofIfname?_append_eq_none fun p hp => hn ?_⟩
  · rw [ofIfname?_eq_some_iff.mp h, ofIfname?_eq_some_iff.mp h']
  · have hzero : (Nat.toDigits 10 p.num).head? ≠ some '0' :=
      Text.head?_toDigits_ne_zero (by decide) p.one_le
    rw [← hp, String.toList_append] at hzero
    exact hzero rfl
  · rw [hp] at hc
    rw [Nat.isDigit_of_mem_toDigits (by decide) (by decide) hc] at hdigit
    cases hdigit
  · have hnum : n = p.num := by
      rw [Nat.toString_eq_repr, Nat.toList_repr] at hp
      have hspells : Text.Spells 10 (Nat.toDigits 10 n) n := Text.spells_toDigits (by decide) n
      rw [hp] at hspells
      exact hspells.unique (by decide) (Text.spells_toDigits (by decide) p.num)
    exact hnum ▸ ⟨p.one_le, p.le_count⟩

/-- A stem may end in digits of its own. -/
example : (ofIfname? "swp1" "swp152").map num = some 52 := by decide

end ControlPlane.PortId
