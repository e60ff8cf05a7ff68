import ControlPlane.Proofs.Forwarding.Commands

/-! # One station for each key

A key may lie in six slots, and a station is put where its key lies already.  So while stations come and
go no key lies in two slots, and every station is where it is looked for (`Distinct`).  Then the slots
alone tell where a key lies (`find?_eq_some_iff`), and removing a key leaves no station that has it
(`get?_without`). -/

namespace ControlPlane.Stations

open Operation (Ends)

variable {δ : Type} [Bus δ] {s s' : Stations} {mac : MacAddr} {vlan slot : Nat} {station : Station}

/-- Where a key lies is told from the slots. -/
theorem place_congr (h : s'.slots = s.slots) (mac : MacAddr) (vlan : Nat) :
    s'.place mac vlan = s.place mac vlan := by
  obtain ⟨slots, usage⟩ := s
  obtain ⟨slots', usage'⟩ := s'
  cases h
  rfl

theorem crowded_congr (h : s'.slots = s.slots) : s'.Crowded mac vlan ↔ s.Crowded mac vlan := by
  rw [Crowded, Crowded, place_congr h]

theorem holds_iff : s.holds mac vlan slot = true ↔
    ∃ station, s.slots.get? slot = some station ∧ station.mac = mac ∧ station.vlan = vlan := by
  unfold holds
  cases s.slots.get? slot <;> simp

/-- Every station is where it is looked for, and no two have the same key. -/
structure Distinct (s : Stations) : Prop where
  near : ∀ slot station, s.slots.get? slot = some station →
    slot ∈ candidates station.mac station.vlan
  unique : ∀ slot slot' a b, s.slots.get? slot = some a → s.slots.get? slot' = some b →
    a.mac = b.mac → a.vlan = b.vlan → slot = slot'

theorem Distinct.congr (h : s.Distinct) (hs : s'.slots = s.slots) : s'.Distinct := by
  obtain ⟨slots, usage⟩ := s
  obtain ⟨slots', usage'⟩ := s'
  cases hs
  exact ⟨h.near, h.unique⟩

theorem distinct_fresh : fresh.Distinct := by constructor <;> simp [fresh]

theorem Distinct.find?_eq_some_iff (h : s.Distinct) : s.find? mac vlan = some slot ↔
    ∃ station, s.slots.get? slot = some station ∧ station.mac = mac ∧ station.vlan = vlan := by
  constructor
  · exact fun hfind => holds_iff.mp (List.find?_some hfind)
  · rintro ⟨station, hs, rfl, rfl⟩
    have hholds : s.holds station.mac station.vlan slot = true := holds_iff.mpr ⟨station, hs, rfl, rfl⟩
    cases hfind : s.find? station.mac station.vlan with
    | none => exact absurd hholds (List.find?_eq_none.mp hfind slot (h.near slot station hs))
    | some k =>
        obtain ⟨b, hb, hmac, hvlan⟩ := holds_iff.mp (List.find?_some hfind)
        rw [h.unique k slot b station hb hs hmac hvlan]

/-- Other stations with its key make no room for a station anywhere else. -/
theorem slot_of_newSlot? {board : Board} (h : s.Distinct) (hnew : s.newSlot? board station = some slot)
    {k : Nat} {other : Station} (hk : s.slots.get? k = some other) (hmac : other.mac = station.mac)
    (hvlan : other.vlan = station.vlan) : k = slot := by
  have hfind : s.find? station.mac station.vlan = some k :=
    h.find?_eq_some_iff.mpr ⟨other, hk, hmac, hvlan⟩
  unfold newSlot? at hnew
  split at hnew
  · simp only [place, hfind] at hnew
    exact Option.some.inj hnew
  · cases hnew

/-- What is in the slot of a new station has its key. -/
theorem key_of_newSlot? {board : Board} {other : Station}
    (hnew : s.newSlot? board station = some slot) (hk : s.slots.get? slot = some other) :
    other.mac = station.mac ∧ other.vlan = station.vlan := by
  unfold newSlot? at hnew
  split at hnew
  · cases hplace : s.place station.mac station.vlan with
    | held slot' =>
        rw [hplace] at hnew
        cases hnew
        obtain ⟨a, ha, hkey⟩ := holds_iff.mp (place_held hplace).2
        rw [hk] at ha
        cases ha
        exact hkey
    | vacant slot' passed =>
        rw [hplace] at hnew
        cases hnew
        rw [(KeyMap.contains_eq_false_iff _ _).mp (place_vacant hplace).2] at hk
        cases hk
    | nowhere passed =>
        rw [hplace] at hnew
        cases hnew
  · cases hnew

theorem newSlot?_of_crowded (board : Board) (station : Station)
    (h : s.Crowded station.mac station.vlan) : s.newSlot? board station = none := by
  obtain ⟨passed, hplace⟩ := h
  unfold newSlot?
  split
  · rw [hplace]
  · rfl

theorem Distinct.added {board : Board} (h : s.Distinct) (hnew : s.newSlot? board station = some slot)
    (hs : s'.slots = s.slots.insert slot station) : s'.Distinct where
  near := by
    rw [hs]
    exact KeyMap.forall_insert (mem_candidates_of_newSlot? hnew) h.near
  unique k k' a b hk hk' hmac hvlan := by
    rw [hs] at hk hk'
    refine KeyMap.apart_insert (P := fun other key => other.mac = key.1 ∧ other.vlan = key.2) ?_ ?_ k k' a b
      (b.mac, b.vlan) hk hk' ⟨hmac, hvlan⟩ ⟨rfl, rfl⟩
    · rintro _ j other ⟨hm, hv⟩ hj ⟨hm', hv'⟩
      exact slot_of_newSlot? h hnew hj (hm'.trans hm.symm) (hv'.trans hv.symm)
    · rintro j j' c d _ hj hj' ⟨hm, hv⟩ ⟨hm', hv'⟩
      exact h.unique j j' c d hj hj' (hm.trans hm'.symm) (hv.trans hv'.symm)

theorem Distinct.removed (h : s.Distinct) (hs : s'.slots = s.slots.erase slot) : s'.Distinct where
  near k a hk := h.near k a (KeyMap.get?_of_get?_erase (hs ▸ hk))
  unique k k' a b hk hk' := h.unique k k' a b (KeyMap.get?_of_get?_erase (hs ▸ hk))
    (KeyMap.get?_of_get?_erase (hs ▸ hk'))

/-! ### Stations outside VLANs -/

/-- The slots once the station with a MAC address, and no VLAN, is removed. -/
def without (s : Stations) (mac : MacAddr) : KeyMap Nat Station :=
  match s.find? mac 0 with
  | some slot => s.slots.erase slot
  | none => s.slots

theorem without_congr (h : s'.slots = s.slots) (mac : MacAddr) : s'.without mac = s.without mac := by
  obtain ⟨slots, usage⟩ := s
  obtain ⟨slots', usage'⟩ := s'
  cases h
  rfl

theorem Distinct.without (h : s.Distinct) (hs : s'.slots = s.without mac) : s'.Distinct := by
  unfold Stations.without at hs
  split at hs
  · exact h.removed hs
  · exact h.congr hs

/-- What is left are the stations of other keys. -/
theorem Distinct.get?_without (h : s.Distinct) (mac : MacAddr) (k : Nat) :
    (s.without mac).get? k =
      (s.slots.get? k).filter fun a => !(a.mac == mac && a.vlan == 0) := by
  cases hk : s.slots.get? k with
  | none =>
      unfold Stations.without
      split
      · rw [KeyMap.get?_erase, hk, ite_self]
        rfl
      · exact hk
  | some station =>
      have hgone : s.find? mac 0 = some k ↔ station.mac = mac ∧ station.vlan = 0 := by
        rw [h.find?_eq_some_iff, hk]
        simp
      rw [Option.filter_some]
      by_cases hkey : station.mac = mac ∧ station.vlan = 0
      · rw [Stations.without, hgone.mpr hkey]
        simp [hkey]
      · have hstays : (s.without mac).get? k = some station := by
          unfold Stations.without
          split
          · rename_i slot hfind
            have hne : slot ≠ k := fun he => hkey (hgone.mp (he ▸ hfind))
            rw [KeyMap.get?_erase_of_ne _ hne, hk]
          · exact hk
        have hother : (station.mac == mac && station.vlan == 0) = false := by simpa using hkey
        rw [hstays, hother]
        rfl

theorem Distinct.get?_without_eq_some_iff (h : s.Distinct) {k : Nat} :
    (s.without mac).get? k = some station ↔
      s.slots.get? k = some station ∧ ¬ (station.mac = mac ∧ station.vlan = 0) := by
  rw [h.get?_without, Option.filter_eq_some_iff, Bool.not_eq_true', Bool.and_eq_false_iff,
    beq_eq_false_iff_ne, beq_eq_false_iff_ne, not_and_or]

theorem Distinct.find?_of_without (h : s.Distinct) (hs : s'.slots = s.without mac) :
    s'.find? mac 0 = none := by
  by_contra hsome
  obtain ⟨slot, hslot⟩ := Option.ne_none_iff_exists'.mp hsome
  obtain ⟨station, hget, hmac, hvlan⟩ := (h.without hs).find?_eq_some_iff.mp hslot
  rw [hs, h.get?_without] at hget
  have hother := (Option.filter_eq_some_iff.mp hget).2
  simp [hmac, hvlan] at hother

/-- Removing a station clears its slot, whatever the device says.  It fails only if there is none. -/
theorem remove_slots (s : Stations) (mac : MacAddr) (bus : δ) :
    Ends (remove mac 0) (s, bus) (fun _ t => t.1.slots = s.without mac)
      fun e t => (∃ what, e = .missing what) ∧ t.1.slots = s.without mac := by
  refine ends_remove (fun _ hv => absurd (by decide) hv) (fun hnone => ⟨⟨_, rfl⟩, ?_⟩)
    fun slot hfind => ?_
  · rw [Stations.without, hnone]
  · rw [Stations.without, hfind]

end ControlPlane.Stations
