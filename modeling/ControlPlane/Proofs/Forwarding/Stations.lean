import ControlPlane.Forwarding.Stations
import ControlPlane.Proofs.Device.Refusals

/-! # When a station is taken

A station is added unless its arguments are wrong, all the slots that its key may lie in hold other
stations, or the device refuses (`add_ends`); where all those slots are taken it is never added.

`ends_add` and `ends_remove` are the rules for the two requests, with one premise for each way in which
a request can go on. -/

namespace ControlPlane.Stations

open Operation (Ends)

variable {δ : Type} [Bus δ] {refused : δ → Prop} {s : Stations} {bus : δ}

/-! ### The slots of a key -/

theorem home_eq (mac : MacAddr) {vlan : Nat} (hv : VlanTag.IsTag vlan) :
    StationEntry.home mac vlan = mac.toNat % 2 * 65536 + vlan * 16 := by
  change vlan ≤ 4095 at hv
  change (mac.toNat * 2 ^ 16 + vlan % 2 ^ 12 * 2 ^ 4 + 0 * 2) % 131072 = _
  omega

/-- The slots of a key do not go around at the end of the table. -/
theorem home_add_probes_le (mac : MacAddr) {vlan : Nat} (hv : VlanTag.IsTag vlan) :
    StationEntry.home mac vlan + probes ≤ Table.station.depth := by
  rw [home_eq mac hv]
  change vlan ≤ 4095 at hv
  change _ + 6 ≤ 131072
  omega

/-- So they are the home and the slots right after it. -/
theorem candidates_eq (mac : MacAddr) {vlan : Nat} (hv : VlanTag.IsTag vlan) :
    candidates mac vlan = List.range' (StationEntry.home mac vlan) probes := by
  have hle := home_add_probes_le mac hv
  rw [List.range'_eq_map_range, candidates]
  refine List.map_congr_left fun i hi => Nat.mod_eq_of_lt ?_
  have := List.mem_range.mp hi
  omega

theorem mem_candidates_iff {mac : MacAddr} {vlan slot : Nat} (hv : VlanTag.IsTag vlan) :
    slot ∈ candidates mac vlan ↔
      StationEntry.home mac vlan ≤ slot ∧ slot < StationEntry.home mac vlan + 6 := by
  rw [candidates_eq mac hv, List.mem_range'_1]
  rfl

theorem lt_depth_of_mem_candidates {mac : MacAddr} {vlan slot : Nat}
    (h : slot ∈ candidates mac vlan) : slot < Table.station.depth := by
  obtain ⟨i, -, rfl⟩ := List.mem_map.mp h
  exact Nat.mod_lt _ (by decide)

/-! ### Where a key belongs -/

/-- None of the slots that a key may lie in holds it or is vacant. -/
def Crowded (s : Stations) (mac : MacAddr) (vlan : Nat) : Prop :=
  ∃ passed, s.place mac vlan = .nowhere passed

theorem place_held {mac : MacAddr} {vlan slot : Nat} (h : s.place mac vlan = .held slot) :
    slot ∈ candidates mac vlan ∧ s.holds mac vlan slot = true := by
  unfold place at h
  split at h
  · cases h
    exact ⟨List.mem_of_find?_eq_some ‹_›, List.find?_some ‹_›⟩
  · dsimp only at h
    split at h <;> cases h

theorem place_vacant {mac : MacAddr} {vlan slot passed : Nat}
    (h : s.place mac vlan = .vacant slot passed) :
    slot ∈ candidates mac vlan ∧ s.slots.contains slot = false := by
  unfold place at h
  split at h
  · cases h
  · dsimp only at h
    split at h
    · rename_i hfind
      cases h
      exact ⟨List.mem_of_find?_eq_some hfind, by simpa using List.find?_some hfind⟩
    · cases h

/-- A slot that is found is one that holds a station. -/
theorem get?_of_find? {mac : MacAddr} {vlan slot : Nat}
    (h : s.find? mac vlan = some slot) : ∃ station, s.slots.get? slot = some station := by
  have hholds := List.find?_some h
  unfold holds at hholds
  split at hholds
  · exact ⟨_, ‹_›⟩
  · cases hholds

/-- There is no room for a new key exactly if all the slots that it may lie in are taken. -/
theorem crowded_iff {mac : MacAddr} {vlan : Nat} (hfind : s.find? mac vlan = none) :
    s.Crowded mac vlan ↔ ∀ slot ∈ candidates mac vlan, s.slots.contains slot = true := by
  unfold Crowded place
  rw [hfind]
  cases hvacant : (candidates mac vlan).find? fun slot => !s.slots.contains slot with
  | none =>
      refine iff_of_true ⟨_, rfl⟩ fun slot hslot => ?_
      simpa using List.find?_eq_none.mp hvacant slot hslot
  | some slot =>
      refine iff_of_false (fun ⟨_, hplace⟩ => by cases hplace) fun hall => ?_
      have hfree := List.find?_some hvacant
      rw [hall slot (List.mem_of_find?_eq_some hvacant)] at hfree
      cases hfree

/-! ### Where requests end -/

section Rules

variable {Q : Unit → Stations × δ → Prop} {E : Error → Stations × δ → Prop} {station : Station}

theorem ends_record {slot : Nat} {count : Usage → Usage}
    (hok : ∀ bus', Table.station.write slot (entry station).encode bus = .ok () bus' →
      Q () (⟨s.slots.insert slot station, count s.usage⟩, bus'))
    (herror : ∀ e bus', Table.station.write slot (entry station).encode bus = .error e bus' →
      E e (s, bus')) :
    Ends (record slot station count) (s, bus) Q E := by
  cases hw : Table.station.write slot (entry station).encode bus with
  | ok u bus' => exact Operation.ends_ok (by simp only [record, hw]) (hok bus' hw)
  | error e bus' => exact Operation.ends_error (by simp only [record, hw]) (herror e bus' hw)

/-- A station whose key and port are right is recorded in the slot of its key or in a vacant one, and
refused if there is none. -/
theorem ends_add {board : Board}
    (hinvalid : ∀ why, ¬ (VlanTag.IsTag station.vlan ∧ board.Has station.port) →
      E (.invalid why) (s, bus))
    (hheld : ∀ slot, VlanTag.IsTag station.vlan ∧ board.Has station.port →
      s.place station.mac station.vlan = .held slot →
      Ends (record slot station Usage.updated) (s, bus) Q E)
    (hvacant : ∀ slot passed, VlanTag.IsTag station.vlan ∧ board.Has station.port →
      s.place station.mac station.vlan = .vacant slot passed →
      Ends (record slot station Usage.inserted) (⟨s.slots, s.usage.passed passed⟩, bus) Q E)
    (hnowhere : ∀ passed, VlanTag.IsTag station.vlan ∧ board.Has station.port →
      s.place station.mac station.vlan = .nowhere passed →
      E (.full (.table Table.station.name)) (⟨s.slots, (s.usage.passed passed).exhausted⟩, bus)) :
    Ends (add board station) (s, bus) Q E := by
  by_cases hv : VlanTag.IsTag station.vlan
  · by_cases hp : board.Has station.port
    · cases hplace : s.place station.mac station.vlan with
      | held slot =>
          exact Ends.of_eq (hheld slot ⟨hv, hp⟩ hplace)
            (by simp only [add, hv, hp, hplace, not_true, if_false])
      | vacant slot passed =>
          exact Ends.of_eq (hvacant slot passed ⟨hv, hp⟩ hplace)
            (by simp only [add, hv, hp, hplace, not_true, if_false])
      | nowhere passed =>
          exact Operation.ends_error (by simp only [add, hv, hp, hplace, not_true, if_false])
            (hnowhere passed ⟨hv, hp⟩ hplace)
    · exact Operation.ends_error
        (by simp only [add, hv, hp, not_true, not_false_iff, if_false, if_true]; rfl)
        (hinvalid _ fun h => hp h.2)
  · exact Operation.ends_error (by simp only [add, hv, not_false_iff, if_true]; rfl)
      (hinvalid _ fun h => hv h.1)

/-- A station that is found is forgotten, whatever the device says. -/
theorem ends_remove {mac : MacAddr} {vlan : Nat}
    (hinvalid : ∀ why, ¬ VlanTag.IsTag vlan → E (.invalid why) (s, bus))
    (hmissing : s.find? mac vlan = none →
      E (.missing (.station mac vlan)) (⟨s.slots, s.usage.missed⟩, bus))
    (hfound : ∀ slot, s.find? mac vlan = some slot →
      Q () (⟨s.slots.erase slot, s.usage.deleted⟩, Operation.after (Table.station.clear slot) bus)) :
    Ends (remove mac vlan) (s, bus) Q E := by
  by_cases hv : VlanTag.IsTag vlan
  · cases hfind : s.find? mac vlan with
    | none =>
        exact Operation.ends_error (by simp only [remove, hv, hfind, not_true, if_false])
          (hmissing hfind)
    | some slot =>
        exact Operation.ends_ok (by simp only [remove, hv, hfind, not_true, if_false])
          (hfound slot hfind)
  · exact Operation.ends_error (by simp only [remove, hv, not_false_iff, if_true]; rfl) (hinvalid _ hv)

end Rules

theorem record_ends (ht : Bus.Tells refused) {slot : Nat} (hs : slot < Table.station.depth)
    (station : Station) (count : Usage → Usage) :
    Ends (record slot station count) (s, bus) (fun _ _ => True) fun _ t => refused t.2 := by
  have hw := Table.write_ends ht .station slot (entry station).encode hs
    (Fields.length_encode _ _) bus
  exact ends_record (fun _ _ => trivial) fun e bus' herror => hw.of_error herror

theorem add_ends (ht : Bus.Tells refused) (board : Board) (station : Station) :
    Ends (add board station) (s, bus) (fun _ _ => ¬ s.Crowded station.mac station.vlan)
      (fun _ t => refused t.2 ∨ ¬ VlanTag.IsTag station.vlan ∨ ¬ board.Has station.port ∨
        s.Crowded station.mac station.vlan) := by
  refine ends_add (fun why hinvalid => ?_) (fun slot _ hplace => ?_)
    (fun slot passed _ hplace => ?_) (fun passed _ hplace => .inr (.inr (.inr ⟨passed, hplace⟩)))
  · rcases Decidable.not_and_iff_not_or_not.mp hinvalid with hv | hp
    · exact .inr (.inl hv)
    · exact .inr (.inr (.inl hp))
  · have hroom : ¬ s.Crowded station.mac station.vlan := by simp [Crowded, hplace]
    have hslot := lt_depth_of_mem_candidates (place_held hplace).1
    exact (record_ends ht hslot station _).mono (fun _ _ _ => hroom) fun _ _ h => .inl h
  · have hroom : ¬ s.Crowded station.mac station.vlan := by simp [Crowded, hplace]
    have hslot := lt_depth_of_mem_candidates (place_vacant hplace).1
    exact (record_ends ht hslot station _).mono (fun _ _ _ => hroom) fun _ _ h => .inl h

end ControlPlane.Stations
