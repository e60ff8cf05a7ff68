import ControlPlane.Forwarding.Traps
import ControlPlane.Proofs.Forwarding.Stations
import ControlPlane.Proofs.Forwarding.Vlans

/-! # What the chip is told of stations, traps and VLANs

As with routed forwarding, an addition tells the chip to take the entry of a slot that the record
chooses alone, `newSlot?`, which is `none` where the addition fails before the chip is told anything.
A VLAN is told to the chip whenever its ports change. -/

namespace ControlPlane

open Operation (Ends)

variable {δ : Type} [Bus δ] {bus : δ}

/-! ### Stations -/

namespace Stations

variable {s : Stations}

/-- The slot of a new station, or that of an earlier one with its key. -/
def newSlot? (s : Stations) (board : Board) (station : Station) : Option Nat :=
  if VlanTag.IsTag station.vlan ∧ board.Has station.port then
    match s.place station.mac station.vlan with
    | .held slot => some slot
    | .vacant slot _ => some slot
    | .nowhere _ => none
  else
    none

/-- A station lies near its home. -/
theorem mem_candidates_of_newSlot? {board : Board} {station : Station} {slot : Nat}
    (h : s.newSlot? board station = some slot) : slot ∈ candidates station.mac station.vlan := by
  rw [newSlot?] at h
  split at h
  · cases hp : s.place station.mac station.vlan with
    | held slot' =>
        rw [hp] at h
        cases h
        exact (place_held hp).1
    | vacant slot' passed =>
        rw [hp] at h
        cases h
        exact (place_vacant hp).1
    | nowhere passed =>
        rw [hp] at h
        cases h
  · cases h

theorem isTag_of_newSlot? {board : Board} {station : Station} {slot : Nat}
    (h : s.newSlot? board station = some slot) : VlanTag.IsTag station.vlan := by
  rw [newSlot?] at h
  split at h
  · exact And.left ‹_›
  · cases h

/-- Where no slot of a key is taken, its home is the slot of a new station. -/
theorem newSlot?_eq_home {board : Board} {station : Station} {slot : Nat}
    (hfree : ∀ k ∈ candidates station.mac station.vlan, s.slots.get? k = none)
    (hnew : s.newSlot? board station = some slot) :
    slot = StationEntry.home station.mac station.vlan := by
  have hfind : s.find? station.mac station.vlan = none := by
    refine List.find?_eq_none.mpr fun k hk hholds => ?_
    rw [holds, hfree k hk] at hholds
    cases hholds
  have hhead : candidates station.mac station.vlan =
      StationEntry.home station.mac station.vlan :: (candidates station.mac station.vlan).tail := by
    have hlt := StationEntry.home_lt station.mac station.vlan
    have hzero : (StationEntry.home station.mac station.vlan + 0) % Table.station.depth =
        StationEntry.home station.mac station.vlan := Nat.mod_eq_of_lt hlt
    conv_rhs => rw [← hzero]
    rfl
  have hvacant : (candidates station.mac station.vlan).find? (fun k => !s.slots.contains k) =
      some (StationEntry.home station.mac station.vlan) := by
    have hhome := hfree (StationEntry.home station.mac station.vlan)
      (by rw [hhead]; exact List.mem_cons_self)
    rw [hhead]
    refine List.find?_cons_of_pos ?_
    rw [(KeyMap.contains_eq_false_iff _ _).mpr hhome]
    rfl
  rw [newSlot?] at hnew
  split at hnew
  · simp only [place, hfind, hvacant] at hnew
    cases hnew
    rfl
  · cases hnew

theorem add_commands (board : Board) (station : Station) :
    Ends (add board station) (s, bus)
      (fun _ t => ∃ slot, s.newSlot? board station = some slot ∧
        Table.station.write slot (entry station).encode bus = .ok () t.2 ∧
        t.1.slots = s.slots.insert slot station)
      (fun e t => t.1.slots = s.slots ∧ (s.newSlot? board station = none ∧ t.2 = bus ∨
        ∃ slot, s.newSlot? board station = some slot ∧
          Table.station.write slot (entry station).encode bus = .error e t.2)) := by
  have hslot {slot : Nat} (hv : VlanTag.IsTag station.vlan ∧ board.Has station.port)
      (hplace : s.place station.mac station.vlan = .held slot ∨
        ∃ passed, s.place station.mac station.vlan = .vacant slot passed) :
      s.newSlot? board station = some slot := by
    rw [newSlot?, if_pos hv]
    rcases hplace with h | ⟨passed, h⟩ <;> rw [h]
  refine ends_add (fun why hinvalid => ⟨rfl, .inl ⟨if_neg hinvalid, rfl⟩⟩) (fun slot hv hplace => ?_)
    (fun slot passed hv hplace => ?_) (fun passed hv hplace => ⟨rfl, .inl ⟨?_, rfl⟩⟩)
  · have hnew := hslot hv (.inl hplace)
    exact ends_record (fun _ hw => ⟨slot, hnew, hw, rfl⟩) fun _ _ hw => ⟨rfl, .inr ⟨slot, hnew, hw⟩⟩
  · have hnew := hslot hv (.inr ⟨passed, hplace⟩)
    exact ends_record (fun _ hw => ⟨slot, hnew, hw, rfl⟩) fun _ _ hw => ⟨rfl, .inr ⟨slot, hnew, hw⟩⟩
  · rw [newSlot?, if_pos hv, hplace]

theorem remove_commands (mac : MacAddr) (vlan : Nat) :
    Ends (remove mac vlan) (s, bus)
      (fun _ t => ∃ slot, s.find? mac vlan = some slot ∧ t.1.slots = s.slots.erase slot ∧
        t.2 = Operation.after (Table.station.clear slot) bus)
      (fun _ t => t.1.slots = s.slots ∧ t.2 = bus) := by
  exact ends_remove (fun _ _ => ⟨rfl, rfl⟩) (fun _ => ⟨rfl, rfl⟩) fun slot hfind =>
    ⟨slot, hfind, rfl, rfl⟩

theorem mem_candidates_of_find? {mac : MacAddr} {vlan slot : Nat} (h : s.find? mac vlan = some slot) :
    slot ∈ candidates mac vlan :=
  List.mem_of_find?_eq_some h

end Stations

/-! ### Traps -/

namespace Traps

variable {t : Traps}

def newSlot? (t : Traps) (trap : TrapEntry) : Option Nat :=
  if VlanTag.IsTag trap.vlan then t.vacant? else none

theorem newSlot?_free {trap : TrapEntry} {slot : Nat} (h : t.newSlot? trap = some slot) :
    slot < Table.trap.depth ∧ t.slots.get? slot = none := by
  rw [newSlot?] at h
  split at h
  · unfold vacant? at h
    refine ⟨List.mem_range.mp (List.mem_of_find?_eq_some h), ?_⟩
    rw [← KeyMap.contains_eq_false_iff]
    simpa using List.find?_some h
  · cases h

theorem isTag_of_newSlot? {trap : TrapEntry} {slot : Nat}
    (h : t.newSlot? trap = some slot) : VlanTag.IsTag trap.vlan := by
  rw [newSlot?] at h
  split at h
  · assumption
  · cases h

theorem add_commands (trap : TrapEntry) :
    Ends (add trap) (t, bus)
      (fun slot t' => t.newSlot? trap = some slot ∧
        Table.trap.write slot trap.encode bus = .ok () t'.2 ∧ t'.1.slots = t.slots.insert slot trap)
      (fun e t' => t'.1 = t ∧ (t.newSlot? trap = none ∧ t'.2 = bus ∨
        ∃ slot, t.newSlot? trap = some slot ∧
          Table.trap.write slot trap.encode bus = .error e t'.2)) := by
  by_cases hv : VlanTag.IsTag trap.vlan
  · rw [newSlot?, if_pos hv]
    cases hn : t.vacant? with
    | none =>
        exact Operation.ends_error (by simp only [add, hv, hn, not_true, if_false]; rfl)
          ⟨rfl, .inl ⟨rfl, rfl⟩⟩
    | some slot =>
        cases hb : Table.trap.write slot trap.encode bus with
        | ok u bus' =>
            exact Operation.ends_ok (by simp only [add, hv, hn, hb, not_true, if_false]; rfl)
              ⟨rfl, hb, rfl⟩
        | error e bus' =>
            exact Operation.ends_error (by simp only [add, hv, hn, hb, not_true, if_false]; rfl)
              ⟨rfl, .inr ⟨slot, rfl, hb⟩⟩
  · rw [newSlot?, if_neg hv]
    exact Operation.ends_error (by simp only [add, hv, not_false_iff, if_true]; rfl)
      ⟨rfl, .inl ⟨rfl, rfl⟩⟩

theorem remove_commands (slot : Nat) :
    Ends (remove slot) (t, bus)
      (fun _ t' => slot < Table.trap.depth ∧ t.slots.contains slot = true ∧
        t'.1.slots = t.slots.erase slot ∧ t'.2 = Operation.after (Table.trap.clear slot) bus)
      (fun _ t' => t' = (t, bus)) := by
  by_cases hs : slot < Table.trap.depth
  · by_cases hc : t.slots.contains slot = true
    · exact Operation.ends_ok (by simp only [remove, hs, hc, not_true, if_false, if_true]; rfl)
        ⟨hs, hc, rfl, rfl⟩
    · exact Operation.ends_error
        (by simp only [remove, hs, hc, not_true, if_false, Bool.false_eq_true]; rfl) rfl
  · exact Operation.ends_error (by simp only [remove, hs, not_false_iff, if_true]; rfl) rfl

end Traps

/-! ### VLANs -/

namespace Vlans

variable {s : Vlans} {vlan : Nat}

/-- Whether a VLAN can be created, and does not exist. -/
def IsNew (s : Vlans) (vlan : Nat) : Prop := VlanTag.IsVlan vlan ∧ s.members.contains vlan = false

instance (s : Vlans) (vlan : Nat) : Decidable (s.IsNew vlan) := inferInstanceAs (Decidable (_ ∧ _))

theorem create_commands (vlan : Nat) :
    Ends (create vlan) (s, bus) (fun _ _ => True)
      (fun e t => ¬ s.IsNew vlan ∧ t.2 = bus ∨
        s.IsNew vlan ∧ program vlan VlanPorts.none none bus = .error e t.2) := by
  refine ends_create (fun hv _ => .inl ⟨fun hnew => hv hnew.1, rfl⟩) fun hv => ?_
  refine ends_ensure (fun _ => trivial) fun hnone => ends_record ?_
  have hnew : s.IsNew vlan := ⟨hv, (KeyMap.contains_eq_false_iff _ _).mpr hnone⟩
  cases hb : program vlan VlanPorts.none none bus with
  | ok u bus' => exact Operation.ends_ok hb trivial
  | error e bus' => exact Operation.ends_error hb (.inr ⟨hnew, rfl⟩)

end Vlans

end ControlPlane
