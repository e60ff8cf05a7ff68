import ControlPlane.Proofs.Switch.Runs
import ControlPlane.Proofs.Table.Codecs

/-! # Slots of stations and traps that share words

The traps lie inside the table of stations: the slots of stations from 8192 to 9215 are where the traps
are (`Stations.Shared`).  A station lies in one of six slots from its home on, so its key tells whether
its slot is among them (`Stations.shared_iff`); a trap's first word is the first one of a station's slot
(`Site.marked_shared_iff`).  What the record has of either table was added to it by a request
(`BridgeRequest.serve_adds`), so it was checked then (`Switch.Placed.serve`). -/

namespace ControlPlane

open Operation (Ends)

/-! ### Slots in both tables -/

namespace Stations

/-- The slots whose words are those of traps. -/
def Shared (slot : Nat) : Prop := 8192 ≤ slot ∧ slot < 9216

/-- The keys that lead to such slots. -/
def SharesKey (mac : MacAddr) (vlan : Nat) : Prop := mac.toNat % 2 = 0 ∧ 512 ≤ vlan ∧ vlan < 576

/-- Either all slots of a key are shared, or none is. -/
theorem shared_iff {mac : MacAddr} {vlan slot : Nat} (hv : VlanTag.IsTag vlan)
    (h : slot ∈ candidates mac vlan) : Shared slot ↔ SharesKey mac vlan := by
  have hhome := home_eq mac hv
  have hslot := (mem_candidates_iff hv).mp h
  simp only [Shared, SharesKey]
  omega

end Stations

namespace Site

/-- The entries of stations and traps. -/
def Bridged : Site → Prop
  | entry t _ => t = .station ∨ t = .trap
  | enables _ => False

/-- The entries of stations that no trap shares words with. -/
def OwnStation : Site → Prop
  | entry t slot => t = .station ∧ ¬ Stations.Shared slot
  | enables _ => False

/-- The entries of traps. -/
def OfTrap : Site → Prop
  | entry t _ => t = .trap
  | enables _ => False

theorem own_apart_trap {slot k : Nat} (hs : ¬ Stations.Shared slot) (hk : k < Table.trap.depth) :
    (entry .station slot).Apart (entry .trap k) := by
  change k < 512 at hk
  rw [station_trap_apart_iff]
  simp only [Stations.Shared] at hs
  omega

theorem bridged_of_trap {s : Site} (h : s.OfTrap) : s.Bridged := by
  cases s with
  | entry t k => exact .inr h
  | enables b => exact h

/-- Everything lies apart from the stations that share no words with traps. -/
theorem OnChip.aloof_ownStation {s : Site} (hs : s.OnChip) : s.Aloof OwnStation := by
  intro u hu hc hne
  rcases u with ⟨t', slot⟩ | b
  · obtain ⟨rfl, hown⟩ := hu
    rcases s with ⟨t, k⟩ | b
    · by_cases ht : t = .trap
      · subst ht
        exact (own_apart_trap hown hs).symm
      · refine apart_of_not_crosses hs hc (Ne.symm hne) fun hcross => ?_
        rcases (Table.overlaps_iff t .station).mp hcross with (⟨-, h⟩ | ⟨rfl, -⟩) | ⟨-, h⟩ | ⟨-, h⟩
        · cases h
        · exact ht rfl
        · cases h
        · cases h
    · exact apart_of_not_crosses hs hc (Ne.symm hne) id
  · cases hu

theorem aloof_of_own {slot : Nat} (hs : ¬ Stations.Shared slot) :
    (entry .station slot).Aloof Bridged := by
  intro u hu hc hne
  rcases u with ⟨t', k⟩ | b
  · rcases hu with rfl | rfl
    · exact apart_of_index_ne .station fun h => hne (h ▸ rfl)
    · exact own_apart_trap hs hc
  · cases hu

theorem aloof_trap (k : Nat) : (entry .trap k).Aloof OfTrap := by
  intro u hu hc hne
  rcases u with ⟨t', k'⟩ | b
  · cases hu
    exact apart_of_index_ne .trap fun h => hne (h ▸ rfl)
  · cases hu

/-- The first words of a trap are those of a station. -/
theorem stored_shared (m : Memory UInt32) (k : Nat) :
    (entry .station (8192 + 2 * k)).stored m = ((entry .trap k).stored m).take 4 := by
  have haddress : (entry .station (8192 + 2 * k)).address = (entry .trap k).address := by
    simp only [address, Table.address, Table.layout]
    omega
  have hwords : wordAddresses (entry .trap k).address 4 =
      (wordAddresses (entry .trap k).address 5).take 4 := rfl
  rw [stored, haddress]
  change m.readAll (wordAddresses _ 4) = (m.readAll (wordAddresses _ 5)).take 4
  rw [hwords, Memory.readAll, List.map_take]
  rfl

/-- A slot in both tables is marked in both. -/
theorem marked_shared_iff (m : Memory UInt32) (k : Nat) :
    Marked ((entry .station (8192 + 2 * k)).stored m) ↔ Marked ((entry .trap k).stored m) := by
  rw [stored_shared]
  cases hw : (entry .trap k).stored m with
  | nil => rfl
  | cons w ws => exact marked_cons_iff

end Site

/-! ### What is recorded -/

/-- The entry of a station whose VLAN was checked fits its fields. -/
theorem Stations.entry_fits {station : Station} (h : VlanTag.IsTag station.vlan) :
    (Stations.entry station).Fits where
  vlan := Nat.lt_succ_of_le h
  port := Nat.lt_of_le_of_lt station.port.le_count (by decide)
  module := (by decide : 0 < 2 ^ StationEntry.moduleField.width)

section placed

variable {δ : Type} [Bus δ] {sw : Switch δ}

/-- What is recorded of stations and traps was checked, and every station lies near its home. -/
structure Switch.Placed (sw : Switch δ) : Prop where
  isTag : ∀ slot station, sw.stations.slots.get? slot = some station → VlanTag.IsTag station.vlan
  near : ∀ slot station, sw.stations.slots.get? slot = some station →
    slot ∈ Stations.candidates station.mac station.vlan
  trap_isTag : ∀ slot trap, sw.traps.slots.get? slot = some trap → VlanTag.IsTag trap.vlan

omit [Bus δ] in
theorem Switch.placed_fresh (board : Board) (bus : δ) : (Switch.fresh board bus).Placed := by
  refine ⟨?_, ?_, ?_⟩ <;> simp [Switch.fresh, Stations.fresh, Traps.fresh]

/-- What a station that is added changes in the record. -/
theorem Switch.addStation_slots (sw : Switch δ) (station : Station) :
    Ends (Switch.addStation station) sw
      (fun _ sw' => ∃ slot, sw.stations.newSlot? sw.board station = some slot ∧
        sw'.stations.slots = sw.stations.slots.insert slot station ∧ sw'.traps = sw.traps)
      (fun _ sw' => sw'.stations.slots = sw.stations.slots ∧ sw'.traps = sw.traps) := by
  change Ends (Switch.onStations (Stations.add sw.board station)) sw _ _
  refine Ends.focus ((Stations.add_commands sw.board station).mono ?_ ?_)
  · rintro _ t ⟨slot, hnew, -, hslots⟩
    exact ⟨slot, hnew, hslots, rfl⟩
  · rintro _ t ⟨hslots, -⟩
    exact ⟨hslots, rfl⟩

theorem Switch.addTrap_slots (sw : Switch δ) (trap : TrapEntry) :
    Ends (Switch.addTrap trap) sw
      (fun slot sw' => sw.traps.newSlot? trap = some slot ∧
        sw'.traps.slots = sw.traps.slots.insert slot trap ∧ sw'.stations = sw.stations)
      (fun _ sw' => sw'.traps = sw.traps ∧ sw'.stations = sw.stations) := by
  refine Ends.focus ((Traps.add_commands trap).mono ?_ ?_)
  · rintro slot t ⟨hnew, -, hslots⟩
    exact ⟨hnew, hslots, rfl⟩
  · rintro _ t ⟨htraps, -⟩
    exact ⟨htraps, rfl⟩

/-- A request that adds the given station to a slot, or the given trap, or else adds nothing. -/
structure BridgeRequest.Adds (request : BridgeRequest) (sw sw' : Switch δ) : Prop where
  station : ∀ slot station, sw'.stations.slots.get? slot = some station →
    sw.stations.slots.get? slot = some station ∨ request = .addStation station ∧
      sw.stations.newSlot? sw.board station = some slot ∧
        Operation.answer (Switch.addStation station) sw = .ok ()
  trap : ∀ slot trap, sw'.traps.slots.get? slot = some trap →
    sw.traps.slots.get? slot = some trap ∨ request = .addTrap trap ∧
      sw.traps.newSlot? trap = some slot ∧ Operation.answer (Switch.addTrap trap) sw = .ok slot

theorem BridgeRequest.serve_adds (request : BridgeRequest) (sw : Switch δ) :
    request.Adds sw (request.serve sw) := by
  cases request with
  | addStation station =>
      refine Ends.after ((Switch.addStation_slots sw station).answered.mono ?_ ?_)
      · rintro _ sw' ⟨hok, slot, hnew, hslots, htraps⟩
        refine ⟨fun k other hk => ?_, fun k trap hk => .inl (htraps ▸ hk)⟩
        rw [hslots] at hk
        obtain ⟨rfl, rfl⟩ | hold := KeyMap.eq_or_get?_of_insert hk
        · exact .inr ⟨rfl, hnew, hok⟩
        · exact .inl hold
      · rintro _ sw' ⟨hslots, htraps⟩
        exact ⟨fun k other hk => .inl (hslots ▸ hk), fun k trap hk => .inl (htraps ▸ hk)⟩
  | removeStation mac vlan =>
      refine Switch.onStations_after ((Stations.remove_commands mac vlan).mono ?_ ?_)
      · rintro _ t ⟨slot, -, hslots, -⟩
        exact ⟨fun k other hk => .inl (KeyMap.get?_of_get?_erase (hslots ▸ hk)),
          fun k trap hk => .inl hk⟩
      · rintro _ t ⟨hslots, -⟩
        exact ⟨fun k other hk => .inl (hslots ▸ hk), fun k trap hk => .inl hk⟩
  | addTrap trap =>
      refine Ends.after ((Switch.addTrap_slots sw trap).answered.mono ?_ ?_)
      · rintro slot sw' ⟨hok, hnew, hslots, hstations⟩
        refine ⟨fun k other hk => .inl (hstations ▸ hk), fun k other hk => ?_⟩
        rw [hslots] at hk
        obtain ⟨rfl, rfl⟩ | hold := KeyMap.eq_or_get?_of_insert hk
        · exact .inr ⟨rfl, hnew, hok⟩
        · exact .inl hold
      · rintro _ sw' ⟨htraps, hstations⟩
        exact ⟨fun k other hk => .inl (hstations ▸ hk), fun k other hk => .inl (htraps ▸ hk)⟩
  | removeTrap slot =>
      refine Switch.onTraps_after ((Traps.remove_commands slot).mono ?_ ?_)
      · rintro _ t ⟨-, -, hslots, -⟩
        exact ⟨fun k other hk => .inl hk,
          fun k trap hk => .inl (KeyMap.get?_of_get?_erase (hslots ▸ hk))⟩
      · rintro _ t rfl
        exact ⟨fun k other hk => .inl hk, fun k trap hk => .inl hk⟩

theorem Switch.Placed.serve (request : BridgeRequest) (h : sw.Placed) :
    (request.serve sw).Placed := by
  have hadds := request.serve_adds sw
  refine ⟨fun slot station hs => ?_, fun slot station hs => ?_, fun slot trap hs => ?_⟩
  · rcases hadds.station slot station hs with hold | ⟨-, hnew, -⟩
    · exact h.isTag slot station hold
    · exact Stations.isTag_of_newSlot? hnew
  · rcases hadds.station slot station hs with hold | ⟨-, hnew, -⟩
    · exact h.near slot station hold
    · exact Stations.mem_candidates_of_newSlot? hnew
  · rcases hadds.trap slot trap hs with hold | ⟨-, hnew, -⟩
    · exact h.trap_isTag slot trap hold
    · exact Traps.isTag_of_newSlot? hnew

end placed

end ControlPlane
