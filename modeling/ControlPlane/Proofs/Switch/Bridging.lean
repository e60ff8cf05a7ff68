import ControlPlane.Proofs.Forwarding.Commands
import ControlPlane.Proofs.Panel.Enables
import ControlPlane.Proofs.Switch.Reflects

/-! # Stations, traps, VLANs and ports on a switch whose memory shows its record

The operations on stations, traps, VLANs and ports keep `Switch.Reflects`, as those of routed forwarding
do, whatever faults the chip has. -/

namespace ControlPlane.Switch

open Operation (Ends)

variable {δ : Type} [Bus δ] [MemoryBus δ] {T : Nat → Nat → Bool} {refused : δ → Prop}
  {F : Site → Prop} {sw : Switch δ}

/-! ### Stations -/

omit [Bus δ] [MemoryBus δ] in
theorem onStations_after {α : Type} {op : Operation (Stations × δ) α} {P : Switch δ → Prop}
    (h : Ends op (sw.stations, sw.bus) (fun _ t => P { sw with stations := t.1, bus := t.2 })
      fun _ t => P { sw with stations := t.1, bus := t.2 }) :
    P (Operation.after (onStations op) sw) :=
  Ends.after (Ends.focus h)

/-- Nothing but the usage of the table has changed. -/
theorem reflects_of_slots (h : sw.Reflects T refused F) {s : Stations} {bus : δ}
    (hs : s.slots = sw.stations.slots) (hb : Reflected T refused F sw.records bus) :
    { sw with stations := s, bus := bus }.Reflects T refused F := by
  refine ⟨h.intact, hb.congr fun u ws _ => ?_⟩
  rcases u with ⟨t, k⟩ | b
  · cases t <;> simp only [records, hs]
  · exact Iff.rfl

theorem addStation_reflects (ht : Site.Tells refused) (h : sw.Reflects T refused F) (station : Station)
    (hF : ∀ slot, sw.stations.newSlot? sw.board station = some slot →
      (Site.entry .station slot).Aloof F) :
    (Operation.after (addStation station) sw).Reflects T refused F := by
  have hwrite {slot : Nat} (hnew : sw.stations.newSlot? sw.board station = some slot) :=
    have hm := Stations.mem_candidates_of_newSlot? hnew
    h.reflected.writeEntry ht .station (Stations.entry station).encode
      (Stations.lt_depth_of_mem_candidates hm) (Fields.length_encode _ _) (hF slot hnew)
  change (Operation.after (onStations (Stations.add sw.board station)) sw).Reflects T refused F
  refine onStations_after ((Stations.add_commands sw.board station).mono ?_ ?_)
  · rintro _ ⟨⟨slots, usage⟩, bus⟩ ⟨slot, hnew, hb, hslots⟩
    cases hslots
    exact ⟨h.intact, ((hwrite hnew).of_ok hb).1.congr fun u ws _ =>
      records_setStation slot station usage u ws⟩
  · rintro e ⟨s, bus⟩ ⟨hs, ⟨-, rfl⟩ | ⟨slot, hnew, hb⟩⟩
    · exact reflects_of_slots h hs h.reflected
    · exact reflects_of_slots h hs ((hwrite hnew).of_error hb).1

theorem removeStation_reflects (ht : Site.Tells refused) (h : sw.Reflects T refused F) (mac : MacAddr)
    (vlan : Nat)
    (hF : ∀ slot, sw.stations.find? mac vlan = some slot → (Site.entry .station slot).Aloof F) :
    (Operation.after (removeStation mac vlan) sw).Reflects T refused F := by
  refine onStations_after ((Stations.remove_commands mac vlan).mono ?_ ?_)
  · rintro _ ⟨⟨slots, usage⟩, bus⟩ ⟨slot, hfind, hslots, rfl⟩
    cases hslots
    have hm := Stations.mem_candidates_of_find? hfind
    exact ⟨h.intact, (h.reflected.wipeEntry ht .station (Stations.lt_depth_of_mem_candidates hm)
      (hF slot hfind)).congr fun u ws _ => records_dropStation slot usage u ws⟩
  · rintro e ⟨s, bus⟩ ⟨hs, rfl⟩
    exact reflects_of_slots h hs h.reflected

/-! ### Traps -/

omit [Bus δ] [MemoryBus δ] in
theorem onTraps_after {α : Type} {op : Operation (Traps × δ) α} {P : Switch δ → Prop}
    (h : Ends op (sw.traps, sw.bus) (fun _ t => P { sw with traps := t.1, bus := t.2 })
      fun _ t => P { sw with traps := t.1, bus := t.2 }) :
    P (Operation.after (onTraps op) sw) :=
  Ends.after (Ends.focus h)

theorem addTrap_reflects (ht : Site.Tells refused) (h : sw.Reflects T refused F) (trap : TrapEntry)
    (hF : ∀ slot, sw.traps.newSlot? trap = some slot → (Site.entry .trap slot).Aloof F) :
    (Operation.after (addTrap trap) sw).Reflects T refused F := by
  have hwrite {slot : Nat} (hnew : sw.traps.newSlot? trap = some slot) :=
    h.reflected.writeEntry ht .trap trap.encode (Traps.newSlot?_free hnew).1
      (Fields.length_encode _ _) (hF slot hnew)
  refine onTraps_after ((Traps.add_commands trap).mono ?_ ?_)
  · rintro slot ⟨⟨slots⟩, bus⟩ ⟨hnew, hb, hslots⟩
    cases hslots
    exact ⟨h.intact, ((hwrite hnew).of_ok hb).1.congr fun u ws _ =>
      records_setTrap slot trap u ws⟩
  · rintro e ⟨t, bus⟩ ⟨rfl, ⟨-, rfl⟩ | ⟨slot, hnew, hb⟩⟩
    · exact h
    · exact ⟨h.intact, ((hwrite hnew).of_error hb).1⟩

theorem removeTrap_reflects (ht : Site.Tells refused) (h : sw.Reflects T refused F) (slot : Nat)
    (hF : slot < Table.trap.depth → sw.traps.slots.contains slot = true →
      (Site.entry .trap slot).Aloof F) :
    (Operation.after (removeTrap slot) sw).Reflects T refused F := by
  refine onTraps_after ((Traps.remove_commands slot).mono ?_ ?_)
  · rintro _ ⟨⟨slots⟩, bus⟩ ⟨hn, hc, hslots, rfl⟩
    cases hslots
    exact ⟨h.intact, (h.reflected.wipeEntry ht .trap hn (hF hn hc)).congr fun u ws _ =>
      records_dropTrap slot u ws⟩
  · rintro e t rfl
    exact h

/-! ### VLANs -/

section vlans

omit [Bus δ] [MemoryBus δ] in
theorem onVlans_after {α : Type} {op : Operation (Vlans × δ) α} {P : Switch δ → Prop}
    (h : Ends op (sw.vlans, sw.bus) (fun _ t => P { sw with vlans := t.1, bus := t.2 })
      fun _ t => P { sw with vlans := t.1, bus := t.2 }) :
    P (Operation.after (onVlans op) sw) :=
  Ends.after (Ends.focus h)

/-- A change of a VLAN's ports, from those that are recorded. -/
theorem recordVlan_ends (ht : Site.Tells refused) (h : sw.Reflects T refused F) {vlan : Nat}
    (hv : VlanTag.IsVlan vlan)
    (hF : ∀ t, t = .vlan ∨ t = .egressVlan → (Site.entry t vlan).Aloof F)
    (v : VlanPorts) :
    Ends (Vlans.record vlan v (sw.vlans.members.get? vlan)) (sw.vlans, sw.bus)
      (fun _ t => { sw with vlans := t.1, bus := t.2 }.Reflects T refused F ∧
        t.1.members = sw.vlans.members.insert vlan v)
      (fun _ t => { sw with vlans := t.1, bus := t.2 }.Reflects T refused F) := by
  have hprogram := Vlans.program_reflected ht h.reflected hv v (hF .vlan (.inl rfl))
    (hF .egressVlan (.inr rfl)) fun ws => Iff.rfl
  refine Vlans.ends_record (hprogram.mono ?_ fun _ _ hb => ⟨h.intact, hb⟩)
  exact fun _ _ hb => ⟨⟨h.intact, hb.congr fun u ws _ => records_setVlan vlan v u ws⟩, rfl⟩

theorem ensureVlan_ends (ht : Site.Tells refused) (h : sw.Reflects T refused F) {vlan : Nat}
    (hv : VlanTag.IsVlan vlan)
    (hF : ∀ t, t = .vlan ∨ t = .egressVlan → (Site.entry t vlan).Aloof F) :
    Ends (Vlans.ensure vlan) (sw.vlans, sw.bus)
      (fun _ t => { sw with vlans := t.1, bus := t.2 }.Reflects T refused F ∧
        t.1.members.contains vlan = true)
      (fun _ t => { sw with vlans := t.1, bus := t.2 }.Reflects T refused F) := by
  refine Vlans.ends_ensure (fun hc => ⟨h, hc⟩) fun hnone => ?_
  have hrecord := recordVlan_ends ht h hv hF VlanPorts.none
  rw [hnone] at hrecord
  refine hrecord.mono ?_ fun _ _ he => he
  rintro _ t ⟨hr, hm⟩
  refine ⟨hr, ?_⟩
  rw [hm, KeyMap.contains, KeyMap.get?_insert_self]
  rfl

theorem createVlan_reflects (ht : Site.Tells refused) (h : sw.Reflects T refused F) (vlan : Nat)
    (hF : ∀ t, t = .vlan ∨ t = .egressVlan → VlanTag.IsVlan vlan → (Site.entry t vlan).Aloof F) :
    (Operation.after (createVlan vlan) sw).Reflects T refused F := by
  refine onVlans_after (Vlans.ends_create (fun _ _ => h) fun hv => ?_)
  exact (ensureVlan_ends ht h hv fun t ht => hF t ht hv).mono (fun _ _ hq => hq.1) fun _ _ he => he

theorem addVlanPort_reflects (ht : Site.Tells refused) (h : sw.Reflects T refused F) (vlan : Nat)
    (port : PortId) (untagged : Bool)
    (hF : ∀ t, t = .vlan ∨ t = .egressVlan → VlanTag.IsVlan vlan → (Site.entry t vlan).Aloof F) :
    (Operation.after (addVlanPort vlan port untagged) sw).Reflects T refused F := by
  change (Operation.after (onVlans (Vlans.addPort sw.board vlan port untagged)) sw).Reflects T refused F
  refine onVlans_after (Vlans.ends_addPort (fun _ => h) fun hv _ => ?_)
  refine (ensureVlan_ends ht h hv fun t ht => hF t ht hv).mono ?_ fun _ _ he => he
  rintro _ ⟨vlans, bus⟩ ⟨hr, hc⟩ prior rfl
  obtain ⟨prior, hprior⟩ := (KeyMap.contains_iff _ _).mp hc
  change vlans.members.get? vlan = some prior at hprior
  have hrecord := recordVlan_ends ht hr hv (fun t ht => hF t ht hv) (prior.insert port untagged)
  change Ends (Vlans.record vlan _ (vlans.members.get? vlan)) (vlans, bus) _ _ at hrecord
  rw [hprior] at hrecord ⊢
  exact hrecord.mono (fun _ _ hq => hq.1) fun _ _ he => he

theorem removeVlanPort_reflects (ht : Site.Tells refused) (h : sw.Reflects T refused F) (vlan : Nat)
    (port : PortId)
    (hF : ∀ t, t = .vlan ∨ t = .egressVlan → VlanTag.IsVlan vlan → (Site.entry t vlan).Aloof F) :
    (Operation.after (removeVlanPort vlan port) sw).Reflects T refused F := by
  refine onVlans_after (Vlans.ends_removePort (fun _ => h) fun prior hv hprior => ?_)
  have hrecord := recordVlan_ends ht h hv (fun t ht => hF t ht hv) (prior.erase port)
  rw [hprior] at hrecord
  exact hrecord.mono (fun _ _ hq => hq.1) fun _ _ he => he

theorem destroyVlan_reflects (ht : Site.Tells refused) (h : sw.Reflects T refused F) (vlan : Nat)
    (hF : ∀ t, t = .vlan ∨ t = .egressVlan → VlanTag.IsVlan vlan → (Site.entry t vlan).Aloof F) :
    (Operation.after (destroyVlan vlan) sw).Reflects T refused F := by
  refine onVlans_after (Vlans.ends_destroy (fun _ => h) fun hv => ⟨h.intact, ?_⟩)
  have hdepth := Vlans.lt_depth hv
  have hfirst := h.reflected.wipeEntry ht .vlan hdepth (hF .vlan (.inl rfl) hv)
  exact (hfirst.wipeEntry ht .egressVlan hdepth (hF .egressVlan (.inr rfl) hv)).congr
    fun u ws _ => records_dropVlan vlan u ws

end vlans

/-! ### Ports -/

omit [Bus δ] [MemoryBus δ] in
theorem onPorts_after {α : Type} {op : Operation (Ports × δ) α} {P : Switch δ → Prop}
    (h : Ends op (sw.ports, sw.bus) (fun _ t => P { sw with ports := t.1, bus := t.2 })
      fun _ t => P { sw with ports := t.1, bus := t.2 }) :
    P (Operation.after (onPorts op) sw) :=
  Ends.after (Ends.focus h)

theorem setPortEnabled_reflects (ht : Site.Tells refused) (h : sw.Reflects T refused F)
    (hF : ∀ block, (Site.enables block).OnChip → (Site.enables block).Aloof F)
    (port : PortId) (on : Bool) :
    (Operation.after (setPortEnabled port on) sw).Reflects T refused F := by
  change (Operation.after (onPorts (Ports.setEnabled sw.board port on)) sw).Reflects T refused F
  refine onPorts_after ?_
  by_cases hp : sw.board.Has port
  · have hblock : (Site.enables port.block).OnChip := port.block_lt
    have hwrite := h.reflected.write ht [UInt32.ofNat (Bits.putFlag
      (sw.ports.enables.read port.block) port.lane on)] hblock rfl (hF port.block hblock)
    refine Ports.ends_setEnabled hp (hwrite.mono ?_ ?_)
    · rintro _ bus' ⟨hset, -⟩
      exact ⟨h.intact, hset.congr fun u ws _ => records_setEnables port.block _ u ws⟩
    · rintro e bus' ⟨hkeep, -⟩
      exact ⟨h.intact, hkeep⟩
  · exact Operation.ends_error (Ports.setEnabled_beyond hp on _) h

end ControlPlane.Switch
