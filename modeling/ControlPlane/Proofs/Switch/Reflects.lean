import ControlPlane.Proofs.Forwarding.Stations
import ControlPlane.Proofs.Routing.Requests
import ControlPlane.Proofs.Switch.Records

/-! # Operations on a switch whose memory shows its record

`Switch.Reflects` says that a switch's record is intact, and that the chip's memory shows it on a family
of sites.  Every operation keeps that, whatever faults the chip has, as long as what the operation
writes lies apart from the family: one theorem for each. -/

namespace ControlPlane.Switch

open Operation (Ends)

variable {δ : Type} [Bus δ] [MemoryBus δ] {T : Nat → Nat → Bool} {refused : δ → Prop}
  {F : Site → Prop} {sw : Switch δ}

/-- The record is intact, and the chip's memory shows it on a family of sites. -/
structure Reflects (T : Nat → Nat → Bool) (refused : δ → Prop) (F : Site → Prop)
    (sw : Switch δ) : Prop where
  intact : sw.routing.Intact
  reflected : Reflected T refused F sw.records sw.bus

/-! ### Routed forwarding -/

section routing

omit [Bus δ] [MemoryBus δ] in
theorem onRouting_after {α : Type} {op : Operation (Routing × δ) α} {P : Switch δ → Prop}
    (h : Ends op (sw.routing, sw.bus) (fun _ t => P (sw.withRouting t))
      fun _ t => P (sw.withRouting t)) : P (Operation.after (onRouting op) sw) :=
  Ends.after (Ends.focus h)

/-- The objects are as they were. -/
theorem reflects_of_objects {r : Routing} (hr : r.Objects sw.routing.view sw.routing.group?) {bus : δ}
    (hb : Reflected T refused F sw.records bus) : (sw.withRouting (r, bus)).Reflects T refused F :=
  ⟨hr.intact, hb.congr fun s ws _ => records_congr hr.view_eq hr.group?_eq s ws⟩

theorem createInterface_reflects (ht : Bus.Tells refused) (h : sw.Reflects T refused F)
    (hF : ∀ id, IndexRange.interfaces.Holds id → (Site.entry .interface id).Aloof F)
    (mac : MacAddr) (vlan : Nat) :
    (Operation.after (createInterface mac vlan) sw).Reflects T refused F := by
  have hwrite {id : InterfaceId} (hnew : sw.routing.newInterface? vlan = some id) :=
    h.reflected.writeEntry ht.sites .interface (InterfaceEntry.mk mac vlan).encode
      (h.intact.newInterface? hnew).1.2 (Fields.length_encode _ _)
      (hF id (h.intact.newInterface? hnew).1)
  refine onRouting_after (((Routing.createInterface_objects h.intact mac vlan).and
    (Routing.createInterface_commands mac vlan)).mono ?_ ?_)
  · rintro id ⟨r, bus⟩ ⟨hr, hnew, hb⟩
    exact ⟨hr.intact, ((hwrite hnew).of_ok hb).1.congr fun s ws _ =>
      records_addInterface id ⟨mac, vlan⟩ hr.view_eq hr.group?_eq s ws⟩
  · rintro e ⟨r, bus⟩ ⟨hr, ⟨-, rfl⟩ | ⟨id, hnew, hb⟩⟩
    · exact reflects_of_objects hr h.reflected
    · exact reflects_of_objects hr ((hwrite hnew).of_error hb).1

theorem destroyInterface_reflects (ht : Bus.Tells refused) (h : sw.Reflects T refused F)
    (hF : ∀ id, IndexRange.interfaces.Holds id → (Site.entry .interface id).Aloof F)
    (id : InterfaceId) : (Operation.after (destroyInterface id) sw).Reflects T refused F := by
  refine onRouting_after (((Routing.destroyInterface_objects h.intact id).and
    (Routing.destroyInterface_commands id)).mono ?_ ?_)
  · rintro _ ⟨r, bus⟩ ⟨⟨hc, hr⟩, rfl⟩
    have hn := h.intact.interfaceIds.holds hc
    exact ⟨hr.intact, (h.reflected.wipeEntry ht.sites .interface hn.2 (hF id hn)).congr fun s ws _ =>
      records_dropInterface id hr.view_eq hr.group?_eq s ws⟩
  · rintro e t ⟨rfl, -⟩
    exact h

theorem createEgress_reflects (ht : Bus.Tells refused) (h : sw.Reflects T refused F)
    (hin : ∀ id, IndexRange.egresses.Holds id → (Site.entry .ingressHop id).Aloof F)
    (hout : ∀ id, IndexRange.egresses.Holds id → (Site.entry .egressHop id).Aloof F) (e : Egress) :
    (Operation.after (createEgress e) sw).Reflects T refused F := by
  have hwrite {id : EgressId} (hnew : sw.routing.newEgress? sw.board e = some id) :
      Ends (Routing.writeHop id e) sw.bus
        (fun _ bus => Reflected T refused F ((sw.records.set (.entry .ingressHop id)
          (Routing.ingressHop e).encode).set (.entry .egressHop id)
            (Routing.egressHop e).encode) bus)
        fun _ bus => Reflected T refused F sw.records bus := by
    obtain ⟨hn, hc⟩ := h.intact.newEgress? hnew
    refine Routing.writeHop_reflected ht.sites h.reflected hn e (hin id hn) (hout id hn) fun ws hws => ?_
    rw [records, Routing.contains_egresses_eq_false_iff.mp hc] at hws
    cases hws
  change (Operation.after (onRouting (Routing.createEgress sw.board e)) sw).Reflects T refused F
  refine onRouting_after (((Routing.createEgress_objects h.intact sw.board e).and
    (Routing.createEgress_commands sw.board e)).mono ?_ ?_)
  · rintro id ⟨r, bus⟩ ⟨hr, hnew, hb⟩
    exact ⟨hr.intact, ((hwrite hnew).of_ok hb).congr fun s ws _ =>
      records_addEgress id e hr.view_eq hr.group?_eq s ws⟩
  · rintro why ⟨r, bus⟩ ⟨hr, ⟨-, rfl⟩ | ⟨id, hnew, hb⟩⟩
    · exact reflects_of_objects hr h.reflected
    · exact reflects_of_objects hr ((hwrite hnew).of_error hb)

theorem destroyEgress_reflects (ht : Bus.Tells refused) (h : sw.Reflects T refused F)
    (hin : ∀ id, IndexRange.egresses.Holds id → (Site.entry .ingressHop id).Aloof F)
    (hout : ∀ id, IndexRange.egresses.Holds id → (Site.entry .egressHop id).Aloof F)
    (id : EgressId) : (Operation.after (destroyEgress id) sw).Reflects T refused F := by
  refine onRouting_after (((Routing.destroyEgress_objects h.intact id).and
    (Routing.destroyEgress_commands id)).mono ?_ ?_)
  · rintro _ ⟨r, bus⟩ ⟨⟨hc, hr⟩, rfl⟩
    have hn := h.intact.egressIds.holds hc
    have hfirst := h.reflected.wipeEntry ht.sites .ingressHop hn.2 (hin id hn)
    exact ⟨hr.intact, (hfirst.wipeEntry ht.sites .egressHop hn.2 (hout id hn)).congr fun s ws _ =>
      records_dropEgress id hr.view_eq hr.group?_eq s ws⟩
  · rintro e t ⟨rfl, -⟩
    exact h

theorem addRoute_reflects (ht : Bus.Tells refused) (h : sw.Reflects T refused F)
    (hF : ∀ slot, IndexRange.routes.Holds slot → (Site.entry .route slot).Aloof F)
    (subnet : Subnet) (target : RouteTarget) :
    (Operation.after (addRoute subnet target) sw).Reflects T refused F := by
  have hwrite {slot : RouteSlot} (hnew : sw.routing.newSlot? subnet target = some slot) :=
    h.reflected.writeEntry ht.sites .route (Routing.routeWords subnet.canon target)
      (h.intact.newSlot? hnew).2 (Fields.length_encode _ _) (hF slot (h.intact.newSlot? hnew))
  refine onRouting_after (((Routing.addRoute_objects h.intact subnet target).and
    (Routing.addRoute_commands subnet target)).mono ?_ ?_)
  · rintro slot ⟨r, bus⟩ ⟨⟨hold, hr⟩, hnew, hb⟩
    exact ⟨hr.intact, ((hwrite hnew).of_ok hb).1.congr fun s ws _ =>
      records_setRoute subnet.canon ⟨slot, target⟩ hr.view_eq hr.group?_eq hold
        (fun _ _ hs hslot => hr.slot_free hs hslot) s ws⟩
  · rintro e ⟨r, bus⟩ ⟨hr, ⟨-, rfl⟩ | ⟨slot, hnew, hb⟩⟩
    · exact reflects_of_objects hr h.reflected
    · exact reflects_of_objects hr ((hwrite hnew).of_error hb).1

theorem removeRoute_reflects (ht : Bus.Tells refused) (h : sw.Reflects T refused F)
    (hF : ∀ slot, IndexRange.routes.Holds slot → (Site.entry .route slot).Aloof F)
    (subnet : Subnet) : (Operation.after (removeRoute subnet) sw).Reflects T refused F := by
  refine onRouting_after (((Routing.removeRoute_objects h.intact subnet).and
    (Routing.removeRoute_commands subnet)).mono ?_ ?_)
  · rintro _ ⟨r, bus⟩ ⟨hr, old, hold, rfl⟩
    have hn := h.intact.routeSlots.holds ⟨subnet.canon, old, hold, rfl⟩
    refine ⟨hr.intact, (h.reflected.wipeEntry ht.sites .route hn.2 (hF old.slot hn)).congr fun s ws _ =>
      records_dropRoute subnet.canon old.slot hr.view_eq hr.group?_eq ?_ ?_ s ws⟩
    · intro old' hs
      cases hold.symm.trans hs
      rfl
    · exact fun s route hs hslot => h.intact.slot_unique s subnet.canon route old hs hold hslot
  · rintro e t ⟨rfl, -⟩
    exact h

omit [Bus δ] [MemoryBus δ] in
/-- Nothing is said of what a new group takes. -/
theorem records_freeFor (h : sw.routing.Intact) {members : List EgressId} {id : GroupId} {base : Nat}
    (hnew : sw.routing.newGroup? members = some (id, base)) :
    sw.records.FreeFor id base members.length := by
  obtain ⟨-, hid, -, hplaces⟩ := h.newGroup? hnew
  refine ⟨fun ws hws => ?_, fun n h1 h2 ws hws => ?_⟩
  · rw [records, Routing.group?, (KeyMap.contains_eq_false_iff _ _).mp hid] at hws
    cases hws
  · obtain ⟨id', g, m, hg, hb, hm, -⟩ := hws
    obtain ⟨c, hc, rfl⟩ := Option.map_eq_some_iff.mp hg
    exact hplaces n h1 h2 ⟨id', c, hc, occupies_of_member hb hm⟩

/-- A group's descriptor and places lie apart from a family of sites. -/
def GroupAloof (F : Site → Prop) (id : GroupId) (g : Group) : Prop :=
  (Site.entry .group id).Aloof F ∧ ∀ n, g.Occupies n → (Site.entry .member n).Aloof F

/-- What a new group writes is shown, or what was shown before. -/
theorem writeGroup_shows (ht : Bus.Tells refused) (h : sw.Reflects T refused F)
    {members : List EgressId} {id : GroupId} {base : Nat}
    (hnew : sw.routing.newGroup? members = some (id, base)) (ha : GroupAloof F id ⟨members, base⟩) :
    Ends (Routing.writeGroup id ⟨members, base⟩) sw.bus
      (fun _ bus => Reflected T refused F ((sw.records.setMembers base members).set (.entry .group id)
        (GroupEntry.ofMembers base members).encode) bus)
      fun _ bus => Reflected T refused F sw.records bus := by
  obtain ⟨hn, -, hle, -⟩ := h.intact.newGroup? hnew
  exact Routing.writeGroup_reflected ht.sites h.reflected hn hle ha.1 ha.2
    (records_freeFor h.intact hnew)

theorem createGroup_reflects (ht : Bus.Tells refused) (h : sw.Reflects T refused F)
    (members : List EgressId)
    (hF : ∀ id base, sw.routing.newGroup? members = some (id, base) →
      GroupAloof F id ⟨members, base⟩) :
    (Operation.after (createGroup members) sw).Reflects T refused F := by
  have hwrite {id : GroupId} {base : Nat} (hnew : sw.routing.newGroup? members = some (id, base)) :=
    writeGroup_shows ht h hnew (hF id base hnew)
  refine onRouting_after (((Routing.createGroup_objects h.intact members).and
    (Routing.createGroup_commands members)).mono ?_ ?_)
  · rintro id ⟨r, bus⟩ ⟨⟨base, hnew, hb, hr⟩, -⟩
    obtain ⟨hid, hfree⟩ := h.intact.newGroup?_free hnew
    exact ⟨hr.intact, ((hwrite hnew).of_ok hb).congr fun s ws _ =>
      records_addGroup id ⟨members, base⟩ hr.view_eq hr.group?_eq hid hfree s ws⟩
  · rintro e ⟨r, bus⟩ ⟨hr, ⟨-, rfl⟩ | ⟨id, base, bus', hnew, hb, rfl⟩⟩
    · exact reflects_of_objects hr h.reflected
    · obtain ⟨hn, -, hle, -⟩ := h.intact.newGroup? hnew
      obtain ⟨hgroup, hmember⟩ := hF id base hnew
      have hclear := Routing.clearGroup_reflected ht.sites ((hwrite hnew).of_error hb) hn hle hgroup
        fun n h1 h2 => hmember n ⟨h1, h2⟩
      refine reflects_of_objects hr (hclear.congr fun s ws _ => ?_)
      rw [Image.dropMembers_iff]
      obtain ⟨hfree, hfrees⟩ := records_freeFor h.intact hnew
      constructor
      · intro hws
        refine ⟨⟨?_, hws⟩, ?_⟩
        · rintro rfl
          exact hfree ws hws
        · rintro n h1 h2 rfl
          exact hfrees n h1 h2 ws hws
      · rintro ⟨⟨-, hws⟩, -⟩
        exact hws

theorem destroyGroup_reflects (ht : Bus.Tells refused) (h : sw.Reflects T refused F) (id : GroupId)
    (hF : ∀ g, sw.routing.group? id = some g → GroupAloof F id g) :
    (Operation.after (destroyGroup id) sw).Reflects T refused F := by
  refine onRouting_after (((Routing.destroyGroup_objects h.intact id).and
    (Routing.destroyGroup_commands id)).mono ?_ ?_)
  · rintro _ ⟨r, bus⟩ ⟨hr, c, hc, rfl⟩
    have hn := h.intact.groupIds.holds (KeyMap.contains_of_get? hc)
    have hle := h.intact.span_le id c hc
    have hg : sw.routing.group? id = some c.value := by rw [Routing.group?, hc]; rfl
    obtain ⟨hgroup, hmember⟩ := hF c.value hg
    have hclear := Routing.clearGroup_reflected ht.sites h.reflected hn hle hgroup
      fun n h1 h2 => hmember n ⟨h1, h2⟩
    refine ⟨hr.intact, hclear.congr fun s ws _ =>
      records_dropGroup id c.value hr.view_eq hr.group?_eq hg ?_ s ws⟩
    intro id' g n hg hocc hocc'
    obtain ⟨c', hc', rfl⟩ := Option.map_eq_some_iff.mp hg
    exact h.intact.place_unique id' id c' c n hc' hc hocc hocc'
  · rintro e t ⟨rfl, -⟩
    exact h

end routing

end ControlPlane.Switch
