import ControlPlane.Proofs.Routing.Objects
import ControlPlane.Proofs.Subnet
import ControlPlane.Proofs.Switch.SharedSlots

/-! # What is recorded fits its fields

Fields are narrower than the values that they are for, and encoders cut what does not fit.  What a request
checks has to rule that out: the tag of an interface or a station, the number of a group's members, the
index of what an egress object or a route leads to.  `Switch.Checked` says that all of this was checked.

* **Entries.**  `Switch.holds` is what is recorded of an entry, value by value.  What is recorded, apart
  from traps, is read back from its words as it is (`Switch.Checked.keeps`).
* **Step.**  `SwitchRequest.serve_checked`: a request keeps `Switch.Checked`.
* **Run.**  `Switch.serveRequests_checked`: it holds after every run of requests, whatever the device
  answers. -/

namespace ControlPlane

open Operation (Ends)

/-! ### Entries that are read back -/

/-- Nothing of an entry is lost when it is encoded. -/
def Table.Keeps (t : Table) (e : t.Entry) : Prop := t.decodeEntry (t.encodeEntry e) = some (some e)

theorem Table.keeps_of_cut {t : Table} (ht : t ≠ group) {e : t.Entry} (h : t.cutEntry e = e) :
    t.Keeps e := by
  rw [Keeps, decode_encode_cut t ht, h]

namespace Bits

theorem put_lt {n m lo width : Nat} (v : Nat) (hn : n < 2 ^ m) (h : lo + width ≤ m) :
    put n lo width v < 2 ^ m := by
  refine Nat.lt_pow_two_of_testBit _ fun i hi => ?_
  rw [testBit_put, if_neg (by omega)]
  exact Nat.testBit_lt_two_pow (Nat.lt_of_lt_of_le hn (Nat.pow_le_pow_right (by decide) hi))

end Bits

namespace VlanPorts

/-- The bitmaps fit their fields. -/
structure Fits (v : VlanPorts) : Prop where
  ports : v.ports < 2 ^ portMapBits
  untagged : v.untagged < 2 ^ portMapBits

theorem fits_none : none.Fits := ⟨Nat.two_pow_pos _, Nat.two_pow_pos _⟩

variable {v : VlanPorts}

theorem num_lt (p : PortId) : p.num + 1 ≤ portMapBits := by
  have hp : p.num ≤ 52 := p.le_count
  change p.num + 1 ≤ 66
  omega

theorem Fits.insert (h : v.Fits) (p : PortId) (untagged : Bool) : (v.insert p untagged).Fits :=
  ⟨Bits.put_lt _ h.ports (num_lt p), Bits.put_lt _ h.untagged (num_lt p)⟩

theorem Fits.erase (h : v.Fits) (p : PortId) : (v.erase p).Fits :=
  ⟨Bits.put_lt _ h.ports (num_lt p), Bits.put_lt _ h.untagged (num_lt p)⟩

end VlanPorts

/-! ### What is recorded of an entry -/

namespace Switch

variable {δ : Type} {sw : Switch δ}

def holds (sw : Switch δ) : (t : Table) → Nat → t.Entry → Prop
  | .station, slot, e => (sw.stations.slots.get? slot).map Stations.entry = some e
  | .trap, slot, e => sw.traps.slots.get? slot = some e
  | .interface, id, e =>
    (sw.routing.view.interface? id).map (fun i => InterfaceEntry.mk i.mac i.vlan) = some e
  | .ingressHop, id, e => (sw.routing.view.egress? id).map Routing.ingressHop = some e
  | .egressHop, id, e => (sw.routing.view.egress? id).map Routing.egressHop = some e
  | .route, slot, e =>
    ∃ subnet route, sw.routing.view.route? subnet = some route ∧ route.slot = slot ∧
      RouteEntry.mk subnet route.target.isGroup route.target.index = e
  | .vlan, vlan, e => (sw.vlans.members.get? vlan).map VlanPorts.ingress = some e
  | .egressVlan, vlan, e => (sw.vlans.members.get? vlan).map VlanPorts.egress = some e
  | .member, n, e =>
    ∃ id g m, sw.routing.group? id = some g ∧ g.base ≤ n ∧ g.members[n - g.base]? = some m ∧
      MemberEntry.mk m = e
  | .group, id, e =>
    (sw.routing.group? id).map (fun g => GroupEntry.ofMembers g.base g.members) = some e

/-- The image of the memory has these entries, encoded. -/
theorem records_entry_iff {t : Table} {i : Nat} {ws : List UInt32} :
    sw.records (.entry t i) ws ↔ ∃ e, sw.holds t i e ∧ t.encodeEntry e = ws := by
  cases t with
  | route =>
      simp only [records, holds, Table.encodeEntry, Routing.routeWords]
      simp [and_assoc]
  | member => simp [records, holds, Table.encodeEntry, and_assoc]
  | _ => simp [records, holds, Table.encodeEntry, Option.map_eq_some_iff]

end Switch

/-! ### What was checked -/

/-- What operations check of routed forwarding. -/
structure Routing.Checked (r : Routing) : Prop where
  interface_isTag : ∀ id i, r.view.interface? id = some i → VlanTag.IsTag i.vlan
  route_canon : ∀ subnet route, r.view.route? subnet = some route → subnet.canon = subnet
  group_le : ∀ id g, r.group? id = some g → g.members.length ≤ groupMembersMax

/-- The bitmaps of all VLANs fit their fields. -/
def Vlans.Fit (s : Vlans) : Prop := ∀ vlan v, s.members.get? vlan = some v → v.Fits

structure Switch.Checked {δ : Type} (sw : Switch δ) : Prop where
  intact : sw.routing.Intact
  routing : sw.routing.Checked
  station_isTag : ∀ slot station, sw.stations.slots.get? slot = some station →
    VlanTag.IsTag station.vlan
  vlans : sw.vlans.Fit

theorem Switch.checked_fresh {δ : Type} (board : Board) (bus : δ) : (Switch.fresh board bus).Checked where
  intact := Routing.intact_fresh
  routing := by constructor <;> simp [Switch.fresh, Routing.fresh, Routing.view, Routing.group?]
  station_isTag := by simp [Switch.fresh, Stations.fresh]
  vlans := by simp [Switch.fresh, Vlans.fresh, Vlans.Fit]

/-! ### What was checked is kept -/

section keeps

variable {δ : Type} {sw : Switch δ}

/-- What leads to an egress object or a group has an index of fourteen bits. -/
theorem Routing.Intact.index_lt {r : Routing} (h : r.Intact) {subnet : Subnet} {route : Route}
    (hr : r.view.route? subnet = some route) : route.target.index < 2 ^ 14 := by
  have htarget := h.route_target subnet route hr
  cases hroute : route.target with
  | egress id =>
      rw [hroute] at htarget
      exact (h.egressIds.holds htarget).2
  | group id =>
      rw [hroute] at htarget
      exact Nat.lt_trans (h.groupIds.holds htarget).2 (by decide)

/-- All that is recorded is read back from its words as it is, but for traps. -/
theorem Switch.Checked.keeps (h : sw.Checked) {t : Table} (ht : t ≠ .trap) {i : Nat} {e : t.Entry}
    (he : sw.holds t i e) : t.Keeps e := by
  cases t with
  | trap => exact absurd rfl ht
  | station =>
      obtain ⟨station, hs, rfl⟩ := Option.map_eq_some_iff.mp he
      exact StationEntry.decode_encode (Stations.entry_fits (h.station_isTag i station hs))
  | interface =>
      obtain ⟨interface, hi, rfl⟩ := Option.map_eq_some_iff.mp he
      have htag : interface.vlan < 2 ^ InterfaceEntry.vlanField.width :=
        Nat.lt_succ_of_le (h.routing.interface_isTag i interface hi)
      refine Table.keeps_of_cut (by decide) ?_
      rw [Table.cutEntry, InterfaceEntry.cut, Field.cut_of_lt htag]
  | ingressHop =>
      obtain ⟨egress, -, rfl⟩ := Option.map_eq_some_iff.mp he
      have hport : egress.port.num < 2 ^ IngressHop.portField.width :=
        Nat.lt_of_le_of_lt egress.port.le_count (by decide)
      refine Table.keeps_of_cut (by decide) ?_
      rw [Table.cutEntry, IngressHop.cut, Routing.ingressHop, Field.cut_of_lt hport]
      rfl
  | egressHop =>
      obtain ⟨egress, hg, rfl⟩ := Option.map_eq_some_iff.mp he
      obtain ⟨c, hc, rfl⟩ := Option.map_eq_some_iff.mp hg
      have hinterface : c.value.interface < 2 ^ EgressHop.interfaceField.width :=
        (h.intact.interfaceIds.holds (h.intact.egress_interface i c hc)).2
      refine Table.keeps_of_cut (by decide) ?_
      rw [Table.cutEntry, EgressHop.cut, Routing.egressHop, Field.cut_of_lt hinterface]
      rfl
  | route =>
      obtain ⟨subnet, route, hr, -, rfl⟩ := he
      have hhop : route.target.index < 2 ^ RouteEntry.hopField.width := h.intact.index_lt hr
      refine Table.keeps_of_cut (by decide) ?_
      rw [Table.cutEntry, RouteEntry.cut, Field.cut_of_lt hhop, h.routing.route_canon subnet route hr]
  | vlan =>
      obtain ⟨v, hv, rfl⟩ := Option.map_eq_some_iff.mp he
      have hports := (h.vlans i v hv).ports
      refine Table.keeps_of_cut (by decide) ?_
      rw [Table.cutEntry, VlanEntry.cut, VlanPorts.ingress,
        Field.cut_of_lt (f := VlanEntry.portsField) hports,
        Field.cut_of_lt (f := VlanEntry.ingressPortsField) hports]
      rfl
  | egressVlan =>
      obtain ⟨v, hv, rfl⟩ := Option.map_eq_some_iff.mp he
      have hfits := h.vlans i v hv
      refine Table.keeps_of_cut (by decide) ?_
      rw [Table.cutEntry, EgressVlanEntry.cut, VlanPorts.egress,
        Field.cut_of_lt (f := EgressVlanEntry.portsField) hfits.ports,
        Field.cut_of_lt (f := EgressVlanEntry.untaggedField) hfits.untagged]
      rfl
  | member =>
      obtain ⟨id, g, m, hg, -, hm, rfl⟩ := he
      obtain ⟨c, hc, rfl⟩ := Option.map_eq_some_iff.mp hg
      have hmember := h.intact.group_member id c hc m (List.mem_of_getElem? hm)
      exact MemberEntry.decode_encode (h.intact.egressIds.holds hmember).2
  | group =>
      obtain ⟨g, hg, rfl⟩ := Option.map_eq_some_iff.mp he
      obtain ⟨c, hc, rfl⟩ := Option.map_eq_some_iff.mp hg
      have hpos := h.intact.members_pos i c hc
      have hspan := h.intact.span_le i c hc
      have hbase : c.value.base < 2 ^ GroupEntry.baseField.width :=
        Nat.lt_of_lt_of_le (Nat.lt_add_of_pos_right hpos) hspan
      have hcount : c.value.members.length < 2 ^ GroupEntry.countField.width :=
        Nat.lt_of_le_of_lt (h.routing.group_le i c.value hg) (by decide)
      exact GroupEntry.decode_encode (GroupEntry.fits_ofMembers hpos hcount hbase)

end keeps

/-! ### Requests keep what was checked -/

namespace Routing.Checked

variable {r r' : Routing}

theorem of_objects (h : r.Checked) (ho : r'.Objects r.view r.group?) : r'.Checked where
  interface_isTag := ho.view_eq ▸ h.interface_isTag
  route_canon := ho.view_eq ▸ h.route_canon
  group_le := ho.group?_eq ▸ h.group_le

theorem setInterface (h : r.Checked) {id : InterfaceId} {new : Option Interface}
    (ho : r'.Objects (r.view.setInterface id new) r.group?)
    (hnew : ∀ i, new = some i → VlanTag.IsTag i.vlan) : r'.Checked where
  interface_isTag := by
    intro k i hi
    rw [ho.view_eq, View.setInterface_interface?] at hi
    split at hi
    · exact hnew i hi
    · exact h.interface_isTag k i hi
  route_canon := by
    rw [ho.view_eq]
    exact h.route_canon
  group_le := ho.group?_eq ▸ h.group_le

theorem setEgress (h : r.Checked) {id : EgressId} {new : Option Egress}
    (ho : r'.Objects (r.view.setEgress id new) r.group?) : r'.Checked where
  interface_isTag := by
    rw [ho.view_eq]
    exact h.interface_isTag
  route_canon := by
    rw [ho.view_eq]
    exact h.route_canon
  group_le := ho.group?_eq ▸ h.group_le

theorem setRoute (h : r.Checked) {subnet : Subnet} {new : Option Route}
    (ho : r'.Objects (r.view.setRoute subnet.canon new) r.group?) : r'.Checked where
  interface_isTag := by
    rw [ho.view_eq]
    exact h.interface_isTag
  route_canon := by
    intro s route hr
    rw [ho.view_eq] at hr
    by_cases hs : s = subnet.canon
    · rw [hs, Subnet.canon_canon]
    · rw [View.setRoute_of_ne _ hs] at hr
      exact h.route_canon s route hr
  group_le := ho.group?_eq ▸ h.group_le

theorem setGroup (h : r.Checked) {id : GroupId} {new : Option Group}
    (ho : r'.Objects r.view (Function.update r.group? id new))
    (hnew : ∀ g, new = some g → g.members.length ≤ groupMembersMax) : r'.Checked where
  interface_isTag := ho.view_eq ▸ h.interface_isTag
  route_canon := ho.view_eq ▸ h.route_canon
  group_le := by
    intro k g hg
    rw [ho.group?_eq, Function.update_apply] at hg
    split at hg
    · exact hnew g hg
    · exact h.group_le k g hg

end Routing.Checked

namespace Switch.Checked

variable {δ : Type} {sw : Switch δ}

/-- What routes are recorded may change. -/
theorem withRouting (h : sw.Checked) {t : Routing × δ} (hi : t.1.Intact) (hr : t.1.Checked) :
    (sw.withRouting t).Checked := ⟨hi, hr, h.station_isTag, h.vlans⟩

/-- An operation on what is routed keeps what was checked if it does so there. -/
theorem onRouting {α : Type} {op : Operation (Routing × δ) α} (h : sw.Checked)
    (hop : Ends op (sw.routing, sw.bus) (fun _ t => t.1.Intact ∧ t.1.Checked)
      fun _ t => t.1.Intact ∧ t.1.Checked) : (Operation.after (Switch.onRouting op) sw).Checked :=
  onRouting_after (hop.mono (fun _ _ ht => h.withRouting ht.1 ht.2) fun _ _ ht =>
    h.withRouting ht.1 ht.2)

theorem onVlans {op : Operation (Vlans × δ) Unit} (h : sw.Checked)
    (hop : Ends op (sw.vlans, sw.bus) (fun _ t => t.1.Fit) fun _ t => t.1.Fit) :
    (Operation.after (Switch.onVlans op) sw).Checked :=
  Switch.onVlans_after (hop.mono (fun _ _ ht => ⟨h.intact, h.routing, h.station_isTag, ht⟩)
    fun _ _ ht => ⟨h.intact, h.routing, h.station_isTag, ht⟩)

end Switch.Checked

section serve

variable {δ : Type} [Bus δ] {sw : Switch δ} {bus : δ}

theorem Routing.isTag_of_newInterface? {r : Routing} {vlan : Nat} {id : InterfaceId}
    (h : r.newInterface? vlan = some id) : VlanTag.IsTag vlan := by
  rw [newInterface?] at h
  split at h
  · assumption
  · cases h

namespace Switch.Checked

theorem addRoute (h : sw.Checked) (subnet : Subnet) (target : RouteTarget) :
    (Operation.after (Switch.addRoute subnet target) sw).Checked :=
  h.onRouting ((Routing.addRoute_objects h.intact subnet target).mono
    (fun _ _ hq => ⟨hq.2.intact, h.routing.setRoute hq.2⟩)
    fun _ _ he => ⟨he.intact, h.routing.of_objects he⟩)

end Switch.Checked

theorem RoutingRequest.serve_checked (request : RoutingRequest) (h : sw.Checked) :
    (request.serve sw).Checked := by
  have hsame {t : Routing × δ} (ht : t = (sw.routing, sw.bus)) : t.1.Intact ∧ t.1.Checked := by
    rw [ht]
    exact ⟨h.intact, h.routing⟩
  cases request with
  | createInterface mac vlan =>
      refine h.onRouting (((Routing.createInterface_objects h.intact mac vlan).and
        (Routing.createInterface_commands mac vlan)).mono ?_
        fun _ _ he => ⟨he.1.intact, h.routing.of_objects he.1⟩)
      rintro id t ⟨ho, hnew, -⟩
      refine ⟨ho.intact, h.routing.setInterface ho fun i hi => ?_⟩
      cases hi
      exact Routing.isTag_of_newInterface? hnew
  | destroyInterface id =>
      exact h.onRouting ((Routing.destroyInterface_objects h.intact id).mono
        (fun _ _ hq => ⟨hq.2.intact, h.routing.setInterface hq.2 nofun⟩) fun _ _ he => hsame he)
  | createEgress egress =>
      exact h.onRouting ((Routing.createEgress_objects h.intact sw.board egress).mono
        (fun _ _ hq => ⟨hq.intact, h.routing.setEgress hq⟩)
        fun _ _ he => ⟨he.intact, h.routing.of_objects he⟩)
  | destroyEgress id =>
      exact h.onRouting ((Routing.destroyEgress_objects h.intact id).mono
        (fun _ _ hq => ⟨hq.2.intact, h.routing.setEgress hq.2⟩) fun _ _ he => hsame he)
  | addRoute subnet target => exact h.addRoute subnet target
  | addHost ip egress =>
      cases ip with
      | v4 addr => exact h.addRoute (.host addr) (.egress egress)
      | v6 addr => exact h
  | removeRoute subnet =>
      exact h.onRouting ((Routing.removeRoute_objects h.intact subnet).mono
        (fun _ _ hq => ⟨hq.intact, h.routing.setRoute hq⟩) fun _ _ he => hsame he)
  | createGroup members =>
      refine h.onRouting ((Routing.createGroup_objects h.intact members).mono ?_
        fun _ _ he => ⟨he.intact, h.routing.of_objects he⟩)
      rintro id t ⟨base, hnew, -, ho⟩
      refine ⟨ho.intact, h.routing.setGroup ho fun g hg => ?_⟩
      cases hg
      exact (Routing.length_of_newGroup? hnew).2
  | destroyGroup id =>
      exact h.onRouting ((Routing.destroyGroup_objects h.intact id).mono
        (fun _ _ hq => ⟨hq.intact, h.routing.setGroup hq nofun⟩) fun _ _ he => hsame he)

theorem BridgeRequest.serve_checked (request : BridgeRequest) (h : sw.Checked) :
    (request.serve sw).Checked := by
  cases request with
  | addStation station =>
      change (Operation.after (Switch.onStations (Stations.add sw.board station)) sw).Checked
      refine Switch.onStations_after ((Stations.add_commands sw.board station).mono ?_ ?_)
      · rintro _ t ⟨slot, hnew, -, hslots⟩
        refine ⟨h.intact, h.routing, fun k other hk => ?_, h.vlans⟩
        obtain ⟨-, rfl⟩ | hold := KeyMap.eq_or_get?_of_insert (hslots ▸ hk)
        · exact Stations.isTag_of_newSlot? hnew
        · exact h.station_isTag k other hold
      · rintro _ t ⟨hslots, -⟩
        exact ⟨h.intact, h.routing, fun k other hk => h.station_isTag k other (hslots ▸ hk), h.vlans⟩
  | removeStation mac vlan =>
      refine Switch.onStations_after ((Stations.remove_commands mac vlan).mono ?_ ?_)
      · rintro _ t ⟨slot, -, hslots, -⟩
        exact ⟨h.intact, h.routing, fun k other hk =>
          h.station_isTag k other (KeyMap.get?_of_get?_erase (hslots ▸ hk)), h.vlans⟩
      · rintro _ t ⟨hslots, -⟩
        exact ⟨h.intact, h.routing, fun k other hk => h.station_isTag k other (hslots ▸ hk), h.vlans⟩
  | addTrap trap =>
      have hother (t : Traps × δ) : { sw with traps := t.1, bus := t.2 }.Checked :=
        ⟨h.intact, h.routing, h.station_isTag, h.vlans⟩
      exact Switch.onTraps_after (Operation.ends_of_forall (fun _ => hother) fun _ => hother)
  | removeTrap slot =>
      have hother (t : Traps × δ) : { sw with traps := t.1, bus := t.2 }.Checked :=
        ⟨h.intact, h.routing, h.station_isTag, h.vlans⟩
      exact Switch.onTraps_after (Operation.ends_of_forall (fun _ => hother) fun _ => hother)

/-! ### VLANs -/

namespace Vlans.Fit

variable {s : Vlans} {vlan : Nat} {port : PortId}

theorem record (h : s.Fit) {v : VlanPorts} (hv : v.Fits) (prior : Option VlanPorts) :
    Ends (Vlans.record vlan v prior) (s, bus) (fun _ t => t.1.Fit) fun _ t => t.1.Fit := by
  refine ends_record (Operation.ends_of_forall (fun _ bus' => ?_) fun _ _ => h)
  exact KeyMap.forall_insert hv h

theorem ensure (h : s.Fit) :
    Ends (Vlans.ensure vlan) (s, bus) (fun _ t => t.1.Fit) fun _ t => t.1.Fit :=
  ends_ensure (fun _ => h) fun _ => h.record VlanPorts.fits_none none

theorem addPort (h : s.Fit) (board : Board) (untagged : Bool) :
    Ends (Vlans.addPort board vlan port untagged) (s, bus) (fun _ t => t.1.Fit)
      fun _ t => t.1.Fit := by
  refine ends_addPort (fun _ => h) fun _ _ => h.ensure.mono ?_ fun _ _ he => he
  rintro _ ⟨s', bus'⟩ hs prior rfl
  refine Vlans.Fit.record hs (VlanPorts.Fits.insert ?_ port untagged) _
  cases hprior : s'.members.get? vlan with
  | none => exact VlanPorts.fits_none
  | some prior => exact hs vlan prior hprior

theorem removePort (h : s.Fit) :
    Ends (Vlans.removePort vlan port) (s, bus) (fun _ t => t.1.Fit) fun _ t => t.1.Fit :=
  ends_removePort (fun _ => h) fun prior _ hprior => h.record ((h vlan prior hprior).erase port) _

theorem destroy (h : s.Fit) :
    Ends (Vlans.destroy vlan) (s, bus) (fun _ t => t.1.Fit) fun _ t => t.1.Fit :=
  ends_destroy (fun _ => h) fun _ k v hk => h k v (KeyMap.get?_of_get?_erase hk)

end Vlans.Fit

theorem SwitchRequest.serve_checked (request : SwitchRequest) (h : sw.Checked) :
    (request.serve sw).Checked := by
  cases request with
  | routing request => exact request.serve_checked h
  | bridge request => exact request.serve_checked h
  | createVlan vlan => exact h.onVlans (Vlans.ends_create (fun _ _ => h.vlans) fun _ => h.vlans.ensure)
  | addVlanPort vlan port untagged => exact h.onVlans (h.vlans.addPort sw.board untagged)
  | removeVlanPort vlan port => exact h.onVlans h.vlans.removePort
  | destroyVlan vlan => exact h.onVlans h.vlans.destroy
  | setPortEnabled port on =>
      have hother (t : Ports × δ) : { sw with ports := t.1, bus := t.2 }.Checked :=
        ⟨h.intact, h.routing, h.station_isTag, h.vlans⟩
      exact Switch.onPorts_after (Operation.ends_of_forall (fun _ => hother) fun _ => hother)

/-- The switch after a list of requests. -/
def Switch.serveRequests (sw : Switch δ) (requests : List SwitchRequest) : Switch δ :=
  requests.foldl (fun sw request => request.serve sw) sw

theorem Switch.serveRequests_checked (requests : List SwitchRequest) (h : sw.Checked) :
    (sw.serveRequests requests).Checked := by
  induction requests generalizing sw with
  | nil => exact h
  | cons request requests ih => exact ih (request.serve_checked h)

end serve

end ControlPlane
