import ControlPlane.Proofs.Forwarding.Vlans
import ControlPlane.Proofs.Routing.Entries
import ControlPlane.Proofs.Routing.Objects
import ControlPlane.Switch

/-! # What a switch's record says of the chip's memory

`Switch.records` is the image that the record of a switch gives of the chip's memory: an entry for
everything that is there, and the word of every block's enabled lanes.

Each change of the record changes this image at the entries of what comes or goes, and nowhere else. -/

namespace ControlPlane

namespace Switch

variable {δ : Type}

def records (sw : Switch δ) : Image
  | .entry .station slot, ws =>
    (sw.stations.slots.get? slot).map (fun station => (Stations.entry station).encode) = some ws
  | .entry .trap slot, ws => (sw.traps.slots.get? slot).map TrapEntry.encode = some ws
  | .entry .interface id, ws =>
    (sw.routing.view.interface? id).map (fun i => (InterfaceEntry.mk i.mac i.vlan).encode) = some ws
  | .entry .ingressHop id, ws =>
    (sw.routing.view.egress? id).map (fun e => (Routing.ingressHop e).encode) = some ws
  | .entry .egressHop id, ws =>
    (sw.routing.view.egress? id).map (fun e => (Routing.egressHop e).encode) = some ws
  | .entry .route slot, ws =>
    ∃ subnet route, sw.routing.view.route? subnet = some route ∧ route.slot = slot ∧
      Routing.routeWords subnet route.target = ws
  | .entry .vlan vlan, ws => (sw.vlans.members.get? vlan).map (·.ingress.encode) = some ws
  | .entry .egressVlan vlan, ws => (sw.vlans.members.get? vlan).map (·.egress.encode) = some ws
  | .entry .member n, ws =>
    ∃ id g m, sw.routing.group? id = some g ∧ g.base ≤ n ∧ g.members[n - g.base]? = some m ∧
      (MemberEntry.mk m).encode = ws
  | .entry .group id, ws =>
    (sw.routing.group? id).map (fun g => (GroupEntry.ofMembers g.base g.members).encode) = some ws
  | .enables block, ws => [UInt32.ofNat (sw.ports.enables.read block)] = ws

/-- The switch with what is routed and the transport as an operation left them. -/
def withRouting (sw : Switch δ) (t : Routing × δ) : Switch δ :=
  { sw with routing := t.1, bus := t.2 }

variable {sw : Switch δ} {r : Routing} {bus : δ}

/-! ### Routed forwarding -/

theorem records_congr (hv : r.view = sw.routing.view) (hg : r.group? = sw.routing.group?) (s : Site)
    (ws : List UInt32) : (sw.withRouting (r, bus)).records s ws ↔ sw.records s ws := by
  cases s with
  | enables b => exact Iff.rfl
  | entry t i => cases t <;> simp only [records, withRouting, hv, hg]

theorem records_addInterface (id : InterfaceId) (i : Interface)
    (hv : r.view = sw.routing.view.setInterface id (some i))
    (hg : r.group? = sw.routing.group?) (s : Site) (ws : List UInt32) :
    (sw.withRouting (r, bus)).records s ws ↔
      sw.records.set (.entry .interface id) (InterfaceEntry.mk i.mac i.vlan).encode s ws := by
  refine Image.iff_set (fun ws => ?_) fun hne => ?_
  · simp [records, withRouting, hv, Routing.View.setInterface, eq_comm]
  · rcases s with ⟨t, k⟩ | b
    · cases t <;> simp_all [records, withRouting, Routing.View.setInterface]
    · rfl

theorem records_dropInterface (id : InterfaceId)
    (hv : r.view = sw.routing.view.setInterface id none)
    (hg : r.group? = sw.routing.group?) (s : Site) (ws : List UInt32) :
    (sw.withRouting (r, bus)).records s ws ↔
      sw.records.drop (.entry .interface id) s ws := by
  refine Image.iff_drop (fun ws => ?_) fun hne => ?_
  · simp [records, withRouting, hv, Routing.View.setInterface]
  · rcases s with ⟨t, k⟩ | b
    · cases t <;> simp_all [records, withRouting, Routing.View.setInterface]
    · rfl

theorem records_addEgress (id : EgressId) (e : Egress)
    (hv : r.view = sw.routing.view.setEgress id (some e)) (hg : r.group? = sw.routing.group?)
    (s : Site) (ws : List UInt32) :
    (sw.withRouting (r, bus)).records s ws ↔
      (sw.records.set (.entry .ingressHop id) (Routing.ingressHop e).encode).set
        (.entry .egressHop id) (Routing.egressHop e).encode s ws := by
  refine Image.iff_set (fun ws => ?_) fun hne => Image.iff_set (fun ws => ?_) fun hne' => ?_
  · simp [records, withRouting, hv, Routing.View.setEgress, eq_comm]
  · simp [records, withRouting, hv, Routing.View.setEgress, eq_comm]
  · rcases s with ⟨t, k⟩ | b
    · cases t <;> simp_all [records, withRouting, Routing.View.setEgress]
    · rfl

theorem records_dropEgress (id : EgressId)
    (hv : r.view = sw.routing.view.setEgress id none) (hg : r.group? = sw.routing.group?)
    (s : Site) (ws : List UInt32) :
    (sw.withRouting (r, bus)).records s ws ↔
      (sw.records.drop (.entry .ingressHop id)).drop (.entry .egressHop id) s ws := by
  refine Image.iff_drop (fun ws => ?_) fun hne => Image.iff_drop (fun ws => ?_) fun hne' => ?_
  · simp [records, withRouting, hv, Routing.View.setEgress]
  · simp [records, withRouting, hv, Routing.View.setEgress]
  · rcases s with ⟨t, k⟩ | b
    · cases t <;> simp_all [records, withRouting, Routing.View.setEgress]
    · rfl

/-- No other route has the slot of a subnet's route. -/
def SlotFree (v : Routing.View) (subnet : Subnet) (slot : RouteSlot) : Prop :=
  ∀ s route, v.route? s = some route → route.slot = slot → s = subnet

/-- A subnet's route, whatever it was before or after, is in the image at its slot alone. -/
theorem records_of_ne_route {subnet : Subnet} {new : Option Route} {slot : RouteSlot}
    (hv : r.view = sw.routing.view.setRoute subnet new) (hg : r.group? = sw.routing.group?)
    (hold : ∀ old, sw.routing.view.route? subnet = some old → old.slot = slot)
    (hnew : ∀ route, new = some route → route.slot = slot) {s : Site}
    (hne : s ≠ .entry .route slot) (ws : List UInt32) :
    (sw.withRouting (r, bus)).records s ws ↔ sw.records s ws := by
  rcases s with ⟨t, i⟩ | b
  · cases t
    case route =>
      have hi : i ≠ slot := fun h => hne (h ▸ rfl)
      have hroute (k : Subnet) : r.view.route? k =
          if k = subnet then new else sw.routing.view.route? k := by
        rw [hv]
        exact Function.update_apply _ _ _ _
      constructor
      · rintro ⟨k, route, hk, rfl, rfl⟩
        rw [withRouting, hroute] at hk
        split at hk
        · exact absurd (hnew route hk) hi
        · exact ⟨k, route, hk, rfl, rfl⟩
      · rintro ⟨k, route, hk, rfl, rfl⟩
        refine ⟨k, route, ?_, rfl, rfl⟩
        rw [withRouting, hroute, if_neg]
        · exact hk
        · rintro rfl
          exact hi (hold route hk)
    all_goals simp_all [records, withRouting, Routing.View.setRoute]
  · rfl

theorem records_setRoute (subnet : Subnet) (route : Route)
    (hv : r.view = sw.routing.view.setRoute subnet (some route)) (hg : r.group? = sw.routing.group?)
    (hold : ∀ old, sw.routing.view.route? subnet = some old → old.slot = route.slot)
    (hfree : SlotFree sw.routing.view subnet route.slot) (s : Site) (ws : List UInt32) :
    (sw.withRouting (r, bus)).records s ws ↔
      sw.records.set (.entry .route route.slot) (Routing.routeWords subnet route.target) s ws := by
  refine Image.iff_set (fun ws => ?_) fun hne =>
    records_of_ne_route hv hg hold (fun _ he => by cases he; rfl) hne ws
  constructor
  · rintro ⟨k, route', hk, hslot, rfl⟩
    change r.view.route? k = _ at hk
    rw [hv] at hk
    by_cases he : k = subnet
    · subst k
      cases (Routing.View.setRoute_self _).symm.trans hk
      rfl
    · rw [Routing.View.setRoute_of_ne _ he] at hk
      exact absurd (hfree k route' hk hslot) he
  · rintro rfl
    refine ⟨subnet, route, ?_, rfl, rfl⟩
    change r.view.route? subnet = _
    rw [hv, Routing.View.setRoute_self]

theorem records_dropRoute (subnet : Subnet) (slot : RouteSlot)
    (hv : r.view = sw.routing.view.setRoute subnet none) (hg : r.group? = sw.routing.group?)
    (hold : ∀ old, sw.routing.view.route? subnet = some old → old.slot = slot)
    (hfree : SlotFree sw.routing.view subnet slot) (s : Site) (ws : List UInt32) :
    (sw.withRouting (r, bus)).records s ws ↔
      sw.records.drop (.entry .route slot) s ws := by
  refine Image.iff_drop (fun ws => ?_) fun hne =>
    records_of_ne_route hv hg hold nofun hne ws
  rintro ⟨k, route, hk, hslot, -⟩
  change r.view.route? k = _ at hk
  rw [hv] at hk
  by_cases he : k = subnet
  · subst k
    cases (Routing.View.setRoute_self _).symm.trans hk
  · rw [Routing.View.setRoute_of_ne _ he] at hk
    exact absurd (hfree k route hk hslot) he

/-! ### Groups -/

theorem occupies_of_member {g : Group} {n m : Nat} (h1 : g.base ≤ n)
    (h2 : g.members[n - g.base]? = some m) : g.Occupies n := by
  obtain ⟨hlt, -⟩ := List.getElem?_eq_some_iff.mp h2
  exact ⟨h1, by omega⟩

/-- A group, whatever it was before or after, is in the image at its descriptor and places alone. -/
theorem records_of_ne_group {id : GroupId} {new : Option Group} (hv : r.view = sw.routing.view)
    (hg : r.group? = Function.update sw.routing.group? id new) {s : Site}
    (hne : s ≠ .entry .group id)
    (hold : ∀ g, sw.routing.group? id = some g → ∀ n, g.Occupies n → s ≠ .entry .member n)
    (hnew : ∀ g, new = some g → ∀ n, g.Occupies n → s ≠ .entry .member n) (ws : List UInt32) :
    (sw.withRouting (r, bus)).records s ws ↔ sw.records s ws := by
  rcases s with ⟨t, n⟩ | b
  · cases t
    case member =>
      have hgroup (k : GroupId) : r.group? k = if k = id then new else sw.routing.group? k := by
        rw [hg]
        exact Function.update_apply _ _ _ _
      constructor
      · rintro ⟨id', g, m, hk, h1, h2, rfl⟩
        rw [withRouting, hgroup] at hk
        split at hk
        · exact absurd rfl (hnew g hk n (occupies_of_member h1 h2))
        · exact ⟨id', g, m, hk, h1, h2, rfl⟩
      · rintro ⟨id', g, m, hk, h1, h2, rfl⟩
        refine ⟨id', g, m, ?_, h1, h2, rfl⟩
        rw [withRouting, hgroup, if_neg]
        · exact hk
        · rintro rfl
          exact hold g hk n (occupies_of_member h1 h2) rfl
    all_goals simp_all [records, withRouting]
  · rfl

theorem records_addGroup (id : GroupId) (g : Group) (hv : r.view = sw.routing.view)
    (hg : r.group? = Function.update sw.routing.group? id (some g))
    (hid : sw.routing.group? id = none)
    (hfree : ∀ id' g' n, sw.routing.group? id' = some g' → g'.Occupies n → ¬ g.Occupies n)
    (s : Site) (ws : List UInt32) :
    (sw.withRouting (r, bus)).records s ws ↔
      (sw.records.setMembers g.base g.members).set (.entry .group id)
        (GroupEntry.ofMembers g.base g.members).encode s ws := by
  refine Image.iff_set (fun ws => ?_) fun hne =>
    Image.iff_setMembers (fun k hk ws => ?_) fun hspan => ?_
  · simp [records, withRouting, hg, eq_comm]
  · constructor
    · rintro ⟨id', g', m, hg', h1, h2, rfl⟩
      change r.group? id' = _ at hg'
      rw [hg] at hg'
      by_cases he : id' = id
      · subst id'
        cases (Function.update_self _ _ _).symm.trans hg'
        rw [Nat.add_sub_cancel_left, List.getElem?_eq_getElem hk] at h2
        cases h2
        rfl
      · rw [Function.update_of_ne he] at hg'
        exact absurd ⟨Nat.le_add_right _ _, Nat.add_lt_add_left hk _⟩
          (hfree id' g' _ hg' (occupies_of_member h1 h2))
    · rintro rfl
      refine ⟨id, g, g.members[k], ?_, Nat.le_add_right _ _, ?_, rfl⟩
      · change r.group? id = _
        rw [hg, Function.update_self]
      · rw [Nat.add_sub_cancel_left, List.getElem?_eq_getElem hk]
  · refine records_of_ne_group hv hg hne (fun g' hg' => ?_) (fun g' hg' n hn => ?_) ws
    · cases hid.symm.trans hg'
    · cases hg'
      exact hspan n hn.1 hn.2

theorem records_dropGroup (id : GroupId) (g : Group) (hv : r.view = sw.routing.view)
    (hg : r.group? = Function.update sw.routing.group? id none)
    (hid : sw.routing.group? id = some g)
    (hfree : ∀ id' g' n, sw.routing.group? id' = some g' → g'.Occupies n → g.Occupies n → id' = id)
    (s : Site) (ws : List UInt32) :
    (sw.withRouting (r, bus)).records s ws ↔
      (sw.records.drop (.entry .group id)).dropMembers g.base g.members.length s ws := by
  rw [Image.dropMembers_iff]
  by_cases hspan : ∃ n, g.Occupies n ∧ s = .entry .member n
  · obtain ⟨n, hn, rfl⟩ := hspan
    refine iff_of_false ?_ fun h => h.2 n hn.1 hn.2 rfl
    rintro ⟨id', g', m, hg', h1, h2, -⟩
    change r.group? id' = _ at hg'
    rw [hg] at hg'
    by_cases he : id' = id
    · subst id'
      cases (Function.update_self _ _ _).symm.trans hg'
    · rw [Function.update_of_ne he] at hg'
      exact he (hfree id' g' n hg' (occupies_of_member h1 h2) hn)
  · have hout (n : Nat) (hn : g.Occupies n) : s ≠ .entry .member n := fun he => hspan ⟨n, hn, he⟩
    rw [and_iff_left fun n h1 h2 => hout n ⟨h1, h2⟩]
    refine Image.iff_drop (fun ws => ?_) fun hne => records_of_ne_group hv hg hne ?_ nofun ws
    · simp [records, withRouting, hg]
    · intro g' hg'
      cases hid.symm.trans hg'
      exact hout

/-! ### VLANs, stations, traps and ports -/

theorem records_setVlan (vlan : Nat) (v : VlanPorts) (s : Site) (ws : List UInt32) :
    { sw with vlans := ⟨sw.vlans.members.insert vlan v⟩, bus := bus }.records s ws ↔
      (sw.records.set (.entry .vlan vlan) v.ingress.encode).set (.entry .egressVlan vlan)
        v.egress.encode s ws := by
  refine Image.iff_set (fun ws => ?_) fun hne => Image.iff_set (fun ws => ?_) fun hne' => ?_
  · simp [records, eq_comm]
  · simp [records, eq_comm]
  · rcases s with ⟨t, k⟩ | b
    · cases t <;> simp_all [records, KeyMap.get?_insert, eq_comm]
    · rfl

theorem records_dropVlan (vlan : Nat) (s : Site) (ws : List UInt32) :
    { sw with vlans := ⟨sw.vlans.members.erase vlan⟩, bus := bus }.records s ws ↔
      (sw.records.drop (.entry .vlan vlan)).drop (.entry .egressVlan vlan) s ws := by
  refine Image.iff_drop (fun ws => ?_) fun hne => Image.iff_drop (fun ws => ?_) fun hne' => ?_
  · simp [records]
  · simp [records]
  · rcases s with ⟨t, k⟩ | b
    · cases t <;> simp_all [records, KeyMap.get?_erase, eq_comm]
    · rfl

theorem records_setStation (slot : Nat) (station : Station) (usage : Usage) (s : Site)
    (ws : List UInt32) :
    { sw with stations := ⟨sw.stations.slots.insert slot station, usage⟩, bus := bus }.records s ws ↔
      sw.records.set (.entry .station slot) (Stations.entry station).encode s ws := by
  refine Image.iff_set (fun ws => ?_) fun hne => ?_
  · simp [records, eq_comm]
  · rcases s with ⟨t, k⟩ | b
    · cases t <;> simp_all [records, KeyMap.get?_insert, eq_comm]
    · rfl

theorem records_dropStation (slot : Nat) (usage : Usage) (s : Site) (ws : List UInt32) :
    { sw with stations := ⟨sw.stations.slots.erase slot, usage⟩, bus := bus }.records s ws ↔
      sw.records.drop (.entry .station slot) s ws := by
  refine Image.iff_drop (fun ws => ?_) fun hne => ?_
  · simp [records]
  · rcases s with ⟨t, k⟩ | b
    · cases t <;> simp_all [records, KeyMap.get?_erase, eq_comm]
    · rfl

theorem records_setTrap (slot : Nat) (trap : TrapEntry) (s : Site) (ws : List UInt32) :
    { sw with traps := ⟨sw.traps.slots.insert slot trap⟩, bus := bus }.records s ws ↔
      sw.records.set (.entry .trap slot) trap.encode s ws := by
  refine Image.iff_set (fun ws => ?_) fun hne => ?_
  · simp [records, eq_comm]
  · rcases s with ⟨t, k⟩ | b
    · cases t <;> simp_all [records, KeyMap.get?_insert, eq_comm]
    · rfl

theorem records_dropTrap (slot : Nat) (s : Site) (ws : List UInt32) :
    { sw with traps := ⟨sw.traps.slots.erase slot⟩, bus := bus }.records s ws ↔
      sw.records.drop (.entry .trap slot) s ws := by
  refine Image.iff_drop (fun ws => ?_) fun hne => ?_
  · simp [records]
  · rcases s with ⟨t, k⟩ | b
    · cases t <;> simp_all [records, KeyMap.get?_erase, eq_comm]
    · rfl

theorem records_setEnables (block word : Nat) (s : Site) (ws : List UInt32) :
    { sw with
      ports := { sw.ports with enables := sw.ports.enables.write block word }
      bus := bus }.records s ws ↔
      sw.records.set (.enables block) [UInt32.ofNat word] s ws := by
  refine Image.iff_set (fun ws => ?_) fun hne => ?_
  · simp [records, Memory.read_write, eq_comm]
  · rcases s with ⟨t, k⟩ | b
    · cases t <;> rfl
    · have hb : block ≠ b := fun h => hne (h ▸ rfl)
      simp only [records, Memory.read_write, if_neg hb]

end Switch

end ControlPlane
