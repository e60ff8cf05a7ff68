import ControlPlane.Proofs.Routing.Commands
import ControlPlane.Proofs.Routing.View

/-! # What operations change of the objects

On any intact record, with groups or without, an operation that succeeds changes the objects at one
place, and one that fails leaves all of them as they are: one theorem for each operation, whatever the
device answers. -/

namespace ControlPlane

/-- A group, whatever its users. -/
def Routing.group? (r : Routing) (id : GroupId) : Option Group :=
  (r.groups.get? id).map Counted.value

namespace Routing

open Operation (Ends)

variable {δ : Type} [Bus δ] {r r' : Routing} {bus : δ} {v : View}
  {groups : GroupId → Option Group}

omit [Bus δ] in
theorem Kept.group?_eq (h : r.Kept r') : r'.group? = r.group? := by
  have hg : r'.groups = r.groups := congrArg (·.groups) h.rewound_eq
  funext id
  rw [group?, group?, hg]

/-- Counting the users of what routes lead to anew leaves all groups as they are. -/
theorem Recounts.group?_eq {count : RouteTarget → Nat → Nat} (h : r.Recounts r' count) :
    r'.group? = r.group? :=
  map_value_recounts h.groups

/-- An intact record of the given objects. -/
structure Objects (v : View) (groups : GroupId → Option Group) (r : Routing) : Prop where
  intact : r.Intact
  view_eq : r.view = v
  group?_eq : r.group? = groups

theorem Kept.objects (h : r.Kept r') : Objects r.view r.group? r' :=
  ⟨h.intact, view_eq_of_rewound h.rewound_eq, h.group?_eq⟩

/-! ### Interfaces and egress objects -/

theorem createInterface_objects (h : r.Intact) (mac : MacAddr) (vlan : Nat) :
    Ends (createInterface mac vlan) (r, bus)
      (fun id t => Objects (r.view.setInterface id (some ⟨mac, vlan⟩)) r.group? t.1)
      (fun _ t => Objects r.view r.group? t.1) := by
  refine (createInterface_ends Bus.tells_true h mac vlan).mono ?_ fun _ _ hf => hf.kept.objects
  rintro id ⟨r', bus'⟩ ⟨-, hr, hi, -⟩
  cases hr
  exact ⟨hi, by simp only [view, View.setInterface, map_value_insert], rfl⟩

theorem destroyInterface_objects (h : r.Intact) (id : InterfaceId) :
    Ends (destroyInterface id) (r, bus)
      (fun _ t => r.interfaces.contains id = true ∧
        Objects (r.view.setInterface id none) r.group? t.1)
      (fun _ t => t = (r, bus)) := by
  refine (destroyInterface_ends Bus.tells_true h id).mono ?_ fun _ _ hf => hf.1
  rintro _ ⟨r', bus'⟩ ⟨c, hc, -, hr, hi, -⟩
  cases hr
  exact ⟨KeyMap.contains_of_get? hc, hi,
    by simp only [view, View.setInterface, map_value_erase], rfl⟩

theorem createEgress_objects (h : r.Intact) (board : Board) (e : Egress) :
    Ends (createEgress board e) (r, bus)
      (fun id t => Objects (r.view.setEgress id (some e)) r.group? t.1)
      (fun _ t => Objects r.view r.group? t.1) := by
  refine (createEgress_ends Bus.tells_true h board e).mono ?_ fun _ _ hf => hf.kept.objects
  rintro id ⟨r', bus'⟩ ⟨-, hr, hi, -⟩
  have hcounts := map_value_recounts (KeyMap.Recounts.alter_hold r.interfaces e.interface)
  cases hr
  exact ⟨hi, by simp only [view, View.setEgress, holdInterface, map_value_insert, hcounts], rfl⟩

theorem destroyEgress_objects (h : r.Intact) (id : EgressId) :
    Ends (destroyEgress id) (r, bus)
      (fun _ t => r.egresses.contains id = true ∧
        Objects (r.view.setEgress id none) r.group? t.1)
      (fun _ t => t = (r, bus)) := by
  refine (destroyEgress_ends Bus.tells_true h id).mono ?_ fun _ _ hf => hf.1
  rintro _ ⟨r', bus'⟩ ⟨c, hc, -, hr, hi, -⟩
  have hcounts := map_value_recounts (KeyMap.Recounts.alter_drop r.interfaces c.value.interface)
  cases hr
  exact ⟨KeyMap.contains_of_get? hc, hi,
    by simp only [view, View.setEgress, map_value_erase, hcounts], rfl⟩

/-! ### Routes -/

theorem addRoute_objects (h : r.Intact) (subnet : Subnet) (target : RouteTarget) :
    Ends (addRoute subnet target) (r, bus)
      (fun slot t => (∀ old, r.view.route? subnet.canon = some old → old.slot = slot) ∧
        Objects (r.view.setRoute subnet.canon (some ⟨slot, target⟩)) r.group? t.1)
      (fun _ t => Objects r.view r.group? t.1) := by
  refine (addRoute_ends Bus.tells_true h subnet target).mono ?_ fun _ _ hf => hf.kept.objects
  rintro slot ⟨r', bus'⟩ ⟨-, hold, ⟨slots, hr⟩, hi, -⟩
  change r' = _ at hr
  subst hr
  obtain ⟨r', count, hcount, he⟩ :=
    setRoute_eq { r with routeSlots := slots } subnet.canon ⟨slot, target⟩
  refine ⟨fun old hs => (hold old hs).symm, hi, view_setRoute _ _, ?_⟩
  rw [he]
  exact hcount.group?_eq

theorem removeRoute_objects (h : r.Intact) (subnet : Subnet) :
    Ends (removeRoute subnet) (r, bus)
      (fun _ t => Objects (r.view.setRoute subnet.canon none) r.group? t.1)
      (fun _ t => t = (r, bus)) := by
  refine (removeRoute_ends Bus.tells_true h subnet).mono ?_ fun _ _ hf => hf.1
  rintro _ ⟨r', bus'⟩ ⟨old, -, hr, hi, -⟩
  change r' = _ at hr
  subst hr
  have hcount := dropTarget_recounts { r with
    routeSlots := r.routeSlots.putBack old.slot
    routes := r.routes.erase subnet.canon } old.target
  refine ⟨hi, ?_, hcount.group?_eq⟩
  rw [hcount.view_eq]
  simp only [view, View.setRoute, KeyMap.get?_erase_eq_update]

/-- A subnet's route has its slot alone. -/
theorem Objects.slot_free {subnet : Subnet} {route : Route}
    (h : Objects (v.setRoute subnet (some route)) groups r) {s : Subnet} {old : Route}
    (hs : v.route? s = some old) (hslot : old.slot = route.slot) : s = subnet := by
  have hroute (k : Subnet) : r.routes.get? k = (v.setRoute subnet (some route)).route? k :=
    congrFun (congrArg View.route? h.view_eq) k
  by_contra hne
  refine hne (h.intact.slot_unique s subnet old route ?_ ?_ hslot)
  · rw [hroute, View.setRoute_of_ne _ hne, hs]
  · rw [hroute, View.setRoute_self]

/-! ### Groups -/

/-- Counting the users of egress objects anew changes nothing of the objects. -/
theorem view_eq_of_recounts {count : EgressId → Nat → Nat} (hi : r'.interfaces = r.interfaces)
    (he : r.egresses.Recounts r'.egresses count) (hr : r'.routes = r.routes) : r'.view = r.view := by
  rw [view, view, hi, hr]
  simp only [map_value_recounts he]

/-- No group has what a new one takes. -/
theorem Intact.newGroup?_free (h : r.Intact) {members : List EgressId} {id : GroupId} {base : Nat}
    (hn : r.newGroup? members = some (id, base)) :
    r.group? id = none ∧ ∀ id' g n, r.group? id' = some g → g.Occupies n →
      ¬ Group.Occupies ⟨members, base⟩ n := by
  obtain ⟨-, hid, -, hplaces⟩ := h.newGroup? hn
  refine ⟨?_, fun id' g n hg hocc hocc' => ?_⟩
  · rw [group?, (KeyMap.contains_eq_false_iff _ _).mp hid]
    rfl
  · obtain ⟨c, hc, rfl⟩ := Option.map_eq_some_iff.mp hg
    exact hplaces n hocc'.1 hocc'.2 ⟨id', c, hc, hocc⟩

theorem createGroup_objects (h : r.Intact) (members : List EgressId) :
    Ends (createGroup members) (r, bus)
      (fun id t => ∃ base, r.newGroup? members = some (id, base) ∧
        writeGroup id ⟨members, base⟩ bus = .ok () t.2 ∧
        Objects r.view (Function.update r.group? id (some ⟨members, base⟩)) t.1)
      (fun _ t => Objects r.view r.group? t.1) := by
  refine ((createGroup_ends Bus.tells_true h members).and (createGroup_commands members)).mono ?_
    fun _ _ hf => hf.1.kept.objects
  rintro id ⟨r', bus'⟩ ⟨⟨-, ⟨base', places, hr⟩, hi, -⟩, base, hnew, hb, hgroups⟩
  obtain ⟨hfold, he⟩ := foldl_holdEgress members { r with
    groupIds := r.groupIds.take id
    places := places }
  refine ⟨base, hnew, hb, hi, ?_, ?_⟩
  · cases hr
    exact view_eq_of_recounts (congrArg (·.interfaces) hfold) he (congrArg (·.routes) hfold)
  · change r'.groups = _ at hgroups
    change (fun k => (r'.groups.get? k).map Counted.value) = _
    rw [hgroups]
    exact map_value_insert r.groups id ⟨members, base⟩

theorem destroyGroup_objects (h : r.Intact) (id : GroupId) :
    Ends (destroyGroup id) (r, bus)
      (fun _ t => Objects r.view (Function.update r.group? id none) t.1)
      (fun _ t => t = (r, bus)) := by
  refine (destroyGroup_ends Bus.tells_true h id).mono ?_ fun _ _ hf => hf.1
  rintro _ ⟨r', bus'⟩ ⟨c, places, -, -, hr, hi, -⟩
  obtain ⟨hfold, he⟩ := foldl_dropEgress c.value.members { r with
    groupIds := r.groupIds.putBack id
    places := places
    groups := r.groups.erase id }
  change r' = _ at hr
  rw [← hr] at hfold he
  refine ⟨hi, view_eq_of_recounts (congrArg (·.interfaces) hfold) he (congrArg (·.routes) hfold), ?_⟩
  have hgroups : r'.groups = r.groups.erase id := congrArg (·.groups) hfold
  change (fun k => (r'.groups.get? k).map Counted.value) = _
  rw [hgroups]
  exact map_value_erase r.groups id

end Routing

end ControlPlane
