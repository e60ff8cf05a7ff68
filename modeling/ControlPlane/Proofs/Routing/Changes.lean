import ControlPlane.Proofs.Routing.Intact
import ControlPlane.Proofs.Routing.Users
import ControlPlane.Routing.Routes

/-! # Changes that keep the record intact

One lemma for each change that an operation makes to the record once the chip has answered: an object
is added or goes, a subnet gets a route or loses it.  Each says that `Intact` is kept, from what the
operation has checked before.

An object that goes must have no users; by `Tallied` this is what its count says, and by the lemmas
on totals that are zero it means that nothing points at it. -/

namespace ControlPlane.Routing

variable {r : Routing}

/-! ### Interfaces -/

section interfaces

variable {id : InterfaceId}

theorem Intact.addInterface (h : r.Intact) (i : Interface) (hn : IndexRange.interfaces.Holds id)
    (hid : r.interfaces.contains id = false) :
    Intact { r with
      interfaceIds := r.interfaceIds.take id
      interfaces := r.interfaces.insert id (.unused i) } :=
  { h with
    egress_interface := by
      intro e c hc
      simp only [KeyMap.contains_insert, h.egress_interface e c hc, Bool.or_true]
    interface_users := KeyMap.forall_insert (h.toClosed.builtOn_eq_zero hid).symm h.interface_users
    interfaceIds := (h.interfaceIds.take hn).congr (KeyMap.contains_insert_iff _ _ _) }

theorem Intact.eraseInterface (h : r.Intact) {c : Counted Interface}
    (hc : r.interfaces.get? id = some c) (hu : c.users = 0) :
    Intact { r with
      interfaceIds := r.interfaceIds.putBack id
      interfaces := r.interfaces.erase id } :=
  have hb : r.builtOn id = 0 := by rw [← h.interface_users id c hc, hu]
  have hid : r.interfaces.contains id = true := KeyMap.contains_of_get? hc
  { h with
    egress_interface := by
      intro e c' hc'
      have hne := builtOn_eq_zero_iff.mp hb e c' hc'
      simp [KeyMap.contains_erase, h.egress_interface e c' hc', hne.symm]
    interface_users := fun k c' hc' => h.interface_users k c' (KeyMap.get?_of_get?_erase hc')
    interfaceIds := (h.interfaceIds.free hid).2.congr (KeyMap.contains_erase_iff _ _) }

end interfaces

/-! ### Egress objects -/

section egresses

variable {id : EgressId}

theorem Intact.addEgress (h : r.Intact) {e : Egress} (hn : IndexRange.egresses.Holds id)
    (hid : r.egresses.contains id = false) (hi : r.interfaces.contains e.interface = true) :
    Intact { r.holdInterface e.interface with
      egressIds := r.egressIds.take id
      egresses := r.egresses.insert id (.unused e) } :=
  have hnone : r.egresses.get? id = none := (KeyMap.contains_eq_false_iff _ _).mp hid
  { h with
    egress_interface := by
      intro k c hc
      rw [holdInterface, KeyMap.contains_alter]
      exact KeyMap.forall_insert (P := fun _ c => r.interfaces.contains c.value.interface = true) hi
        h.egress_interface k c hc
    group_member := by
      intro g c hc m hm
      simp only [KeyMap.contains_insert, h.group_member g c hc m hm, Bool.or_true]
    route_target := by
      intro s route hr
      have ht := h.route_target s route hr
      cases htarget : route.target with
      | egress k =>
          rw [htarget] at ht
          simp only [hasTarget, KeyMap.contains_insert] at ht ⊢
          rw [ht, Bool.or_true]
      | group k =>
          rw [htarget] at ht
          exact ht
    interface_users := by
      intro k c' hc'
      obtain ⟨c, hc, rfl⟩ := (KeyMap.Recounts.alter_hold r.interfaces e.interface).get?_some hc'
      have hu := h.interface_users k c hc
      simp only [builtOn, KeyMap.total_insert _ _ _ hnone, Counted.unused] at hu ⊢
      omega
    egress_users := by
      have hroutes := h.toClosed.routesTo_eq_zero (.egress id) hid
      have hgroups := h.toClosed.memberships_eq_zero hid
      exact KeyMap.forall_insert (Nat.add_eq_zero_iff.mpr ⟨hroutes, hgroups⟩).symm h.egress_users
    interfaceIds := h.interfaceIds.congr fun n => by simp only [holdInterface, KeyMap.contains_alter]
    egressIds := (h.egressIds.take hn).congr (KeyMap.contains_insert_iff _ _ _) }

theorem Intact.eraseEgress (h : r.Intact) {c : Counted Egress}
    (hc : r.egresses.get? id = some c) (hu : c.users = 0) :
    Intact ({ r with
      egressIds := r.egressIds.putBack id
      egresses := r.egresses.erase id }.dropInterface c.value.interface) :=
  have hsum : r.routesTo (.egress id) + r.memberships id = 0 := by
    rw [← h.egress_users id c hc, hu]
  have hroutes := routesTo_eq_zero_iff.mp (Nat.add_eq_zero_iff.mp hsum).1
  have hgroups := memberships_eq_zero_iff.mp (Nat.add_eq_zero_iff.mp hsum).2
  have hid : r.egresses.contains id = true := KeyMap.contains_of_get? hc
  { h with
    egress_interface := by
      intro k c' hc'
      rw [dropInterface, KeyMap.contains_alter]
      exact h.egress_interface k c' (KeyMap.get?_of_get?_erase hc')
    group_member := by
      intro g c' hc' m hm
      have hne : id ≠ m := fun he => hgroups g c' hc' (he ▸ hm)
      simp [dropInterface, KeyMap.contains_erase, h.group_member g c' hc' m hm, hne]
    route_target := by
      intro s route hr
      have ht := h.route_target s route hr
      have hne := hroutes s route hr
      cases htarget : route.target with
      | egress k =>
          rw [htarget] at ht hne
          have hk : id ≠ k := fun he => hne (he ▸ rfl)
          simp only [hasTarget] at ht
          simp [dropInterface, hasTarget, KeyMap.contains_erase, ht, hk]
      | group k =>
          rw [htarget] at ht
          exact ht
    interface_users := by
      intro k b' hb'
      obtain ⟨b, hb, rfl⟩ := (KeyMap.Recounts.alter_drop r.interfaces c.value.interface).get?_some hb'
      have hu := h.interface_users k b hb
      rw [builtOn, KeyMap.total_erase _ _ hc] at hu
      exact Nat.sub_eq_of_eq_add' hu
    egress_users := fun k c' hc' => h.egress_users k c' (KeyMap.get?_of_get?_erase hc')
    interfaceIds := h.interfaceIds.congr fun n => by simp only [dropInterface, KeyMap.contains_alter]
    egressIds := (h.egressIds.free hid).2.congr (KeyMap.contains_erase_iff _ _) }

end egresses

/-! ### Routes

A route that comes, changes or goes leaves the objects as they are and changes the users that
targets count, so all three changes are cases of `Intact.reroute`. -/

section routes

variable {subnet : Subnet} {slot : RouteSlot} {target : RouteTarget}

/-- Other routes, with the users of their targets counted accordingly. -/
theorem Intact.reroute (h : r.Intact) {r' : Routing} {count : RouteTarget → Nat → Nat}
    {routes : KeyMap Subnet Route} {slots : IndexPool} (hr : r.Recounts r' count)
    (htarget : ∀ s route, routes.get? s = some route → r.hasTarget route.target = true)
    (hcount : ∀ t n, count t (r.routesTo t + n) =
      (routes.total fun route => if route.target = t then 1 else 0) + n)
    (hslots : slots.Tracks .routes fun slot => ∃ s route, routes.get? s = some route ∧ route.slot = slot)
    (hunique : ∀ s s' route route', routes.get? s = some route → routes.get? s' = some route' →
      route.slot = route'.slot → s = s') :
    Intact { r' with routes := routes, routeSlots := slots } := by
  obtain ⟨heq, he, hg⟩ := hr
  rw [heq]
  generalize r'.egresses = egresses at he ⊢
  generalize r'.groups = groups at hg ⊢
  have hbuilt (id : InterfaceId) : (egresses.total fun c => if c.value.interface = id then 1 else 0) =
      r.builtOn id := he.total_eq fun e => if e.interface = id then 1 else 0
  have hmembers (id : EgressId) : (groups.total fun c => c.value.members.count id) =
      r.memberships id := hg.total_eq fun g => g.members.count id
  exact {
    egress_interface := by
      intro id c' hc'
      obtain ⟨c, hc, rfl⟩ := he.get?_some hc'
      exact h.egress_interface id c hc
    group_member := by
      intro id c' hc' m hm
      obtain ⟨c, hc, rfl⟩ := hg.get?_some hc'
      exact (he.contains_eq m).trans (h.group_member id c hc m hm)
    route_target := by
      intro s route hs
      have ht := htarget s route hs
      cases hroute : route.target with
      | egress id =>
          rw [hroute] at ht
          exact (he.contains_eq id).trans ht
      | group id =>
          rw [hroute] at ht
          exact (hg.contains_eq id).trans ht
    interface_users := by
      intro id c hc
      exact (h.interface_users id c hc).trans (hbuilt id).symm
    egress_users := by
      intro id c' hc'
      obtain ⟨c, hc, rfl⟩ := he.get?_some hc'
      have hcount := hcount (.egress id) (r.memberships id)
      rw [← h.egress_users id c hc] at hcount
      exact hcount.trans (congrArg _ (hmembers id).symm)
    group_users := by
      intro id c' hc'
      obtain ⟨c, hc, rfl⟩ := hg.get?_some hc'
      have hcount := hcount (.group id) 0
      rw [Nat.add_zero, ← h.group_users id c hc] at hcount
      exact hcount
    interfaceIds := h.interfaceIds
    egressIds := h.egressIds.congr fun n => by rw [he.contains_eq]
    groupIds := h.groupIds.congr fun n => by rw [hg.contains_eq]
    routeSlots := hslots
    slot_unique := hunique
    places := h.places.congr fun n _ => by
      constructor
      · rintro ⟨id, c', hc', ho⟩
        obtain ⟨c, hc, rfl⟩ := hg.get?_some hc'
        exact ⟨id, c, hc, ho⟩
      · rintro ⟨id, c, hc, ho⟩
        exact ⟨id, _, (hg id).trans (congrArg _ hc), ho⟩
    place_unique := by
      intro id id' c c' n hc hc' ho ho'
      obtain ⟨b, hb, rfl⟩ := hg.get?_some hc
      obtain ⟨b', hb', rfl⟩ := hg.get?_some hc'
      exact h.place_unique id id' b b' n hb hb' ho ho'
    members_pos := by
      intro id c hc
      obtain ⟨b, hb, rfl⟩ := hg.get?_some hc
      exact h.members_pos id b hb
    span_le := by
      intro id c hc
      obtain ⟨b, hb, rfl⟩ := hg.get?_some hc
      exact h.span_le id b hb }

/-- A subnet without a route gets one, in a slot that no route has. -/
theorem Intact.addRoute (h : r.Intact) (hs : r.routes.get? subnet = none)
    (hn : IndexRange.routes.Holds slot) (hslot : ¬ r.SlotUsed slot)
    (ht : r.hasTarget target = true) :
    Intact ({ r with routeSlots := r.routeSlots.take slot }.setRoute subnet ⟨slot, target⟩) := by
  have heq : { r with routeSlots := r.routeSlots.take slot }.setRoute subnet ⟨slot, target⟩ =
      { r.holdTarget target with
        routes := r.routes.insert subnet ⟨slot, target⟩
        routeSlots := r.routeSlots.take slot } := by
    unfold setRoute
    simp only [hs]
    cases target <;> rfl
  rw [heq]
  refine h.reroute (holdTarget_recounts r target) ?_ ?_ ?_ ?_
  · exact KeyMap.forall_insert ht h.route_target
  · intro t n
    rw [KeyMap.total_insert _ _ _ hs, routesTo]
    simp only
    omega
  · exact (h.routeSlots.take hn).congr fun n =>
      (KeyMap.exists_insert_iff _ hs).trans (or_congr_right eq_comm)
  · intro s s' route route' hr hr' he
    refine KeyMap.apart_insert (P := fun route n => route.slot = n) ?_ ?_ s s' route route' _ hr hr' he rfl
    · rintro _ a w rfl hw hn
      exact absurd ⟨a, w, hw, hn⟩ hslot
    · intro a a' w w' n hw hw' hn hn'
      exact h.slot_unique a a' w w' hw hw' (hn.trans hn'.symm)

/-- A subnet that has a route gets another in its slot. -/
theorem Intact.replaceRoute (h : r.Intact) {old : Route} (hs : r.routes.get? subnet = some old)
    (ht : r.hasTarget target = true) : (r.setRoute subnet ⟨old.slot, target⟩).Intact := by
  have heq : r.setRoute subnet ⟨old.slot, target⟩ =
      { (r.holdTarget target).dropTarget old.target with
        routes := r.routes.insert subnet ⟨old.slot, target⟩
        routeSlots := r.routeSlots } := by
    unfold setRoute
    simp only [hs]
    cases target <;> cases old.target <;> rfl
  have hslot : ∀ s route, (r.routes.insert subnet ⟨old.slot, target⟩).get? s = some route →
      ∃ was, r.routes.get? s = some was ∧ was.slot = route.slot :=
    KeyMap.forall_insert ⟨old, hs, rfl⟩ fun _ route hr => ⟨route, hr, rfl⟩
  rw [heq]
  refine h.reroute ((holdTarget_recounts r target).trans (dropTarget_recounts _ old.target)) ?_ ?_ ?_ ?_
  · exact KeyMap.forall_insert ht h.route_target
  · intro t n
    rw [KeyMap.total_insert_erase, routesTo, KeyMap.total_erase _ _ hs]
    simp only
    omega
  · refine h.routeSlots.congr fun n => ?_
    constructor
    · rintro ⟨s, route, hr, rfl⟩
      obtain ⟨was, hw, he⟩ := hslot s route hr
      exact ⟨s, was, hw, he⟩
    · rintro ⟨s, route, hr, rfl⟩
      by_cases hss : subnet = s
      · subst hss
        rw [hs] at hr
        cases hr
        exact ⟨subnet, _, KeyMap.get?_insert_self _ _ _, rfl⟩
      · exact ⟨s, route, (KeyMap.get?_insert_of_ne _ _ hss).trans hr, rfl⟩
  · intro s s' route route' hr hr' he
    obtain ⟨was, hw, e⟩ := hslot s route hr
    obtain ⟨was', hw', e'⟩ := hslot s' route' hr'
    exact h.slot_unique s s' was was' hw hw' (e.trans (he.trans e'.symm))

theorem Intact.eraseRoute (h : r.Intact) {old : Route} (hs : r.routes.get? subnet = some old) :
    Intact ({ r with
      routeSlots := r.routeSlots.putBack old.slot
      routes := r.routes.erase subnet }.dropTarget old.target) := by
  have heq : { r with
      routeSlots := r.routeSlots.putBack old.slot
      routes := r.routes.erase subnet }.dropTarget old.target =
      { r.dropTarget old.target with
        routes := r.routes.erase subnet
        routeSlots := r.routeSlots.putBack old.slot } := by
    cases old.target <;> rfl
  rw [heq]
  refine h.reroute (dropTarget_recounts r old.target) ?_ ?_ ?_ ?_
  · intro s route hr
    exact h.route_target s route (KeyMap.get?_of_get?_erase hr)
  · intro t n
    rw [routesTo, KeyMap.total_erase _ _ hs]
    omega
  · refine (h.routeSlots.free ⟨subnet, old, hs, rfl⟩).2.congr fun n => ?_
    refine (KeyMap.exists_erase_iff hs ?_).trans (and_congr_right fun _ => ne_comm)
    rintro rfl s route hr he
    exact h.slot_unique s subnet route old hr hs he
  · intro s s' route route' hr hr'
    exact h.slot_unique s s' route route' (KeyMap.get?_of_get?_erase hr) (KeyMap.get?_of_get?_erase hr')

end routes

/-! ### Groups

A group that comes or goes changes the users that its members count, so both changes are cases of
`Intact.regroup`. -/

section groups

variable {id : GroupId} {members : List EgressId} {base : Nat} {places : SpanPool}

/-- Other groups, with the users of their members counted accordingly. -/
theorem Intact.regroup (h : r.Intact) {egresses : KeyMap EgressId (Counted Egress)}
    {count : EgressId → Nat → Nat} {groups : KeyMap GroupId (Counted Group)} {groupIds : IndexPool}
    (he : r.egresses.Recounts egresses count)
    (hmember : ∀ g c, groups.get? g = some c → ∀ m ∈ c.value.members, r.egresses.contains m = true)
    (htarget : ∀ s route g, r.routes.get? s = some route → route.target = .group g →
      groups.contains g = true)
    (hcount : ∀ k n, count k (n + r.memberships k) = n + groups.total fun c => c.value.members.count k)
    (husers : ∀ g c, groups.get? g = some c → c.users = r.routesTo (.group g))
    (hids : groupIds.Tracks .groups fun g => groups.contains g = true)
    (hplaces : places.Tracks Table.member.depth fun n =>
      ∃ g c, groups.get? g = some c ∧ c.value.Occupies n)
    (hunique : ∀ g g' c c' n, groups.get? g = some c → groups.get? g' = some c' →
      c.value.Occupies n → c'.value.Occupies n → g = g')
    (hlies : ∀ g c, groups.get? g = some c →
      0 < c.value.members.length ∧ c.value.base + c.value.members.length ≤ Table.member.depth) :
    Intact { r with egresses := egresses, groups := groups, groupIds := groupIds, places := places } :=
  have hbuilt (k : InterfaceId) : (egresses.total fun c => if c.value.interface = k then 1 else 0) =
      r.builtOn k := he.total_eq fun e => if e.interface = k then 1 else 0
  { h with
    egress_interface := by
      intro k c' hc'
      obtain ⟨c, hc, rfl⟩ := he.get?_some hc'
      exact h.egress_interface k c hc
    group_member := by
      intro g c hc m hm
      exact (he.contains_eq m).trans (hmember g c hc m hm)
    route_target := by
      intro s route hr
      cases hroute : route.target with
      | egress k =>
          have ht := h.route_target s route hr
          rw [hroute] at ht
          exact (he.contains_eq k).trans ht
      | group g => exact htarget s route g hr hroute
    interface_users := by
      intro k c hc
      exact (h.interface_users k c hc).trans (hbuilt k).symm
    egress_users := by
      intro k c' hc'
      obtain ⟨c, hc, rfl⟩ := he.get?_some hc'
      exact (congrArg (count k) (h.egress_users k c hc)).trans (hcount k _)
    group_users := husers
    egressIds := h.egressIds.congr fun n => by rw [he.contains_eq]
    groupIds := hids
    places := hplaces
    place_unique := hunique
    members_pos := fun g c hc => (hlies g c hc).1
    span_le := fun g c hc => (hlies g c hc).2 }

theorem Intact.addGroup (h : r.Intact) (hn : IndexRange.groups.Holds id)
    (hid : r.groups.contains id = false) (hm : ∀ m ∈ members, r.egresses.contains m = true)
    (hpos : 0 < members.length) (hle : base + members.length ≤ Table.member.depth)
    (hfree : ∀ n, base ≤ n → n < base + members.length → ¬ r.PlaceUsed n)
    (hp : places.Tracks Table.member.depth fun n =>
      r.PlaceUsed n ∨ base ≤ n ∧ n < base + members.length) :
    Intact { members.foldl holdEgress { r with
        groupIds := r.groupIds.take id
        places := places } with
      groups := r.groups.insert id (.unused ⟨members, base⟩) } := by
  have hnone : r.groups.get? id = none := (KeyMap.contains_eq_false_iff _ _).mp hid
  obtain ⟨heq, he⟩ := foldl_holdEgress members { r with
    groupIds := r.groupIds.take id
    places := places }
  rw [heq]
  refine h.regroup he ?_ ?_ ?_ ?_ ?_ ?_ ?_ ?_
  · exact KeyMap.forall_insert hm h.group_member
  · intro s route g hr htarget
    have ht := h.route_target s route hr
    rw [htarget] at ht
    exact (KeyMap.contains_insert_iff _ _ _ _).mpr (.inl ht)
  · intro k n
    rw [KeyMap.total_insert _ _ _ hnone, Nat.add_assoc, Nat.add_comm (r.memberships k)]
    rfl
  · exact KeyMap.forall_insert (h.toClosed.routesTo_eq_zero (.group id) hid).symm h.group_users
  · exact (h.groupIds.take hn).congr (KeyMap.contains_insert_iff _ _ _)
  · exact hp.congr fun n _ => KeyMap.exists_insert_iff _ hnone
  · refine KeyMap.apart_insert (fun n g c ho hc ho' => ?_) h.place_unique
    exact absurd ⟨g, c, hc, ho'⟩ (hfree n ho.1 ho.2)
  · exact KeyMap.forall_insert ⟨hpos, hle⟩ fun g c hc => ⟨h.members_pos g c hc, h.span_le g c hc⟩

theorem Intact.eraseGroup (h : r.Intact) {c : Counted Group} (hc : r.groups.get? id = some c)
    (hu : c.users = 0)
    (hp : places.Tracks Table.member.depth fun n => r.PlaceUsed n ∧ ¬ c.value.Occupies n) :
    Intact (c.value.members.foldl dropEgress { r with
      groupIds := r.groupIds.putBack id
      places := places
      groups := r.groups.erase id }) := by
  have hroutes := routesTo_eq_zero_iff.mp ((h.group_users id c hc).symm.trans hu)
  have hid : r.groups.contains id = true := KeyMap.contains_of_get? hc
  obtain ⟨heq, he⟩ := foldl_dropEgress c.value.members { r with
    groupIds := r.groupIds.putBack id
    places := places
    groups := r.groups.erase id }
  rw [heq]
  have hold {g : GroupId} {c' : Counted Group} (hc' : (r.groups.erase id).get? g = some c') :
      r.groups.get? g = some c' := KeyMap.get?_of_get?_erase hc'
  refine h.regroup he ?_ ?_ ?_ ?_ ?_ ?_ ?_ ?_
  · exact fun g c' hc' => h.group_member g c' (hold hc')
  · intro s route g hr htarget
    have ht := h.route_target s route hr
    have hne := hroutes s route hr
    rw [htarget] at ht hne
    exact (KeyMap.contains_erase_iff _ _ _).mpr ⟨ht, fun hg => hne (congrArg _ hg)⟩
  · intro k n
    rw [memberships, KeyMap.total_erase _ _ hc, Nat.add_left_comm, Nat.add_sub_cancel_left]
  · exact fun g c' hc' => h.group_users g c' (hold hc')
  · exact (h.groupIds.free hid).2.congr (KeyMap.contains_erase_iff _ _)
  · refine hp.congr fun n _ => KeyMap.exists_erase_iff hc fun ho g c' hc' ho' => ?_
    exact h.place_unique g id c' c n hc' hc ho' ho
  · exact fun g g' c c' n hc hc' => h.place_unique g g' c c' n (hold hc) (hold hc')
  · exact fun g c' hc' => ⟨h.members_pos g c' (hold hc'), h.span_le g c' (hold hc')⟩

end groups

end ControlPlane.Routing
