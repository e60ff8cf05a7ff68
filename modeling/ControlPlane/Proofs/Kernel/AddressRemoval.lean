import ControlPlane.Proofs.Kernel.Coherence

/-! # Taking an interface down

An interface cannot go while egress objects are built on it.  When a port loses its address, the routes that
lead to those are withdrawn first, the kernel's and the neighbours', whatever the device answers to each
write.  Where the kernel names subnets by their canonical form, that takes down all that the interface carries
and nothing else (`address_removal_dismantles`):

* every egress object on the interface has an owner in the books, so it goes when that owner's route does;
* a route that goes is the owner's: the tables have no other one for its subnet. -/

namespace ControlPlane.Follower

open Operation (Answers Ends)
open Routing (View)

variable {δ : Type} {refused : δ → Prop} {m m₁ m' : Follower δ} {port : PortId} {x : InterfaceId}

/-- Whether an egress object is built on an interface. -/
def BuiltOn (m : Follower δ) (x : InterfaceId) (id : EgressId) : Prop :=
  ∃ c, m.switch.routing.egresses.get? id = some c ∧ c.value.interface = x

/-- `m'` is `m` without the interface `x` of a port and all that it carried, and with all the rest. -/
structure Dismantled (m : Follower δ) (port : PortId) (x : InterfaceId) (m' : Follower δ) : Prop where
  ports : m'.ports = m.ports
  neighbors : m'.neighbors = m.neighbors
  pending : m'.pending = m.pending
  interfaces : m'.interfaces = m.interfaces.erase port
  live_interfaces : ∀ id c, m'.switch.routing.interfaces.get? id = some c ↔
    m.switch.routing.interfaces.get? id = some c ∧ id ≠ x
  /-- The egress objects on other interfaces are as they were, users included. -/
  egresses : ∀ id c, m'.switch.routing.egresses.get? id = some c ↔
    m.switch.routing.egresses.get? id = some c ∧ c.value.interface ≠ x
  routes : ∀ s route, m'.switch.routing.routes.get? s = some route ↔
    m.switch.routing.routes.get? s = some route ∧ ¬ ∃ id, route.target = .egress id ∧ m.BuiltOn x id
  installed : ∀ s r, m'.installed.get? s = some r ↔
    m.installed.get? s = some r ∧ ¬ m.BuiltOn x r.egress
  hosts : ∀ ip h, m'.hosts.get? ip = some h ↔ m.hosts.get? ip = some h ∧ ¬ m.BuiltOn x h.egress

theorem builtOn_iff {id : EgressId} : m.BuiltOn x id ↔ ∃ e, m.view.egress? id = some e ∧ e.interface = x := by
  simp [BuiltOn, view, Routing.view]

theorem builtOn_iff_of_some {id : EgressId} {c : Counted Egress}
    (h : m.switch.routing.egresses.get? id = some c) : m.BuiltOn x id ↔ c.value.interface = x := by
  simp [BuiltOn, h]

theorem mem_egressesOn_iff_builtOn {id : EgressId} :
    id ∈ m.switch.routing.egressesOn x ↔ m.BuiltOn x id :=
  Routing.mem_egressesOn_iff.trans builtOn_iff.symm

/-! ### Routes over the interface -/

section carried

/-- The owners of the routes over an interface. -/
abbrev Carried (m : Follower δ) (x : InterfaceId) (o : Owner) : Prop :=
  o.Among (m.installedOver (m.switch.routing.egressesOn x)) (m.hostsOver (m.switch.routing.egressesOn x))

/-- They are those whose egress objects are built on it. -/
theorem carried_iff {o : Owner} : m.Carried x o ↔ ∃ id, m.record o = some id ∧ m.BuiltOn x id := by
  cases o with
  | kernel s =>
      refine mem_installedOver_iff.trans ?_
      simp [record, mem_egressesOn_iff_builtOn]
  | neighbor ip =>
      refine mem_hostsOver_iff.trans ?_
      simp [record, mem_egressesOn_iff_builtOn]

/-- Where subnets are canonical, no two owners in the books have routes for the same subnet. -/
theorem Sound.key_inj (hs : m.Sound) (hcanon : m.CanonicalBooks) {o o' : Owner} {a a' : EgressId}
    (ho : m.record o = some a) (ho' : m.record o' = some a') (hkey : o.key = o'.key) : o = o' := by
  have hkernel (s : Subnet) (a : EgressId) (hr : m.record (.kernel s) = some a) :
      s.canon = s ∧ m.installed.get? s ≠ none := by
    obtain ⟨r, hr, -⟩ := Option.map_eq_some_iff.mp hr
    have hin : m.installed.get? s ≠ none := by simp [hr]
    exact ⟨hcanon s (.inl hin), hin⟩
  -- a host route does not stand beside an installed route for its address
  have hapart (s : Subnet) (ip : Ipv4) (a a' : EgressId) (hr : m.record (.kernel s) = some a)
      (hr' : m.record (.neighbor ip) = some a') : s.canon ≠ .host ip := by
    intro hkey
    obtain ⟨hself, hin⟩ := hkernel s a hr
    obtain ⟨host, hhost, -⟩ := Option.map_eq_some_iff.mp hr'
    rw [← hself, hkey] at hin
    exact hin (hs.hosts ip (by simp [hhost]))
  cases o with
  | kernel s =>
      cases o' with
      | kernel s' =>
          have hsame : s.canon = s'.canon := hkey
          rw [(hkernel s a ho).1, (hkernel s' a' ho').1] at hsame
          rw [hsame]
      | neighbor ip => exact absurd hkey (hapart s ip a a' ho ho')
  | neighbor ip =>
      cases o' with
      | kernel s => exact absurd hkey.symm (hapart s ip a' a ho' ho)
      | neighbor ip' => rw [Subnet.host_inj.mp hkey]

/-- The route for an owner's subnet is the owner's. -/
theorem Sound.target_of_record (hs : m.Sound) (hcanon : m.CanonicalBooks) {o : Owner} {a : EgressId}
    {route : Route} (ho : m.record o = some a) (hr : m.view.route? o.key = some route) :
    route.target = .egress a := by
  obtain ⟨o', a', ho', hkey, htarget⟩ := hs.owns.routed o.key route hr
  rw [hs.key_inj hcanon ho' ho hkey, ho] at ho'
  rw [htarget, Option.some.inj ho']

end carried

/-! ### What is left -/

section left

variable {m₁ : Follower δ}
  (hc : Cleared (m.installedOver (m.switch.routing.egressesOn x))
    (m.hostsOver (m.switch.routing.egressesOn x)) m m₁)
  (hr : Rerouted refused { m₁ with interfaces := m₁.interfaces.erase port }
    (m₁.view.setInterface x none) m')

include hc hr

theorem interface?_of_cleared (id : InterfaceId) :
    m'.view.interface? id = if id = x then none else m.view.interface? id := by
  rw [hr.view_eq, View.setInterface_interface?, hc.interface?]

/-- What was built on the interface has gone with it. -/
theorem egress?_of_builtOn {a : EgressId} (ha : m.BuiltOn x a) : m'.view.egress? a = none := by
  cases he : m'.view.egress? a with
  | none => rfl
  | some e =>
      obtain ⟨e', he', hx⟩ := builtOn_iff.mp ha
      rw [hc.egress? a e (by rwa [hr.view_eq] at he)] at he'
      cases he'
      obtain ⟨c, hget, rfl⟩ := Option.map_eq_some_iff.mp he
      have hlive := hr.plain.egress_interface a c hget
      have hnone := (interface?_of_cleared hc hr _).trans (if_pos hx)
      rw [Routing.contains_interfaces_eq_false_iff.mpr hnone] at hlive
      cases hlive

theorem egress?_of_not_builtOn {a : EgressId} (ha : ¬ m.BuiltOn x a) :
    m'.view.egress? a = m.view.egress? a := by
  rw [hr.view_eq]
  refine hc.egress?_kept a fun o ho hrec => ha ?_
  obtain ⟨a', hrec', hbuilt⟩ := carried_iff.mp ho
  rw [hrec] at hrec'
  cases hrec'
  exact hbuilt

theorem egress?_on_other {id : InterfaceId} (hid : id ≠ x) (a : EgressId) (e : Egress)
    (he : e.interface = id) : m'.view.egress? a = some e ↔ m.view.egress? a = some e := by
  by_cases ha : m.BuiltOn x a
  · refine iff_of_false (by simp [egress?_of_builtOn hc hr ha]) fun hold => hid ?_
    obtain ⟨e', he', hx⟩ := builtOn_iff.mp ha
    rw [hold] at he'
    cases he'
    exact he.symm.trans hx
  · rw [egress?_of_not_builtOn hc hr ha]

/-- The routes that are left are those that led to no egress object on the interface. -/
theorem route?_of_cleared (hs : m.Sound) (hcanon : m.CanonicalBooks) (s : Subnet) (route : Route) :
    m'.view.route? s = some route ↔
      m.view.route? s = some route ∧ ¬ ∃ a, route.target = .egress a ∧ m.BuiltOn x a := by
  constructor
  · intro hget
    refine ⟨hc.route? s route (by rwa [hr.view_eq] at hget), ?_⟩
    rintro ⟨a, htarget, ha⟩
    exact hr.plain.egress_of_routed ⟨s, route, hget, htarget⟩ (egress?_of_builtOn hc hr ha)
  · rintro ⟨hget, hother⟩
    rw [hr.view_eq]
    refine (hc.route?_kept s fun o ho hkey => hother ?_).trans hget
    obtain ⟨a, hrec, hbuilt⟩ := carried_iff.mp ho
    subst hkey
    exact ⟨a, hs.target_of_record hcanon hrec hget, hbuilt⟩

/-- Once the routes over an interface have gone, and the interface, all the rest is there. -/
theorem dismantled_of_cleared (hs : m.Sound) (hcanon : m.CanonicalBooks) :
    m.Dismantled port x m' where
  ports := hr.ports.trans hc.still.ports
  neighbors := hr.neighbors.trans hc.still.neighbors
  pending := hr.pending.trans hc.pending
  interfaces := by rw [hr.interfaces, hc.still.interfaces]
  live_interfaces id c := by
    have hface := interface?_of_cleared hc hr id
    by_cases hid : id = x
    · have hnone := Option.map_eq_none_iff.mp (hface.trans (if_pos hid))
      simp [hid, hid ▸ hnone]
    · rw [hs.plain.toIntact.interface_eq hr.plain.toIntact (hface.trans (if_neg hid))
        (egress?_on_other hc hr hid)]
      simp [hid]
  egresses a c := by
    by_cases ha : m.BuiltOn x a
    · have hnone := Option.map_eq_none_iff.mp (egress?_of_builtOn hc hr ha)
      exact iff_of_false (by simp [hnone]) fun hold => hold.2 ((builtOn_iff_of_some hold.1).mp ha)
    · have hto (s : Subnet) (route : Route) (htarget : route.target = .egress a) :
          m'.view.route? s = some route ↔ m.view.route? s = some route := by
        simp [route?_of_cleared hc hr hs hcanon, htarget, ha]
      rw [hs.plain.egress_eq hr.plain (egress?_of_not_builtOn hc hr ha) hto]
      exact ⟨fun hold => ⟨hold, fun hx => ha ((builtOn_iff_of_some hold).mpr hx)⟩, And.left⟩
  routes := route?_of_cleared hc hr hs hcanon
  installed s r := by
    rw [hr.installed, hc.installed, Option.ite_none_left_eq_some, and_comm]
    refine and_congr_right fun hget => not_congr ?_
    rw [mem_installedOver_iff, ← mem_egressesOn_iff_builtOn]
    simp [hget]
  hosts ip host := by
    rw [hr.hosts, hc.hosts, Option.ite_none_left_eq_some, and_comm]
    refine and_congr_right fun hget => not_congr ?_
    rw [mem_hostsOver_iff, ← mem_egressesOn_iff_builtOn]
    simp [hget]

end left

variable [Bus δ]

/-- Where a port has an interface, the news that its address is gone is applied, unless it fails. -/
theorem addressRemoved_applies {i : IfIndex} (hrp : m.routedPort? i ≠ none) :
    Ends (addressRemoved i) m (fun outcome _ => outcome = .applied) fun _ _ => True := by
  unfold addressRemoved
  refine Ends.bind (Operation.ends_get ?_)
  cases hrouted : m.routedPort? i with
  | none => exact absurd hrouted hrp
  | some rp =>
      dsimp only
      exact Answers.bind (P := (· = EventOutcome.applied)) (fun _ => .bind fun _ => .bind fun _ =>
        .bind fun _ => .bind fun _ => .pure rfl) m

/-- After every run on a fresh switch whose kernel names subnets by their canonical form, whatever the
device answers, the news that a port with an interface has lost its address is applied, and takes down the
interface with all that it carried and nothing else. -/
theorem address_removal_dismantles (board : Board) (bus : δ) (events : List Event)
    (hcanon : ∀ event ∈ events, event.Canonical) (i : IfIndex) (port : PortId) (x : InterfaceId)
    (hrp : ((fresh (.fresh board bus)).run events).routedPort? i = some ⟨port, x⟩) :
    let m := (fresh (.fresh board bus)).run events
    (handle (.address i .removed) m).1 = .applied ∧
      m.Dismantled port x (handle (.address i .removed) m).2 := by
  intro m
  obtain ⟨hs, h⟩ := run_accurate board bus hcanon
  have hrouted : m.routedPort? i ≠ none := by simp [m, hrp]
  refine handle_ends (P := fun outcome m' => outcome = .applied ∧ m.Dismantled port x m') ?_
  refine ((addressRemoved_ends (.address i .removed) Bus.tells_true hs.toOwned i).and
    (addressRemoved_applies hrouted)).mono ?_ ?_
  · rintro outcome m' ⟨⟨-, hun⟩, rfl⟩
    refine ⟨rfl, ?_⟩
    cases hun with
    | ignored hnone => exact absurd hnone hrouted
    | cleared hrp' hc hr =>
        rw [hrp] at hrp'
        cases hrp'
        exact dismantled_of_cleared hc hr hs h.canonical
  · -- the interface of a port is there
    rintro _ m' ⟨⟨-, rp, hrp', hnone⟩, -⟩
    exact absurd hnone (hs.ready hrp').has_interface

/-- Two ports with a neighbour on each, and a subnet behind each neighbour. -/
def twoPorts : List Event :=
  arrival ++ [.route remoteNet .added (some ⟨0x0a000001⟩) (some 5),
    .link 6 "swp13" true, .address 6 .added,
    .neighbor ⟨0x0a000101⟩ 6 (some ⟨0x52, 0x54, 0, 0, 0, 2⟩) .added,
    .route { remoteNet with addr := ⟨0x0a020000⟩ } .added (some ⟨0x0a000101⟩) (some 6)]

/-- The device takes what these events write and then refuses to clear anything. -/
theorem address_removal_dismantles_refused :
    let m := tiring 18 twoPorts
    let m' := (handle (.address 5 .removed) m).2
    m.routedPort? 5 = some ⟨⟨12, by decide, by decide⟩, 1⟩ ∧ m.switch.bus.left = 0 ∧
      m.installed.size = 2 ∧ m'.installed.size = 1 ∧ m.hosts.size = 2 ∧ m'.hosts.size = 1 ∧
      (handle (.address 5 .removed) m).1 = .applied ∧
      m.Dismantled ⟨12, by decide, by decide⟩ 1 m' := by
  intro m m'
  have hcanon : ∀ event ∈ twoPorts, event.Canonical := by decide
  have hrp : m.routedPort? 5 = some ⟨⟨12, by decide, by decide⟩, 1⟩ := by decide +kernel
  exact ⟨hrp, by decide +kernel, by decide +kernel, by decide +kernel, by decide +kernel,
    by decide +kernel, address_removal_dismantles _ _ twoPorts hcanon 5 _ 1 hrp⟩

end ControlPlane.Follower
