import ControlPlane.Proofs.Kernel.Events

/-! # Are the host routes in the tables?

A host route in the books should be in the tables.  Every event keeps it so but one: the kernel's word
that its route for a single address is gone removes whatever route the address has, also one that the
kernel never had, and the neighbour's own host route is not put back, as the books still have it.

* `Strips m event` says when that happens, in terms of the state before the event alone.
* `host_routes_programmed_iff`: on a device that refuses nothing, the host routes are in the tables
  throughout a run exactly if no event strips one. -/

namespace ControlPlane.Follower

variable {δ : Type} {refused : δ → Prop} {event : Event} {m m' : Follower δ} {ip : Ipv4}

/-- The host route that the books have for an address, if any, is in the tables. -/
def Programmed (m : Follower δ) (ip : Ipv4) : Prop :=
  ∀ h, m.hosts.get? ip = some h →
    ∃ route, m.switch.routing.routes.get? (.host ip) = some route ∧ route.target = .egress h.egress

def HostsProgrammed (m : Follower δ) : Prop := ∀ ip, m.Programmed ip

/-- An event strips an address of its host route: the kernel says that a route of its own for the
address is gone, and nothing is put in the place of the neighbour's.  What the books have leads to
where it would lead, so that no host route is wanted, or there is no room for another egress object. -/
def Strips (m : Follower δ) : Event → Prop
  | .route subnet .removed _ _ =>
      subnet.len = 32 ∧ ∃ h, m.hosts.get? subnet.addr = some h ∧
        ∀ n mac rp, m.resolved? subnet.addr = some (n, mac, rp) →
          h.ifindex = n.ifindex ∧ h.mac = mac ∨ m.view.EgressesFull
  | _ => False

theorem not_programmed {h : HostRoute} (hh : m.hosts.get? ip = some h)
    (hr : m.switch.routing.routes.get? (.host ip) = none) : ¬ m.Programmed ip := by
  intro hp
  obtain ⟨route, hroute, -⟩ := hp h hh
  rw [hroute] at hr
  cases hr

/-- Only the removal of the route of a single address strips one. -/
theorem Strips.event_eq (h : m.Strips event) :
    ∃ ip gateway via, event = .route (.host ip) .removed gateway via := by
  cases event with
  | route subnet change gateway via =>
      cases change with
      | added => exact h.elim
      | removed => exact ⟨subnet.addr, gateway, via, by rw [← subnet.eq_host_of_len h.1]⟩
  | link => exact h.elim
  | linkRemoved => exact h.elim
  | address => exact h.elim
  | neighbor => exact h.elim

/-! ### Steps -/

theorem Programmed.congr (h : m.Programmed ip) (hh : m'.hosts.get? ip = m.hosts.get? ip)
    (hr : m'.view.route? (.host ip) = m.view.route? (.host ip)) : m'.Programmed ip := by
  intro host hip
  obtain ⟨route, hroute, ht⟩ := h host (hh ▸ hip)
  exact ⟨route, hr.trans hroute, ht⟩

theorem Rerouted.hostsProgrammed (hr : Rerouted refused m m.view m') (h : m.HostsProgrammed) :
    m'.HostsProgrammed :=
  fun ip => (h ip).congr (by rw [hr.hosts]) (by rw [hr.view_eq])

/-- A host route that is installed is in the tables, and those of other addresses stay there. -/
theorem Rerouted.hostsProgrammed_hosting {n : Neighbor} {mac : MacAddr} {e : Egress} {id : EgressId}
    {slot : RouteSlot} (hr : Rerouted refused (m.hosting n mac id) (m.viewHosting n.ip e id slot) m')
    (h : ∀ a, a ≠ n.ip → m.Programmed a) : m'.HostsProgrammed := by
  have hroute (a : Ipv4) : m'.view.route? (.host a) =
      if a = n.ip then some ⟨slot, .egress id⟩ else m.view.route? (.host a) := by
    rw [hr.view_eq, viewHosting, Routing.View.drop?_route?, Routing.View.provide_route?]
    simp only [Subnet.host_inj]
  intro a
  by_cases ha : a = n.ip
  · subst ha
    intro host hip
    rw [hr.hosts, hosting, KeyMap.get?_insert_self] at hip
    cases hip
    exact ⟨_, (hroute n.ip).trans (if_pos rfl), rfl⟩
  · refine (h a ha).congr ?_ ((hroute a).trans (if_neg ha))
    rw [hr.hosts, hosting, KeyMap.get?_insert_of_ne _ _ (Ne.symm ha)]

theorem route?_unrouted {subnet : Subnet} {o : Option EgressId} (h : subnet ≠ .host ip) :
    ((m.view.setRoute subnet.canon none).drop? o).route? (.host ip) = m.view.route? (.host ip) := by
  rw [Routing.View.drop?_route?]
  exact Routing.View.setRoute_of_ne _ fun he => h ((subnet.canon_eq_host_iff ip).mp he.symm)

/-- Host routes stay in the tables, unless the kernel says that a route for a single address is gone. -/
theorem Step.hostsProgrammed (hc : Step refused event m m') (ha : m.Apart)
    (he : ∀ ip gateway via, event ≠ .route (.host ip) .removed gateway via) (h : m.HostsProgrammed) :
    m'.HostsProgrammed := by
  cases hc with
  | tried hr => exact hr.hostsProgrammed h
  | elsewhere rest ports =>
      rw [rest]
      exact h
  | interfaceAdded hport hid hr =>
      exact fun ip => (h ip).congr (by rw [hr.hosts]) (by rw [hr.view_eq]; rfl)
  | interfaceRemoved hport hr =>
      exact fun ip => (h ip).congr (by rw [hr.hosts]) (by rw [hr.view_eq]; rfl)
  | hosted hwants hn hrp hf hr => exact hr.hostsProgrammed_hosting fun a _ => h a
  | @unhosted ip _ hip hr =>
      intro a
      by_cases hne : ip = a
      · subst hne
        intro host hhost
        rw [hr.hosts, KeyMap.get?_erase_self] at hhost
        cases hhost
      · refine (h a).congr ?_ ?_
        · rw [hr.hosts, KeyMap.get?_erase_of_ne _ hne]
        · rw [hr.view_eq, ← Subnet.canon_host ip]
          exact route?_unrouted fun he => hne (Subnet.host_inj.mp he)
  | @installed subnet hop mac rp id slot _ hn hrp hf hr =>
      intro a
      by_cases hs : subnet = .host a
      · intro host hhost
        rw [hr.hosts, installing_hosts, if_pos hs] at hhost
        cases hhost
      · refine (h a).congr ?_ ?_
        · rw [hr.hosts, installing_hosts, if_neg hs]
        · have hne : Subnet.host a ≠ subnet.canon := fun he =>
            hs ((subnet.canon_eq_host_iff a).mp he.symm)
          rw [hr.view_eq, viewInstalling]
          simp only [Routing.View.drop?_route?, Routing.View.provide_route?, if_neg hne]
  | @withdrawn subnet _ hs hr =>
      intro a
      by_cases hne : subnet = .host a
      · subst hne
        intro host hhost
        rw [hr.hosts] at hhost
        exact absurd (ha.hosts a (by simp [hhost])) hs
      · exact (h a).congr (by rw [hr.hosts]) (by rw [hr.view_eq]; exact route?_unrouted hne)
  | @removed subnet gateway via _ hevent hr =>
      intro a
      refine (h a).congr (by rw [hr.hosts]) ?_
      rw [hr.view_eq]
      refine route?_unrouted ?_
      rintro rfl
      exact he a gateway via hevent
  | pended hs => exact h
  | unpended => exact h
  | learned hevent => exact h
  | forgotten hevent => exact h

theorem Steps.hostsProgrammed (hc : Steps refused event m m') (ha : m.Apart)
    (he : ∀ ip gateway via, event ≠ .route (.host ip) .removed gateway via) (h : m.HostsProgrammed) :
    m'.HostsProgrammed := by
  induction hc with
  | refl => exact h
  | tail hs hc ih => exact hc.hostsProgrammed (Steps.apart hs ha) he ih

/-! ### The route of a single address -/

/-- `m'` is `m` without the route of an address that has a host route in the books. -/
structure Unrouted (m : Follower δ) (ip : Ipv4) (host : HostRoute) (m' : Follower δ) : Prop where
  host_eq : m.hosts.get? ip = some host
  hosts : m'.hosts = m.hosts
  installed : m'.installed.get? (.host ip) = none
  pending : m'.pending.get? (.host ip) = none
  resolved : m'.resolved? ip = m.resolved? ip
  routedPort : m'.routedPort? = m.routedPort?
  board : m'.switch.board = m.switch.board
  view_eq : m'.view = m.view.setRoute (.host ip) none

namespace Unrouted

variable {host : HostRoute} {m₁ : Follower δ}

theorem of_rerouted (ha : m.Apart) (hh : m.hosts.get? ip = some host)
    (h : Rerouted refused
      { m with pending := m.pending.erase (.host ip), installed := m.installed.erase (.host ip) }
      ((m.view.setRoute (.host ip) none).drop? (m.record (.kernel (.host ip)))) m₁) :
    m.Unrouted ip host m₁ where
  host_eq := hh
  hosts := h.hosts
  installed := by rw [h.installed, KeyMap.get?_erase_self]
  pending := by rw [h.pending, KeyMap.get?_erase_self]
  resolved := Still.resolved?_eq ⟨h.ports, h.interfaces, h.neighbors⟩ ip
  routedPort := by
    funext i
    simp only [routedPort?, h.ports, h.interfaces]
  board := h.board
  view_eq := by
    have hnone : m.installed.get? (.host ip) = none := ha.hosts ip (by simp [hh])
    rw [h.view_eq, record, hnone]
    rfl

theorem programmed (hu : m.Unrouted ip host m₁) (h : m.HostsProgrammed) {a : Ipv4} (ha : a ≠ ip) :
    m₁.Programmed a := by
  refine (h a).congr (by rw [hu.hosts]) ?_
  rw [hu.view_eq]
  exact Routing.View.setRoute_of_ne _ fun he => ha (Subnet.host_inj.mp he)

theorem not_programmed (hu : m.Unrouted ip host m₁) : ¬ m₁.Programmed ip := by
  have hnone : m₁.view.route? (.host ip) = none := by
    rw [hu.view_eq]
    exact Routing.View.setRoute_self none
  exact Follower.not_programmed (by rw [hu.hosts, hu.host_eq]) hnone

/-- Its host route is not wanted if the books have it already. -/
theorem wantsHost_eq_false_iff (hu : m.Unrouted ip host m₁) {n : Neighbor} (hn : n.ip = ip)
    (mac : MacAddr) :
    m₁.wantsHost n mac = false ↔ host.ifindex = n.ifindex ∧ host.mac = mac := by
  have hi : m₁.installed.contains (.host n.ip) = false := by
    rw [KeyMap.contains_eq_false_iff, hn, hu.installed]
  have hp : m₁.pending.contains (.host n.ip) = false := by
    rw [KeyMap.contains_eq_false_iff, hn, hu.pending]
  have hh : m₁.hosts.get? n.ip = some host := by rw [hu.hosts, hn, hu.host_eq]
  simp [wantsHost, hi, hp, hh]

/-- Only a lack of egress objects can keep its host route from being put back. -/
theorem egressesFull (hu : m.Unrouted ip host m₁) (hs : m.Sound) (hp : m.Programmed ip)
    (hv : m'.view = m₁.view) (he : m'.Exhausted refused) (hok : ¬ refused m'.switch.bus) :
    m.view.EgressesFull := by
  rw [Exhausted, hv, hu.view_eq] at he
  rcases he with hr | hfull | hslots
  · exact absurd hr hok
  · exact hfull
  · -- the slot of the route that went is free
    obtain ⟨route, hroute, -⟩ := hp host hu.host_eq
    have hholds : IndexRange.routes.Holds route.slot :=
      hs.plain.routeSlots.holds ⟨_, route, hroute, rfl⟩
    obtain ⟨s, route', hroute', hslot⟩ := hslots route.slot hholds
    by_cases hne : s = .host ip
    · subst hne
      rw [Routing.View.setRoute_self] at hroute'
      cases hroute'
    · rw [Routing.View.setRoute_of_ne _ hne] at hroute'
      exact absurd (hs.plain.slot_unique s _ route' route hroute' hroute hslot) hne

/-- What the address gets back is its host route, unless the books still have it or there is no room. -/
theorem restored_iff (hu : m.Unrouted ip host m₁) (hs : m.Sound) (h : m.HostsProgrammed)
    (hr : m₁.Restored refused ip m') (hok : ¬ refused m'.switch.bus) :
    m'.HostsProgrammed ↔ ∃ n mac rp, m.resolved? ip = some (n, mac, rp) ∧
      ¬ (host.ifindex = n.ifindex ∧ host.mac = mac) ∧ ¬ m.view.EgressesFull := by
  cases hr with
  | unresolved hr =>
      rw [hu.resolved] at hr
      refine iff_of_false (fun hp => hu.not_programmed (hp ip)) ?_
      rintro ⟨n, mac, rp, hsome, -⟩
      rw [hr] at hsome
      cases hsome
  | @unwanted n mac rp hr hw =>
      have hip := (resolved?_some hr).1
      refine iff_of_false (fun hp => hu.not_programmed (hp ip)) ?_
      rintro ⟨n', mac', rp', hsome, hnot, -⟩
      rw [← hu.resolved, hr] at hsome
      cases hsome
      exact hnot ((hu.wantsHost_eq_false_iff hip mac).mp hw)
  | @hosted n mac rp id slot _ hr hw hf h2 =>
      have hip := (resolved?_some hr).1
      refine iff_of_true (h2.hostsProgrammed_hosting fun a ha => hu.programmed h (hip ▸ ha)) ?_
      refine ⟨n, mac, rp, hu.resolved ▸ hr, fun hsame => ?_, fun hfull => ?_⟩
      · rw [(hu.wantsHost_eq_false_iff hip mac).mpr hsame] at hw
        cases hw
      · refine hfull id hf.holds ?_
        rw [← hf.free, hu.view_eq]
        rfl
  | @failed n mac rp _ hr hw h2 ho =>
      obtain ⟨hip, -, hrp⟩ := resolved?_some hr
      refine iff_of_false (fun hp => hu.not_programmed ?_) ?_
      · exact (hp ip).congr (by rw [h2.hosts]) (by rw [h2.view_eq])
      · rintro ⟨-, -, -, -, -, hnot⟩
        rw [hu.routedPort] at hrp
        have hready : m₁.Ready rp := (hs.ready hrp).congr hu.board (by rw [hu.view_eq]; rfl)
        exact hnot (hu.egressesFull hs (h ip) h2.view_eq (hready.exhausted h2.view_eq ho) hok)

end Unrouted

/-- An address without a host route that loses its route may be given one, and no harm is done. -/
theorem Restored.hostsProgrammed (hr : m.Restored refused ip m') (h : m.HostsProgrammed) :
    m'.HostsProgrammed := by
  cases hr with
  | unresolved hr => exact h
  | unwanted hr hw => exact h
  | hosted hr hw hf h2 => exact h2.hostsProgrammed_hosting fun a _ => h a
  | failed hr hw h2 ho => exact h2.hostsProgrammed h

theorem strips_iff {gateway : Option Ipv4} {via : Option IfIndex} :
    m.Strips (.route (.host ip) .removed gateway via) ↔ ∃ host, m.hosts.get? ip = some host ∧
      ∀ n mac rp, m.resolved? ip = some (n, mac, rp) →
        host.ifindex = n.ifindex ∧ host.mac = mac ∨ m.view.EgressesFull :=
  and_iff_right rfl

/-- When the route of a single address goes, host routes stay in the tables unless one is stripped. -/
theorem Removed.hostsProgrammed_iff {gateway : Option Ipv4} {via : Option IfIndex}
    (hr : m.Removed refused (.host ip) m') (hs : m.Sound) (h : m.HostsProgrammed)
    (hok : ¬ refused m'.switch.bus) :
    m'.HostsProgrammed ↔ ¬ m.Strips (.route (.host ip) .removed gateway via) := by
  rw [strips_iff]
  cases hr with
  | nothing hv hi hr =>
      refine iff_of_true (hr.hostsProgrammed h) ?_
      -- without a route there is no host route either
      rintro ⟨host, hhost, -⟩
      obtain ⟨route, hroute, -⟩ := h ip host hhost
      rw [Subnet.canon_host, show m.view.route? (.host ip) = some route from hroute] at hv
      cases hv
  | @route m₁ _ hfound h1 hrest =>
      have hrest : m₁.Restored refused ip m' := hrest
      rw [Subnet.canon_host] at h1
      cases hhost : m.hosts.get? ip with
      | none =>
          have hall : m₁.HostsProgrammed := by
            intro a
            by_cases ha : a = ip
            · subst ha
              intro host hsome
              rw [h1.hosts, show m.hosts.get? a = none from hhost] at hsome
              cases hsome
            · refine (h a).congr (by rw [h1.hosts]) ?_
              rw [h1.view_eq, ← Subnet.canon_host ip]
              exact route?_unrouted fun he => ha (Subnet.host_inj.mp he).symm
          refine iff_of_true (hrest.hostsProgrammed hall) ?_
          rintro ⟨host, hsome, -⟩
          cases hsome
      | some host =>
          have hu : m.Unrouted ip host m₁ := .of_rerouted hs.toApart hhost h1
          rw [hu.restored_iff hs h hrest hok]
          simp only [Option.some.injEq, exists_eq_left', not_forall, not_or, exists_prop]

/-- Host routes stay in the tables unless the event strips one. -/
theorem handle_hostsProgrammed_iff [Bus δ] (ht : Bus.Tells refused) (hs : m.Sound)
    (h : m.HostsProgrammed) (hok : ¬ refused (handle event m).2.switch.bus) :
    (handle event m).2.HostsProgrammed ↔ ¬ m.Strips event := by
  by_cases he : ∃ ip gateway via, event = .route (.host ip) .removed gateway via
  · obtain ⟨ip, gateway, via, rfl⟩ := he
    cases handle_handled ht hs (.route (.host ip) .removed gateway via) with
    | removed hr => exact hr.hostsProgrammed_iff hs h hok
  · have hsteps := handle_steps ht hs event
    refine iff_of_true (hsteps.hostsProgrammed hs.toApart ?_ h) fun hstrips => he hstrips.event_eq
    intro ip gateway via hev
    exact he ⟨ip, gateway, via, hev⟩

/-! ### Every run -/

/-- On a device that refuses nothing, every host route in the books is in the tables after every event,
exactly if no event strips an address of its host route. -/
theorem host_routes_programmed_iff [Bus δ] (board : Board) (bus : δ) (events : List Event)
    (hok : ∀ k ≤ events.length,
      (watchedRun board bus (events.take k)).switch.bus.refused = false) :
    (∀ k ≤ events.length,
        (watchedRun board bus (events.take k)).HostsProgrammed) ↔
      ∀ k event, events[k]? = some event →
        ¬ (watchedRun board bus (events.take k)).Strips event := by
  have hstart : (fresh (.fresh board (Watched.start bus))).HostsProgrammed := by
    intro ip h hip
    cases hip
  refine run_holds_iff (fun m => m.switch.bus.refused = false) ?_ (sound_fresh board _) hstart hok
  intro m event hs h hrefused
  exact handle_hostsProgrammed_iff Watched.tells_refused hs h (by simp [hrefused])

/-- A route through the neighbour comes and goes. -/
def detour : List Event :=
  arrival ++ [.route remoteNet .added (some ⟨0x0a000001⟩) (some 5),
    .route remoteNet .removed none none]

/-- Other routes coming and going leave the neighbour's host route in the tables. -/
theorem host_route_programmed_detour :
    (following detour).hosts.get? ⟨0x0a000001⟩ = some ⟨5, ⟨0x52, 0x54, 0, 0, 0, 1⟩, 1⟩ ∧
      ∀ k ≤ detour.length, (following (detour.take k)).HostsProgrammed := by
  have hok : ∀ k ≤ detour.length, (following (detour.take k)).switch.bus.refused = false := by
    decide +kernel
  have hnot (m : Follower (Watched Willing)) (k : Nat) (event : Event)
      (hk : detour[k]? = some event) : ¬ m.Strips event := by
    intro hstrips
    obtain ⟨ip, gateway, via, rfl⟩ := hstrips.event_eq
    have hmem := List.mem_of_getElem? hk
    simp [detour, arrival, remoteNet, Subnet.host] at hmem
  exact ⟨by decide +kernel,
    (host_routes_programmed_iff _ _ detour hok).mpr fun k event hk => hnot _ k event hk⟩

/-- The kernel's own route for the neighbour's address waits for its gateway and goes again. -/
def overridden : List Event :=
  arrival ++ [.route (.host ⟨0x0a000001⟩) .added (some ⟨0x0a000009⟩) (some 5),
    .route (.host ⟨0x0a000001⟩) .removed none none]

/-- A route of the kernel that was never installed takes the neighbour's host route with it. -/
theorem host_route_stripped :
    (∀ k ≤ overridden.length, (following (overridden.take k)).switch.bus.refused = false) ∧
      (following overridden).hosts.get? ⟨0x0a000001⟩ = some ⟨5, ⟨0x52, 0x54, 0, 0, 0, 1⟩, 1⟩ ∧
      (following overridden).switch.routing.routes.get? (.host ⟨0x0a000001⟩) = none ∧
      ¬ ∀ k ≤ overridden.length, (following (overridden.take k)).HostsProgrammed := by
  have hhost : (following overridden).hosts.get? ⟨0x0a000001⟩ =
      some ⟨5, ⟨0x52, 0x54, 0, 0, 0, 1⟩, 1⟩ := by decide +kernel
  have hroute : (following overridden).switch.routing.routes.get? (.host ⟨0x0a000001⟩) = none := by
    decide +kernel
  refine ⟨by decide +kernel, hhost, hroute, fun h => ?_⟩
  have hlast := h overridden.length (Nat.le_refl _)
  rw [List.take_length] at hlast
  exact not_programmed hhost hroute (hlast _)

end ControlPlane.Follower
