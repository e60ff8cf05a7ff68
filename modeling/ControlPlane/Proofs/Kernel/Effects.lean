import ControlPlane.Proofs.Kernel.Steps

/-! # What becomes of an event

One theorem for each kind of event but the news of neighbours, on books that own what is routed and
whatever the device answers: how the follower looks afterwards.

* `Renamed`: an index names another port, or none any more.
* `Announced` and `Removed`: the kernel's word that there is a route, or that there is none any more.
* `Addressed` and `Unaddressed`: a port is given an interface with the host routes that this makes
  possible, or loses its interface with all that is built on it (`Cleared`).

What is said of a loop is said of where it ends, so that other modules can say more of the same loop. -/

namespace ControlPlane.Follower

open Operation (Ends)
open Routing (View)

variable {δ : Type} {refused : δ → Prop} {event : Event} {m m' m'' : Follower δ}

/-- Ports, interfaces and neighbours are as they were. -/
structure Still (m m' : Follower δ) : Prop where
  ports : m'.ports = m.ports
  interfaces : m'.interfaces = m.interfaces
  neighbors : m'.neighbors = m.neighbors

theorem Still.refl (m : Follower δ) : m.Still m := ⟨rfl, rfl, rfl⟩

theorem Still.trans (h : m.Still m') (h' : m'.Still m'') : m.Still m'' :=
  ⟨h'.ports.trans h.ports, h'.interfaces.trans h.interfaces, h'.neighbors.trans h.neighbors⟩

theorem Still.routedPort?_eq (h : m.Still m') (i : IfIndex) : m'.routedPort? i = m.routedPort? i := by
  rw [routedPort?, routedPort?, h.ports, h.interfaces]

theorem Still.resolved?_eq (h : m.Still m') (ip : Ipv4) : m'.resolved? ip = m.resolved? ip := by
  simp only [resolved?, h.neighbors, h.routedPort?_eq]

theorem Rerouted.still {v : View} (h : Rerouted refused m v m') : m.Still m' :=
  ⟨h.ports, h.interfaces, h.neighbors⟩

theorem Rerouted.still_installing {v : View} {subnet : Subnet} {route : InstalledRoute}
    (h : Rerouted refused (m.installing subnet route) v m') : m.Still m' where
  ports := by rw [h.ports, installing_ports]
  interfaces := by rw [h.interfaces, installing_interfaces]
  neighbors := by rw [h.neighbors, installing_neighbors]

/-! ### Parts of the switch that do not route -/

/-- `m'` is `m` but for parts of the switch that do not route. -/
def Elsewhere (m m' : Follower δ) : Prop :=
  m' = { m with
    switch := { m'.switch with board := m.switch.board, routing := m.switch.routing } }

theorem Elsewhere.trans (h : m.Elsewhere m') (h' : m'.Elsewhere m'') : m.Elsewhere m'' := by
  have hb : m'.switch.board = m.switch.board := congrArg (·.switch.board) h
  have hr : m'.switch.routing = m.switch.routing := congrArg (·.switch.routing) h
  rw [Elsewhere] at h' ⊢
  rw [h', hb, hr, h]

theorem Elsewhere.refl (m : Follower δ) : m.Elsewhere m := rfl

theorem Elsewhere.still (h : m.Elsewhere m') : m.Still m' :=
  ⟨congrArg (·.ports) h, congrArg (·.interfaces) h, congrArg (·.neighbors) h⟩

theorem Elsewhere.pending (h : m.Elsewhere m') : m'.pending = m.pending := congrArg (·.pending) h

theorem Elsewhere.installed (h : m.Elsewhere m') : m'.installed = m.installed :=
  congrArg (·.installed) h

theorem Elsewhere.hosts (h : m.Elsewhere m') : m'.hosts = m.hosts := congrArg (·.hosts) h

theorem Elsewhere.owned (h : m.Elsewhere m') (ho : m.Owned) : m'.Owned := by
  rw [h]
  exact ⟨ho.plain, ho.owns⟩

theorem elsewhere_forget (m : Follower δ) (port : PortId) : m.Elsewhere (m.forget port) := by
  unfold Follower.forget
  split <;> rfl

theorem onPorts_ends {α : Type} (op : Operation (Ports × δ) α) :
    Ends (onSwitch (Switch.onPorts op)) m (fun _ m' => m.Elsewhere m') fun _ m' => m.Elsewhere m' :=
  Ends.focus (Ends.focus (Operation.ends_of_forall (fun _ _ => rfl) fun _ _ => rfl))

/-! ### Routes that go -/

/-- Whether an owner is the kernel for one of some subnets, or a neighbour with one of some addresses. -/
def Owner.Among (subnets : List Subnet) (ips : List Ipv4) : Owner → Prop
  | kernel subnet => subnet ∈ subnets
  | neighbor ip => ip ∈ ips

/-- Some routes of the kernel and some host routes have gone from the books and from the tables, with
their egress objects.  What none of their owners has is still there. -/
structure Cleared (subnets : List Subnet) (ips : List Ipv4) (m m' : Follower δ) : Prop where
  rest : m' = { m with installed := m'.installed, hosts := m'.hosts, switch := m'.switch }
  installed : ∀ s, m'.installed.get? s = if s ∈ subnets then none else m.installed.get? s
  hosts : ∀ ip, m'.hosts.get? ip = if ip ∈ ips then none else m.hosts.get? ip
  interface? : m'.view.interface? = m.view.interface?
  egress? : ∀ a e, m'.view.egress? a = some e → m.view.egress? a = some e
  egress?_kept : ∀ a, (∀ o : Owner, o.Among subnets ips → m.record o ≠ some a) →
    m'.view.egress? a = m.view.egress? a
  route? : ∀ s route, m'.view.route? s = some route → m.view.route? s = some route
  route?_kept : ∀ s, (∀ o : Owner, o.Among subnets ips → o.key ≠ s) →
    m'.view.route? s = m.view.route? s

namespace Cleared

variable {subnets subnets' : List Subnet} {ips ips' : List Ipv4}

theorem refl (m : Follower δ) : Cleared [] [] m m :=
  ⟨rfl, by simp, by simp, rfl, fun _ _ => id, fun _ _ => rfl, fun _ _ => id, fun _ _ => rfl⟩

/-- Nothing new is in the books. -/
theorem record_of_cleared (h : Cleared subnets ips m m') {o : Owner} {a : EgressId}
    (ho : m'.record o = some a) : m.record o = some a := by
  cases o with
  | kernel s =>
      obtain ⟨r, hr, rfl⟩ := Option.map_eq_some_iff.mp ho
      rw [h.installed] at hr
      split at hr
      · cases hr
      · simp [record, hr]
  | neighbor ip =>
      obtain ⟨host, hhost, rfl⟩ := Option.map_eq_some_iff.mp ho
      rw [h.hosts] at hhost
      split at hhost
      · cases hhost
      · simp [record, hhost]

theorem among_left {o : Owner} (h : o.Among subnets ips) :
    o.Among (subnets ++ subnets') (ips ++ ips') := by
  cases o with
  | kernel s => exact List.mem_append_left _ h
  | neighbor ip => exact List.mem_append_left _ h

theorem among_right {o : Owner} (h : o.Among subnets' ips') :
    o.Among (subnets ++ subnets') (ips ++ ips') := by
  cases o with
  | kernel s => exact List.mem_append_right _ h
  | neighbor ip => exact List.mem_append_right _ h

theorem trans (h : Cleared subnets ips m m') (h' : Cleared subnets' ips' m' m'') :
    Cleared (subnets ++ subnets') (ips ++ ips') m m'' where
  rest := by rw [h'.rest, h.rest]
  installed s := by
    rw [h'.installed, h.installed]
    simp only [List.mem_append]
    grind
  hosts ip := by
    rw [h'.hosts, h.hosts]
    simp only [List.mem_append]
    grind
  interface? := h'.interface?.trans h.interface?
  egress? a e he := h.egress? a e (h'.egress? a e he)
  egress?_kept a ha :=
    (h'.egress?_kept a fun o ho hr => ha o (among_right ho) (h.record_of_cleared hr)).trans
      (h.egress?_kept a fun o ho => ha o (among_left ho))
  route? s route hs := h.route? s route (h'.route? s route hs)
  route?_kept s hs :=
    (h'.route?_kept s fun o ho => hs o (among_right ho)).trans
      (h.route?_kept s fun o ho => hs o (among_left ho))

theorem still (h : Cleared subnets ips m m') : m.Still m' :=
  ⟨congrArg (·.ports) h.rest, congrArg (·.interfaces) h.rest, congrArg (·.neighbors) h.rest⟩

theorem pending (h : Cleared subnets ips m m') : m'.pending = m.pending :=
  congrArg (·.pending) h.rest

end Cleared

theorem mem_installedOver_iff {egresses : List EgressId} {s : Subnet} :
    s ∈ m.installedOver egresses ↔ ∃ r, m.installed.get? s = some r ∧ r.egress ∈ egresses := by
  simp [installedOver, KeyMap.mem_toList_iff]

theorem mem_hostsOver_iff {egresses : List EgressId} {ip : Ipv4} :
    ip ∈ m.hostsOver egresses ↔ ∃ h, m.hosts.get? ip = some h ∧ h.egress ∈ egresses := by
  simp [hostsOver, KeyMap.mem_toList_iff]

theorem installedOver_nodup (m : Follower δ) (egresses : List EgressId) :
    (m.installedOver egresses).Nodup := by
  unfold installedOver
  refine List.pairwise_map.mpr ((m.installed.toList_sorted.filter _).imp ?_)
  rintro a b hlt he
  rw [he] at hlt
  exact Nat.lt_irrefl _ hlt

/-- A route of the kernel that goes takes nothing else with it. -/
theorem Rerouted.cleared_uninstalled {subnet : Subnet}
    (h : Rerouted refused { m with installed := m.installed.erase subnet }
      ((m.view.setRoute subnet.canon none).drop? (m.record (.kernel subnet))) m') :
    Cleared [subnet] [] m m' where
  rest := by
    rw [h.rest]
    rfl
  installed s := by
    rw [h.installed, KeyMap.get?_erase]
    simp only [List.mem_singleton, eq_comm]
  hosts ip := by
    rw [h.hosts]
    simp
  interface? := by
    rw [h.view_eq]
    simp
  egress? a e he := by
    rw [h.view_eq] at he
    have hd := View.egress?_of_drop? he
    rwa [View.setRoute_egress?] at hd
  egress?_kept a ha := by
    rw [h.view_eq, View.drop?_egress?_of_ne (ha (.kernel subnet) List.mem_cons_self),
      View.setRoute_egress?]
  route? s route hs := by
    rw [h.view_eq, View.drop?_route?] at hs
    exact View.route?_of_setRoute hs
  route?_kept s hs := by
    rw [h.view_eq, View.drop?_route?]
    exact View.setRoute_of_ne _ (Ne.symm (hs (.kernel subnet) List.mem_cons_self))

theorem Rerouted.cleared_unhosted {ip : Ipv4}
    (h : Rerouted refused { m with hosts := m.hosts.erase ip }
      ((m.view.setRoute (.host ip) none).drop? (m.record (.neighbor ip))) m') :
    Cleared [] [ip] m m' where
  rest := by
    rw [h.rest]
    rfl
  installed s := by
    rw [h.installed]
    simp
  hosts a := by
    rw [h.hosts, KeyMap.get?_erase]
    simp only [List.mem_singleton, eq_comm]
  interface? := by
    rw [h.view_eq]
    simp
  egress? a e he := by
    rw [h.view_eq] at he
    have hd := View.egress?_of_drop? he
    rwa [View.setRoute_egress?] at hd
  egress?_kept a ha := by
    rw [h.view_eq, View.drop?_egress?_of_ne (ha (.neighbor ip) List.mem_cons_self),
      View.setRoute_egress?]
  route? s route hs := by
    rw [h.view_eq, View.drop?_route?] at hs
    exact View.route?_of_setRoute hs
  route?_kept s hs := by
    rw [h.view_eq, View.drop?_route?]
    exact View.setRoute_of_ne _ (Ne.symm (hs (.neighbor ip) List.mem_cons_self))

/-- Once all routes over an interface have gone, no egress object is built on it. -/
theorem Cleared.not_built {id : InterfaceId} {egresses : List EgressId}
    (h : Cleared (m.installedOver egresses) (m.hostsOver egresses) m m') (ho : m'.Owned)
    (he : egresses = m.switch.routing.egressesOn id) :
    ¬ ∃ a e, m'.view.egress? a = some e ∧ e.interface = id := by
  rintro ⟨a, e, ha, hid⟩
  have hmem : a ∈ egresses := by
    rw [he]
    exact Routing.mem_egressesOn_iff.mpr ⟨e, h.egress? a e ha, hid⟩
  obtain ⟨o, howner⟩ := (ho.owns.live_iff a).mp (by simp [ha])
  cases o with
  | kernel s =>
      obtain ⟨r, hr, rfl⟩ := Option.map_eq_some_iff.mp howner
      rw [h.installed] at hr
      split at hr
      · cases hr
      · rename_i hnot
        exact hnot (mem_installedOver_iff.mpr ⟨r, hr, hmem⟩)
  | neighbor ip =>
      obtain ⟨host, hhost, rfl⟩ := Option.map_eq_some_iff.mp howner
      rw [h.hosts] at hhost
      split at hhost
      · cases hhost
      · rename_i hnot
        exact hnot (mem_hostsOver_iff.mpr ⟨host, hhost, hmem⟩)

/-! ### Names of ports -/

/-- The port that an interface's name stands for on the switch's board. -/
def named? (m : Follower δ) (name : String) : Option PortId := m.switch.board.named? name

theorem has_of_named? {name : String} {port : PortId} (h : m.named? name = some port) :
    m.switch.board.Has port := by
  simpa using (Option.filter_eq_some_iff.mp h).2

/-- `m'` is `m` with an index naming another port or none, but for parts that do not route. -/
structure Renamed (m : Follower δ) (i : IfIndex) (port? : Option PortId) (m' : Follower δ) :
    Prop where
  rest : m' = { m with
    ports := m'.ports
    switch := { m'.switch with board := m.switch.board, routing := m.switch.routing } }
  ports : ∀ k, m'.ports.get? k = if i = k then port? else m.ports.get? k

namespace Renamed

variable {i : IfIndex} {port? : Option PortId}

theorem trans (h : m.Renamed i port? m') (h' : m'.Elsewhere m'') : m.Renamed i port? m'' where
  rest := by
    have hb : m'.switch.board = m.switch.board := congrArg (·.switch.board) h.rest
    have hr : m'.switch.routing = m.switch.routing := congrArg (·.switch.routing) h.rest
    rw [Elsewhere, hb, hr] at h'
    rw [h', h.rest]
  ports := by
    have hp : m''.ports = m'.ports := congrArg (·.ports) h'
    rw [hp]
    exact h.ports

theorem interfaces (h : m.Renamed i port? m') : m'.interfaces = m.interfaces :=
  congrArg (·.interfaces) h.rest

theorem neighbors (h : m.Renamed i port? m') : m'.neighbors = m.neighbors :=
  congrArg (·.neighbors) h.rest

theorem pending (h : m.Renamed i port? m') : m'.pending = m.pending := congrArg (·.pending) h.rest

theorem installed (h : m.Renamed i port? m') : m'.installed = m.installed :=
  congrArg (·.installed) h.rest

/-- Other indices are routed as before, and this one if what it names now has an interface. -/
theorem routed_iff (h : m.Renamed i port? m') (k : IfIndex) :
    m'.routedPort? k ≠ none ↔
      if i = k then ∃ port, port? = some port ∧ m.interfaces.get? port ≠ none
      else m.routedPort? k ≠ none := by
  rw [routedPort?_ne_none_iff, routedPort?_ne_none_iff, h.ports, h.interfaces]
  split <;> rfl

end Renamed

/-- The follower with an index naming another port or none. -/
def naming (m : Follower δ) (i : IfIndex) : Option PortId → Follower δ
  | none => { m with ports := m.ports.erase i }
  | some port => { m with ports := m.ports.insert i port }

theorem renamed_naming (m : Follower δ) (i : IfIndex) (port? : Option PortId) :
    m.Renamed i port? (m.naming i port?) := by
  cases port? with
  | none => exact ⟨rfl, fun k => KeyMap.get?_erase m.ports i k⟩
  | some port => exact ⟨rfl, fun k => KeyMap.get?_insert m.ports i port k⟩

/-- The follower once an index names what a name stands for.  The port that it has named is forgotten,
unless that is the same. -/
def relinked (m : Follower δ) (i : IfIndex) (name : String) : Follower δ :=
  match m.ports.get? i with
  | none => m.naming i (m.named? name)
  | some old =>
    if m.named? name = some old then m.naming i (m.named? name)
    else (m.naming i (m.named? name)).forget old

theorem renamed_relinked (m : Follower δ) (i : IfIndex) (name : String) :
    m.Renamed i (m.named? name) (m.relinked i name) := by
  have hrenamed := m.renamed_naming i (m.named? name)
  unfold relinked
  split
  · exact hrenamed
  · split
    · exact hrenamed
    · exact hrenamed.trans (elsewhere_forget _ _)

theorem linkRemoved_ends (i : IfIndex) :
    Ends (linkRemoved i) m (fun _ m' => m.Renamed i none m') fun _ _ => False := by
  refine Ends.bind (Operation.ends_get ?_)
  cases hport : m.ports.get? i with
  | none =>
      refine Operation.ends_pure ⟨rfl, fun k => ?_⟩
      split
      · rename_i he
        rw [← he, hport]
      · rfl
  | some port =>
      exact Ends.bind (Operation.ends_set (Operation.ends_pure
        ((m.renamed_naming i none).trans (elsewhere_forget _ port))))

variable [Bus δ]

/-- What a link event does with the port that its index names: the port is watched, and enabled as told. -/
def setLink (port : PortId) (up : Bool) : Operation (Follower δ) EventOutcome := do
  modify fun m => { m with switch := m.switch.watchPort port true }
  onSwitch (Switch.setPortEnabled port up)
  return .applied

/-- A link event has the index name what the name stands for, and then sets the link of that port. -/
theorem link_eq (m : Follower δ) (i : IfIndex) (name : String) (up : Bool) :
    link i name up m =
      match m.named? name with
      | none => .ok .ignored (m.relinked i name)
      | some port => setLink port up (m.relinked i name) := by
  refine (Operation.bind_ok rfl).trans ?_
  unfold relinked named?
  dsimp only
  cases hnamed : m.switch.board.named? name with
  | none => cases m.ports.get? i <;> rfl
  | some port =>
      cases m.ports.get? i with
      | none => rfl
      | some old =>
          by_cases hsame : old = port
          · subst hsame
            simp only [if_true]
            rfl
          · have hother : ¬ some port = some old := fun he => hsame (Option.some.inj he).symm
            simp only [if_neg hsame, if_neg hother]
            rfl

theorem link_ends (i : IfIndex) (name : String) (up : Bool) :
    Ends (link i name up) m (fun _ m' => m.Renamed i (m.named? name) m')
      fun _ m' => m.Renamed i (m.named? name) m' := by
  have hrenamed := m.renamed_relinked i name
  have heq := m.link_eq i name up
  cases hnamed : m.named? name with
  | none =>
      rw [hnamed] at heq hrenamed
      exact Operation.ends_ok heq hrenamed
  | some port =>
      rw [hnamed] at heq hrenamed
      refine Ends.of_eq (Ends.bind (Operation.ends_modify (Ends.bind ?_))) heq
      have hwatched : m.Renamed i (some port)
          { m.relinked i name with switch := (m.relinked i name).switch.watchPort port true } :=
        hrenamed.trans rfl
      exact (onPorts_ends _).mono (fun _ _ he => Operation.ends_pure (hwatched.trans he))
        fun _ _ he => hwatched.trans he

/-! ### Routes of the kernel -/

/-- `m'` is `m` without the route that was installed for a subnet, if one was. -/
def Vacated (refused : δ → Prop) (m : Follower δ) (subnet : Subnet) (m' : Follower δ) : Prop :=
  m' = m ∧ m.installed.get? subnet = none ∨ m.installed.get? subnet ≠ none ∧
    Rerouted refused { m with installed := m.installed.erase subnet }
      ((m.view.setRoute subnet.canon none).drop? (m.record (.kernel subnet))) m'

omit [Bus δ] in
theorem Vacated.rest {subnet : Subnet} (h : m.Vacated refused subnet m') :
    m.Still m' ∧ m'.pending = m.pending ∧ m'.hosts = m.hosts ∧
      m'.installed.get? = (m.installed.erase subnet).get? := by
  rcases h with ⟨rfl, hnone⟩ | ⟨-, hr⟩
  · refine ⟨.refl _, rfl, rfl, ?_⟩
    funext s
    rw [KeyMap.get?_erase]
    split
    · rename_i he
      rw [← he, hnone]
    · rfl
  · exact ⟨⟨hr.ports, hr.interfaces, hr.neighbors⟩, hr.pending, hr.hosts, by rw [hr.installed]⟩

/-- What becomes of the kernel's word that there is a route, unless it fails. -/
inductive Announced (refused : δ → Prop) (m : Follower δ) (subnet : Subnet)
    (gateway : Option Ipv4) (via : Option IfIndex) : Follower δ → Prop where
  /-- It has no gateway, or leads out of no port. -/
  | ignored (h : gateway = none ∨ via.bind m.ports.get? = none) :
      Announced refused m subnet gateway via m
  | installed {hop mac rp id slot} {m' : Follower δ} (hg : gateway = some hop.gateway)
      (hv : via = some hop.via) (hn : m.neighbors.get? ⟨hop.gateway, hop.via⟩ = some mac)
      (hrp : m.routedPort? hop.via = some rp) (hf : m.view.Fresh subnet.canon id slot)
      (h : Rerouted refused (m.installing subnet ⟨hop, id⟩)
        (m.viewInstalling subnet ⟨mac, rp.port, rp.interface⟩ id slot) m') :
      Announced refused m subnet gateway via m'
  /-- Its gateway has no address yet.  What was installed for the subnet has gone. -/
  | pended {hop} {m₁ : Follower δ} (hg : gateway = some hop.gateway) (hv : via = some hop.via)
      (hn : m.neighbors.get? ⟨hop.gateway, hop.via⟩ = none) (h : m.Vacated refused subnet m₁) :
      Announced refused m subnet gateway via
        { m₁ with pending := m₁.pending.insert subnet hop }

/-- It fails only where the port has no interface, or no egress object can be provided. -/
theorem routeAdded_ends (ht : Bus.Tells refused) (h : m.Owned) (subnet : Subnet)
    (gateway : Option Ipv4) (via : Option IfIndex) :
    Ends (routeAdded subnet gateway via) m
      (fun outcome m' => outcome ≠ .failed ∧ m.Announced refused subnet gateway via m')
      fun _ m' => Rerouted refused m m.view m' ∧ ∀ rp, via.bind m.routedPort? = some rp →
        m.Obstructed refused rp subnet.canon m' := by
  unfold routeAdded
  refine Ends.bind (Operation.ends_get ?_)
  cases gateway with
  | none => exact Operation.ends_pure ⟨by decide, .ignored (.inl rfl)⟩
  | some gateway =>
  cases via with
  | none => exact Operation.ends_pure ⟨by decide, .ignored (.inr rfl)⟩
  | some via =>
  dsimp only
  cases hport : m.ports.get? via with
  | none => exact Operation.ends_pure ⟨by decide, .ignored (.inr hport)⟩
  | some port =>
  dsimp only
  cases hid : m.interfaces.get? port with
  | none => exact Operation.ends_throw ⟨.refl h.plain, by simp [routedPort?, hport, hid]⟩
  | some id =>
  dsimp only
  cases hmac : m.neighbors.get? ⟨gateway, via⟩ with
  | some mac =>
      have hrp : m.routedPort? via = some ⟨port, id⟩ := by simp [routedPort?, hport, hid]
      refine Ends.bind ((install_ends ht h subnet ⟨gateway, via⟩ ⟨port, id⟩ mac).mono ?_ ?_)
      · rintro _ m' ⟨egress, slot, hf, hr⟩
        exact Operation.ends_pure ⟨by decide, .installed rfl rfl hmac hrp hf hr⟩
      · rintro _ m' ⟨hr, hwhy⟩
        refine ⟨hr, fun rp hrp' => ?_⟩
        rw [Option.bind_some, hrp] at hrp'
        cases hrp'
        exact hwhy
  | none =>
      dsimp only
      by_cases hin : m.installed.contains subnet = true
      · simp only [hin, if_true]
        refine Ends.bind ((withdraw_ends ht h subnet).mono ?_ fun _ _ he => he.elim)
        intro _ m₁ hr
        have hs : m.installed.get? subnet ≠ none := by
          obtain ⟨route, hroute⟩ := (KeyMap.contains_iff _ _).mp hin
          simp [hroute]
        exact Ends.bind (Operation.ends_modify (Operation.ends_pure
          ⟨by decide, .pended rfl rfl hmac (.inr ⟨hs, hr⟩)⟩))
      · simp only [hin, if_false, Bool.false_eq_true]
        have hnot : m.installed.get? subnet = none := by simpa [KeyMap.contains] using hin
        exact Ends.bind (Operation.ends_modify (Operation.ends_pure
          ⟨by decide, .pended rfl rfl hmac (.inl ⟨rfl, hnot⟩)⟩))

/-- What becomes of the kernel's word that a route is gone. -/
inductive Removed (refused : δ → Prop) (m : Follower δ) (subnet : Subnet) : Follower δ → Prop where
  /-- There was no such route; it may have been pending. -/
  | nothing {m' : Follower δ} (hv : m.view.route? subnet.canon = none)
      (hi : m.installed.get? subnet = none)
      (h : Rerouted refused { m with pending := m.pending.erase subnet } m.view m') :
      Removed refused m subnet m'
  /-- The route is removed; that of a single address may give way to the neighbour's. -/
  | route {m₁ m' : Follower δ}
      (hfound : m.view.route? subnet.canon ≠ none ∨ m.installed.get? subnet ≠ none)
      (h : Rerouted refused
        { m with pending := m.pending.erase subnet, installed := m.installed.erase subnet }
        ((m.view.setRoute subnet.canon none).drop? (m.record (.kernel subnet))) m₁)
      (hrest : if subnet.len = 32 then m₁.Restored refused subnet.addr m' else m' = m₁) :
      Removed refused m subnet m'

section

omit [Bus δ]

variable {ip : Ipv4} {subnet : Subnet}

theorem Restored.still (h : m.Restored refused ip m') : m.Still m' := by
  cases h with
  | unresolved hr => exact .refl m
  | unwanted hr hw => exact .refl m
  | hosted hr hw hf h => exact ⟨h.ports, h.interfaces, h.neighbors⟩
  | failed hr hw h ho => exact h.still

theorem Restored.pending (h : m.Restored refused ip m') : m'.pending = m.pending := by
  cases h with
  | unresolved hr => rfl
  | unwanted hr hw => rfl
  | hosted hr hw hf h => exact h.pending
  | failed hr hw h ho => exact h.pending

theorem Restored.installed (h : m.Restored refused ip m') : m'.installed = m.installed := by
  cases h with
  | unresolved hr => rfl
  | unwanted hr hw => rfl
  | hosted hr hw hf h => exact h.installed
  | failed hr hw h ho => exact h.installed

/-- Where a route was removed, all that may have come after is a host route. -/
theorem Removed.rest (h : m.Removed refused subnet m') :
    m.Still m' ∧ m'.pending = m.pending.erase subnet ∧
      m'.installed.get? = (m.installed.erase subnet).get? := by
  cases h with
  | nothing hv hi h =>
      refine ⟨⟨h.ports, h.interfaces, h.neighbors⟩, h.pending, ?_⟩
      funext s
      rw [h.installed, KeyMap.get?_erase]
      split
      · rename_i he
        rw [← he, hi]
      · rfl
  | @route m₁ _ hfound h hrest =>
      have hstill : m.Still m₁ := ⟨h.ports, h.interfaces, h.neighbors⟩
      split at hrest
      · refine ⟨hstill.trans hrest.still, hrest.pending.trans h.pending, ?_⟩
        rw [hrest.installed, h.installed]
      · rw [hrest]
        exact ⟨hstill, h.pending, by rw [h.installed]⟩

end

theorem routeRemoved_ends (ht : Bus.Tells refused) (h : m.Owned) (subnet : Subnet) :
    Ends (routeRemoved subnet) m (fun _ m' => m.Removed refused subnet m') fun _ _ => False := by
  unfold routeRemoved
  refine Ends.bind (Operation.ends_get (Ends.bind (Operation.ends_set ?_)))
  refine Ends.bind ((removeRoute_ends ht (m := { m with pending := m.pending.erase subnet }) h.plain
    subnet).mono ?_ fun _ _ he => he.elim)
  rintro there m₁ ⟨hthere, h1⟩
  by_cases hfound : (there || m.installed.contains subnet) = true
  · rw [if_pos hfound]
    have hwas : m.view.route? subnet.canon ≠ none ∨ m.installed.get? subnet ≠ none := by
      rw [Bool.or_eq_true, hthere, KeyMap.contains_iff, ← Option.ne_none_iff_exists'] at hfound
      exact hfound
    refine Ends.bind ((dropInstalled_ends ht h1.plain ?_).mono ?_ fun _ _ he => he.elim)
    · intro id ho
      rw [h1.record_eq] at ho
      rw [h1.view_eq]
      exact h.owns.not_routed_unroute (o := .kernel subnet) ho
    · intro _ m₂ h2
      rw [h1.record_eq, h1.view_eq] at h2
      have h2 := (h1.book (fun m => { m with installed := m.installed.erase subnet })
        (fun _ _ _ => rfl) fun _ => rfl).trans h2
      have howned : m₂.Owned := by
        refine h2.owned ?_
        have hrec := record_uninstalled { m with pending := m.pending.erase subnet } subnet
        dsimp only at hrec
        rw [hrec]
        exact h.owns.forget (.kernel subnet)
      by_cases hlen : subnet.len = 32
      · rw [if_pos hlen]
        refine Ends.bind ((restoreHost_ends ht howned subnet.addr).mono ?_ fun _ _ he => he.elim)
        intro _ m₃ h3
        exact Operation.ends_pure (.route hwas h2 (by rwa [if_pos hlen]))
      · rw [if_neg hlen]
        exact Ends.bind (Operation.ends_pure
          (Operation.ends_pure (.route hwas h2 (by rw [if_neg hlen]))))
  · rw [if_neg hfound]
    simp only [Bool.or_eq_true, not_or, hthere, not_not] at hfound
    obtain ⟨hv, hi⟩ := hfound
    have h1 : Rerouted refused { m with pending := m.pending.erase subnet } m.view m₁ :=
      ⟨h1.rest, h1.plain, h1.view_eq.trans (View.setRoute_eq_self hv), h1.persists⟩
    have hi : m.installed.get? subnet = none := by simpa [KeyMap.contains] using hi
    split
    · exact Operation.ends_pure (.nothing hv hi h1)
    · exact Operation.ends_pure (.nothing hv hi h1)

/-! ### Addresses of ports -/

/-- The host routes of some neighbours that a port reaches. -/
def lodge (rp : RoutedPort) (found : List (Neighbor × MacAddr)) : Operation (Follower δ) Unit :=
  Operation.forAll (fun (n, mac) => tryTo (installHost n rp mac)) found

omit [Bus δ] in
theorem mem_neighborsOn_iff {port : PortId} {n : Neighbor} {mac : MacAddr} :
    (n, mac) ∈ m.neighborsOn port ↔
      m.neighbors.get? n = some mac ∧ m.ports.get? n.ifindex = some port := by
  simp [neighborsOn, KeyMap.mem_toList_iff]

/-- What becomes of an address that a port is given, unless it fails. -/
inductive Addressed (refused : δ → Prop) (m : Follower δ) (i : IfIndex) : Follower δ → Prop where
  /-- The index names no port, or the port has an interface. -/
  | ignored (h : ∀ port, m.ports.get? i = some port → m.interfaces.get? port ≠ none) :
      Addressed refused m i m
  | made {port id face} {m₁ m' : Follower δ} (hport : m.ports.get? i = some port)
      (hnone : m.interfaces.get? port = none) (hid : m.view.interface? id = none)
      (h : Rerouted refused { m with interfaces := m.interfaces.insert port id }
        (m.view.setInterface id (some face)) m₁)
      (hs : lodge ⟨port, id⟩ (m.neighborsOn port) m₁ = .ok () m')
      (hface : face = ⟨m.switch.board.macOf port, 0⟩) : Addressed refused m i m'

theorem addressAdded_ends (ht : Bus.Tells refused) (h : m.Owned) (i : IfIndex) :
    Ends (addressAdded i) m (fun _ m' => m.Addressed refused i m')
      fun _ m' => Rerouted refused m m.view m' ∧
        (refused m'.switch.bus ∨ m.view.InterfacesFull) := by
  unfold addressAdded
  refine Ends.bind (Operation.ends_get ?_)
  cases hport : m.ports.get? i with
  | none => exact Operation.ends_pure (.ignored fun port hp => by rw [hport] at hp; cases hp)
  | some port =>
  dsimp only
  by_cases hin : m.interfaces.contains port = true
  · rw [if_pos hin]
    refine Operation.ends_pure (.ignored fun port' hp => ?_)
    rw [hport] at hp
    cases hp
    obtain ⟨id, hid⟩ := (KeyMap.contains_iff _ _).mp hin
    simp [hid]
  · rw [if_neg hin]
    have hnone : m.interfaces.get? port = none := by simpa [KeyMap.contains] using hin
    refine Ends.bind (onRouting_ends ((Routing.createInterface_shows ht h.plain _ _).mono ?_ ?_))
    · rintro id t ⟨hid, hs⟩
      have hr := (Rerouted.of_shows hs).book
        (fun m => { m with interfaces := m.interfaces.insert port id }) (fun _ _ _ => rfl) fun _ => rfl
      refine Ends.bind (Operation.ends_modify (Ends.bind ?_))
      obtain ⟨m', hm'⟩ := forAll_tryTo_answers
        (fun (found : Neighbor × MacAddr) => installHost found.1 ⟨port, id⟩ found.2)
        (m.neighborsOn port) { m.reroute t.1 t.2 with interfaces := m.interfaces.insert port id }
      exact Operation.ends_ok hm' (Operation.ends_pure (.made hport hnone hid hr hm' rfl))
    · rintro e t ⟨hs, hwhy⟩
      refine ⟨.of_shows hs, hwhy.imp_right fun hwhy => hwhy.resolve_left ?_⟩
      exact not_not_intro (by decide)

/-- Withdrawing routes that are installed, each once. -/
theorem withdrawAll_ends (event : Event) (ht : Bus.Tells refused) {subnets : List Subnet}
    (h : m.Owned) (hnodup : subnets.Nodup) (hs : ∀ s ∈ subnets, m.installed.get? s ≠ none) :
    Ends (Operation.forAll withdraw subnets) m
      (fun _ m' => Steps refused event m m' ∧ Cleared subnets [] m m' ∧ m'.hosts = m.hosts)
      fun _ _ => False := by
  induction subnets generalizing m with
  | nil => exact Operation.ends_ok rfl ⟨.refl, .refl m, rfl⟩
  | cons s ss ih =>
      obtain ⟨hnot, hnodup⟩ := List.nodup_cons.mp hnodup
      have hstep := withdraw_ends ht h s
      cases hop : withdraw s m with
      | error e m₁ => exact (hstep.of_error hop).elim
      | ok u m₁ =>
          have hr := hstep.of_ok hop
          have hone : Step refused event m m₁ := .withdrawn (hs s List.mem_cons_self) hr
          have hrest (a : Subnet) (ha : a ∈ ss) : m₁.installed.get? a ≠ none := by
            have hne : s ≠ a := fun he => hnot (he ▸ ha)
            rw [hr.installed, KeyMap.get?_erase_of_ne _ hne]
            exact hs a (List.mem_cons_of_mem _ ha)
          refine Ends.of_eq ?_ (by simp only [Operation.forAll, hop]; rfl)
          refine (ih (hone.owned h) hnodup hrest).mono ?_ fun _ _ he => he
          rintro _ m₂ ⟨hss, hc, hhosts⟩
          exact ⟨.head hone hss, hr.cleared_uninstalled.trans hc, hhosts.trans hr.hosts⟩

theorem withdrawHost_cleared (event : Event) (ht : Bus.Tells refused) (h : m.Owned) (ip : Ipv4) :
    Ends (withdrawHost ip) m (fun _ m' => Steps refused event m m' ∧ Cleared [] [ip] m m')
      fun _ _ => False := by
  refine (withdrawHost_ends ht h ip).mono ?_ fun _ _ he => he
  rintro _ m' (⟨-, hnone, rfl⟩ | ⟨-, hip, hr⟩)
  · refine ⟨.refl, rfl, by simp, fun a => ?_, rfl, fun _ _ => id, fun _ _ => rfl, fun _ _ => id,
      fun _ _ => rfl⟩
    simp only [List.mem_singleton]
    split
    · rename_i he
      rw [he, hnone]
    · rfl
  · exact ⟨.single (.unhosted hip hr), hr.cleared_unhosted⟩

theorem withdrawHosts_ends (event : Event) (ht : Bus.Tells refused) (h : m.Owned)
    (ips : List Ipv4) :
    Ends (Operation.forAll (fun ip => do let _ ← withdrawHost ip) ips) m
      (fun _ m' => Steps refused event m m' ∧ Cleared [] ips m m') fun _ _ => False := by
  induction ips generalizing m with
  | nil => exact Operation.ends_ok rfl ⟨.refl, .refl m⟩
  | cons ip ips ih =>
      have hstep := withdrawHost_cleared event ht h ip
      cases hop : withdrawHost ip m with
      | error e m₁ => exact (hstep.of_error hop).elim
      | ok there m₁ =>
          obtain ⟨hone, hc⟩ := hstep.of_ok hop
          have hdone : (do let _ ← withdrawHost ip : Operation (Follower δ) Unit) m = .ok () m₁ :=
            Operation.bind_ok hop
          refine Ends.of_eq ?_ (by simp only [Operation.forAll, hdone]; rfl)
          refine (ih (hone.owned h)).mono ?_ fun _ _ he => he
          rintro _ m₂ ⟨hss, hc'⟩
          exact ⟨hone.trans hss, hc.trans hc'⟩

/-- What becomes of an address that a port loses: its interface goes, with all that is built on it. -/
inductive Unaddressed (refused : δ → Prop) (m : Follower δ) (i : IfIndex) : Follower δ → Prop where
  /-- The index names no port with an interface. -/
  | ignored (h : m.routedPort? i = none) : Unaddressed refused m i m
  | cleared {port id} {m₁ m' : Follower δ} (hrp : m.routedPort? i = some ⟨port, id⟩)
      (hc : Cleared (m.installedOver (m.switch.routing.egressesOn id))
        (m.hostsOver (m.switch.routing.egressesOn id)) m m₁)
      (h : Rerouted refused { m₁ with interfaces := m₁.interfaces.erase port }
        (m₁.view.setInterface id none) m') : Unaddressed refused m i m'

/-- It fails only where the port's interface is not there. -/
theorem addressRemoved_ends (event : Event) (ht : Bus.Tells refused) (h : m.Owned) (i : IfIndex) :
    Ends (addressRemoved i) m
      (fun _ m' => Steps refused event m m' ∧ m.Unaddressed refused i m')
      fun _ m' => Steps refused event m m' ∧
        ∃ rp, m.routedPort? i = some rp ∧ m.view.interface? rp.interface = none := by
  unfold addressRemoved
  refine Ends.bind (Operation.ends_get ?_)
  cases hrp : m.routedPort? i with
  | none => exact Operation.ends_pure ⟨.refl, .ignored hrp⟩
  | some rp =>
      obtain ⟨port, id⟩ := rp
      dsimp only
      generalize hon : m.switch.routing.egressesOn id = egresses
      refine Ends.bind ((withdrawAll_ends event ht h (m.installedOver_nodup egresses) ?_).mono ?_
        fun _ _ he => he.elim)
      · intro s hs
        obtain ⟨r, hr, -⟩ := mem_installedOver_iff.mp hs
        simp [hr]
      rintro _ m₁ ⟨hs₁, hc₁, hhosts⟩
      refine Ends.bind (Operation.ends_get (Ends.bind ?_))
      rw [show m₁.hostsOver egresses = m.hostsOver egresses by rw [hostsOver, hostsOver, hhosts]]
      refine (withdrawHosts_ends event ht (hs₁.owned h) _).mono ?_ fun _ _ he => he.elim
      rintro _ m₂ ⟨hs₂, hc₂⟩
      have hs₂ : Steps refused event m m₂ := hs₁.trans hs₂
      have hc₂ := hc₁.trans hc₂
      rw [List.append_nil, List.nil_append] at hc₂
      have howned : m₂.Owned := hs₂.owned h
      refine Ends.bind (onRouting_ends
        ((Routing.destroyInterface_shows ht howned.plain id).mono ?_ ?_))
      · intro _ t hs
        have hport : m₂.interfaces.get? port = some id := by
          rw [hc₂.still.interfaces]
          exact (routedPort?_eq_some_iff.mp hrp).2
        have hr := (Rerouted.of_shows hs).book
          (fun m => { m with interfaces := m.interfaces.erase port }) (fun _ _ _ => rfl) fun _ => rfl
        refine Ends.bind (Operation.ends_modify (Operation.ends_pure
          ⟨hs₂.tail (.interfaceRemoved hport hr), ?_⟩))
        subst hon
        exact .cleared hrp hc₂ hr
      · rintro e t ⟨rfl, hnone | hbuilt⟩
        · refine ⟨hs₂, ⟨port, id⟩, rfl, ?_⟩
          rw [← hc₂.interface?]
          exact hnone
        · exact absurd hbuilt (hc₂.not_built howned hon.symm)

end ControlPlane.Follower
