import ControlPlane.Proofs.Kernel.Ownership

/-! # Installing and withdrawing

What is installed and withdrawn, for the kernel's routes and for the neighbours' host routes, said
exactly: what is written in the books and what is routed then.  The books own what is routed before and
after (`Rerouted.owned`).

* **Withdrawing** cannot fail (`withdraw_ends`, `withdrawHost_ends`): the route goes first, so nothing
  leads to the egress object any more.
* **Installing** gives an owner a new egress object for its old one, or changes nothing
  (`install_ends`, `installHost_ends`).  The kernel's route for a single address also takes the place of
  the host route. -/

namespace ControlPlane.Follower

open Operation (Ends)
open Routing (View)

variable {δ : Type} {refused : δ → Prop} {m m' : Follower δ} {v : View}

theorem Rerouted.record_eq (h : Rerouted refused m v m') : m'.record = m.record := by
  funext o
  cases o with
  | kernel s => exact congrArg (fun l => (KeyMap.get? l s).map InstalledRoute.egress) h.installed
  | neighbor ip => exact congrArg (fun l => (KeyMap.get? l ip).map HostRoute.egress) h.hosts

/-- The books own what is routed now if, as they are, they own the new view. -/
theorem Rerouted.owned (h : Rerouted refused m v m') (ho : Owns m.record v) : m'.Owned where
  plain := h.plain
  owns := by rwa [h.record_eq, h.view_eq]

/-! ### What installing writes in the books -/

/-- The follower without a host route that the kernel's route for a subnet takes the place of. -/
def superseding (m : Follower δ) (subnet : Subnet) : Follower δ :=
  if subnet.len = 32 then { m with hosts := m.hosts.erase subnet.addr } else m

/-- The egress object of that host route. -/
def superseded (m : Follower δ) (subnet : Subnet) : Option EgressId :=
  if subnet.len = 32 then m.record (.neighbor subnet.addr) else none

theorem superseding_reroute (m : Follower δ) (subnet : Subnet) (r : Routing) (bus : δ) :
    (m.reroute r bus).superseding subnet = (m.superseding subnet).reroute r bus := by
  unfold superseding
  split <;> rfl

@[simp] theorem superseding_switch (m : Follower δ) (subnet : Subnet) :
    (m.superseding subnet).switch = m.switch := by
  unfold superseding
  split <;> rfl

@[simp] theorem superseding_installed (m : Follower δ) (subnet : Subnet) :
    (m.superseding subnet).installed = m.installed := by
  unfold superseding
  split <;> rfl

/-- A host route that the kernel's route takes the place of has that route's key. -/
theorem key_of_superseded {subnet : Subnet} {id : EgressId} (h : m.superseded subnet = some id) :
    m.record (.neighbor subnet.addr) = some id ∧ Owner.key (.neighbor subnet.addr) = subnet.canon := by
  unfold superseded at h
  split at h
  · rename_i hlen
    refine ⟨h, ?_⟩
    rw [subnet.canon_of_len hlen, Owner.key, ← subnet.eq_host_of_len hlen]
  · cases h

/-- The follower with a route of the kernel entered as installed. -/
def installing (m : Follower δ) (subnet : Subnet) (route : InstalledRoute) : Follower δ :=
  let m := { m with pending := m.pending.erase subnet }.superseding subnet
  { m with installed := m.installed.insert subnet route }

/-- What is routed once a route of the kernel has been installed with a new egress object. -/
def viewInstalling (m : Follower δ) (subnet : Subnet) (e : Egress) (id : EgressId)
    (slot : RouteSlot) : View :=
  ((m.view.provide subnet.canon e id slot).drop? (m.superseded subnet)).drop?
    (m.record (.kernel subnet))

section installing

variable (m : Follower δ) (subnet : Subnet) (route : InstalledRoute)

@[simp] theorem installing_ports : (m.installing subnet route).ports = m.ports := by
  unfold installing superseding
  split <;> rfl

@[simp] theorem installing_interfaces : (m.installing subnet route).interfaces = m.interfaces := by
  unfold installing superseding
  split <;> rfl

@[simp] theorem installing_neighbors : (m.installing subnet route).neighbors = m.neighbors := by
  unfold installing superseding
  split <;> rfl

@[simp] theorem installing_switch : (m.installing subnet route).switch = m.switch := by
  unfold installing superseding
  split <;> rfl

@[simp] theorem installing_pending :
    (m.installing subnet route).pending = m.pending.erase subnet := by
  unfold installing superseding
  split <;> rfl

@[simp] theorem installing_installed :
    (m.installing subnet route).installed = m.installed.insert subnet route := by
  unfold installing superseding
  split <;> rfl

theorem installing_hosts (ip : Ipv4) :
    (m.installing subnet route).hosts.get? ip =
      if subnet = .host ip then none else m.hosts.get? ip := by
  unfold installing superseding
  by_cases hs : subnet = .host ip
  · subst hs
    simp [Subnet.host]
  · rw [if_neg hs]
    split
    · rename_i hlen
      refine KeyMap.get?_erase_of_ne _ fun he => hs ?_
      rw [subnet.eq_host_of_len hlen, he]
    · rfl

end installing

theorem record_superseding (m : Follower δ) (subnet : Subnet) :
    (m.superseding subnet).record =
      if subnet.len = 32 then Function.update m.record (.neighbor subnet.addr) none else m.record := by
  unfold superseding
  split
  · exact record_unhosted m subnet.addr
  · rfl

/-- A route that is installed gives the kernel the new egress object, for all those of its key. -/
theorem Owned.installing (h : m.Owned) {subnet : Subnet} {hop : NextHop} {id : EgressId}
    {slot : RouteSlot} {e : Egress} (hf : m.view.Fresh subnet.canon id slot) :
    Owns (m.installing subnet ⟨hop, id⟩).record (m.viewInstalling subnet e id slot) := by
  have htake := h.owns.take (o := .kernel subnet) (e := e) hf
  rw [Follower.installing, record_installed, record_superseding, viewInstalling]
  unfold superseded
  split
  · rename_i hlen
    have hne := Owner.neighbor_ne_kernel subnet.addr subnet
    have hk : (Owner.neighbor subnet.addr).key = subnet.canon := by
      rw [subnet.canon_of_len hlen, Owner.key, ← subnet.eq_host_of_len hlen]
    rw [Function.update_comm hne, View.drop?_comm]
    have hdrop := htake.drop (o := .neighbor subnet.addr) fun a ha => by
      rw [Function.update_of_ne hne] at ha
      rw [View.routed_drop?_iff]
      exact h.owns.not_routed_provide hf hk ha
    rwa [Function.update_of_ne hne] at hdrop
  · exact htake

/-- The follower with the host route of a neighbour entered. -/
def hosting (m : Follower δ) (n : Neighbor) (mac : MacAddr) (id : EgressId) : Follower δ :=
  { m with hosts := m.hosts.insert n.ip ⟨n.ifindex, mac, id⟩ }

/-- What is routed once a neighbour's host route has been installed with a new egress object. -/
def viewHosting (m : Follower δ) (ip : Ipv4) (e : Egress) (id : EgressId) (slot : RouteSlot) : View :=
  (m.view.provide (.host ip) e id slot).drop? (m.record (.neighbor ip))

theorem Owned.hosting (h : m.Owned) {n : Neighbor} {mac : MacAddr} {id : EgressId}
    {slot : RouteSlot} {e : Egress} (hf : m.view.Fresh (.host n.ip) id slot) :
    Owns (m.hosting n mac id).record (m.viewHosting n.ip e id slot) := by
  rw [Follower.hosting, record_hosted]
  exact h.owns.take (o := .neighbor n.ip) hf

theorem routedPort?_eq_some_iff {i : IfIndex} {rp : RoutedPort} :
    m.routedPort? i = some rp ↔
      m.ports.get? i = some rp.port ∧ m.interfaces.get? rp.port = some rp.interface := by
  unfold routedPort?
  constructor
  · intro h
    obtain ⟨port, hport, hmap⟩ := Option.bind_eq_some_iff.mp h
    obtain ⟨id, hid, rfl⟩ := Option.map_eq_some_iff.mp hmap
    exact ⟨hport, hid⟩
  · rintro ⟨hport, hid⟩
    simp [hport, hid]

theorem routedPort?_ne_none_iff {i : IfIndex} :
    m.routedPort? i ≠ none ↔
      ∃ port, m.ports.get? i = some port ∧ m.interfaces.get? port ≠ none := by
  unfold routedPort?
  cases m.ports.get? i <;> simp

/-- With an interface for a port, the indices that name the port are routed too. -/
theorem routed_insert_iff {port : PortId} {id : InterfaceId} (hp : m'.ports = m.ports)
    (hi : m'.interfaces = m.interfaces.insert port id) (i : IfIndex) :
    m'.routedPort? i ≠ none ↔ m.ports.get? i = some port ∨ m.routedPort? i ≠ none := by
  rw [routedPort?_ne_none_iff, routedPort?_ne_none_iff, hp, hi]
  cases m.ports.get? i with
  | none => simp
  | some port' =>
      simp only [Option.some.injEq, exists_eq_left', KeyMap.get?_insert, eq_comm (a := port)]
      by_cases he : port' = port <;> simp [he]

/-- Without the interface of a port, the indices that name the port are not routed. -/
theorem routed_erase_iff {port : PortId} (hp : m'.ports = m.ports)
    (hi : m'.interfaces = m.interfaces.erase port) (i : IfIndex) :
    m'.routedPort? i ≠ none ↔ m.ports.get? i ≠ some port ∧ m.routedPort? i ≠ none := by
  rw [routedPort?_ne_none_iff, routedPort?_ne_none_iff, hp, hi]
  cases m.ports.get? i with
  | none => simp
  | some port' =>
      simp only [Option.some.injEq, exists_eq_left', KeyMap.get?_erase, eq_comm (a := port)]
      by_cases he : port' = port <;> simp [he]

/-- Where a host route is put back is where a neighbour with the address is. -/
theorem resolved?_some {ip : Ipv4} {n : Neighbor} {mac : MacAddr} {rp : RoutedPort}
    (h : m.resolved? ip = some (n, mac, rp)) :
    n.ip = ip ∧ m.neighbors.get? n = some mac ∧ m.routedPort? n.ifindex = some rp := by
  unfold resolved? at h
  split at h
  · cases h
  · rename_i n' mac' hfind
    obtain ⟨rp', hrp, he⟩ := Option.map_eq_some_iff.mp h
    cases he
    have hip := List.find?_some hfind
    have hmem := List.mem_of_find?_eq_some hfind
    exact ⟨by simpa using hip, (m.neighbors.mem_toList_iff _ _).mp hmem, hrp⟩

/-! ### Routes for single addresses -/

/-- The books have a route for an address: a host route, or one of the kernel's. -/
def Covered (m : Follower δ) (ip : Ipv4) : Prop :=
  m.hosts.get? ip ≠ none ∨ m.installed.get? (.host ip) ≠ none ∨ m.pending.get? (.host ip) ≠ none

theorem Covered.congr {ip : Ipv4} (h : m.Covered ip) (hh : m'.hosts.get? ip = m.hosts.get? ip)
    (hi : m'.installed.get? (.host ip) = m.installed.get? (.host ip))
    (hp : m'.pending.get? (.host ip) = m.pending.get? (.host ip)) : m'.Covered ip := by
  rwa [Covered, hh, hi, hp]

/-- A route to a single address in the tables is in the books. -/
theorem Owned.hosts_or_installed {ip : Ipv4} (h : m.Owned)
    (hr : m.view.route? (.host ip) ≠ none) :
    m.hosts.get? ip ≠ none ∨ m.installed.get? (.host ip) ≠ none := by
  obtain ⟨route, hroute⟩ := Option.ne_none_iff_exists'.mp hr
  obtain ⟨o, id, ho, hkey, -⟩ := h.owns.routed _ route hroute
  cases o with
  | kernel s =>
      obtain ⟨r, hr, -⟩ := Option.map_eq_some_iff.mp ho
      rw [← (s.canon_eq_host_iff ip).mp hkey]
      exact .inr (by simp [hr])
  | neighbor a =>
      obtain ⟨host, hhost, -⟩ := Option.map_eq_some_iff.mp ho
      rw [← Subnet.host_inj.mp hkey]
      exact .inl (by simp [hhost])

theorem wantsHost_iff {n : Neighbor} {mac : MacAddr} :
    m.wantsHost n mac = true ↔ m.installed.get? (.host n.ip) = none ∧
      m.pending.get? (.host n.ip) = none ∧
      ∀ h, m.hosts.get? n.ip = some h → ¬ (h.ifindex = n.ifindex ∧ h.mac = mac) := by
  unfold wantsHost
  rw [Bool.and_eq_true, Bool.and_eq_true, Bool.not_eq_true', Bool.not_eq_true',
    KeyMap.contains_eq_false_iff, KeyMap.contains_eq_false_iff, and_assoc]
  cases m.hosts.get? n.ip with
  | none => simp
  | some host =>
      simp only [Option.some.injEq, forall_eq', Bool.not_eq_true', ← Bool.not_eq_true,
        Bool.and_eq_true, beq_iff_eq]

/-- A host route that is not wanted is one too many: the books have a route for its address. -/
theorem covered_of_wantsHost_eq_false {n : Neighbor} {mac : MacAddr}
    (h : m.wantsHost n mac = false) : m.Covered n.ip := by
  by_contra hnot
  rw [Covered, not_or, not_or, not_not, not_not, not_not] at hnot
  obtain ⟨hh, hi, hp⟩ := hnot
  refine Bool.eq_false_iff.mp h (wantsHost_iff.mpr ⟨hi, hp, fun host hhost => ?_⟩)
  rw [hh] at hhost
  cases hhost

theorem covered_hosting (m : Follower δ) (n : Neighbor) (mac : MacAddr) (id : EgressId) :
    (m.hosting n mac id).Covered n.ip := by
  refine .inl ?_
  rw [hosting, KeyMap.get?_insert_self]
  exact Option.some_ne_none _

theorem Covered.hosting {ip : Ipv4} (h : m.Covered ip) (n : Neighbor) (mac : MacAddr)
    (id : EgressId) : (m.hosting n mac id).Covered ip := by
  by_cases hip : n.ip = ip
  · rw [← hip]
    exact covered_hosting m n mac id
  · exact h.congr (KeyMap.get?_insert_of_ne _ _ hip) rfl rfl

/-- The route of a single address that is installed takes the place of whatever covered it. -/
theorem Covered.installing {ip : Ipv4} (h : m.Covered ip) (subnet : Subnet)
    (route : InstalledRoute) : (m.installing subnet route).Covered ip := by
  by_cases hs : subnet = .host ip
  · refine .inr (.inl ?_)
    rw [installing_installed, hs, KeyMap.get?_insert_self]
    exact Option.some_ne_none route
  · refine h.congr ?_ ?_ ?_
    · rw [installing_hosts, if_neg hs]
    · rw [installing_installed, KeyMap.get?_insert_of_ne _ _ hs]
    · rw [installing_pending, KeyMap.get?_erase_of_ne _ hs]

theorem Rerouted.covered_iff {ip : Ipv4} (h : Rerouted refused m v m') :
    m'.Covered ip ↔ m.Covered ip := by
  rw [Covered, Covered, h.hosts, h.installed, h.pending]

variable [Bus δ]

/-! ### Routes of the kernel -/

theorem dropInstalled_ends (ht : Bus.Tells refused) (h : m.switch.routing.Plain) {subnet : Subnet}
    (hr : ∀ id, m.record (.kernel subnet) = some id → ¬ m.view.Routed id) :
    Ends (dropInstalled subnet) m
      (fun _ m' => Rerouted refused { m with installed := m.installed.erase subnet }
        (m.view.drop? (m.record (.kernel subnet))) m')
      fun _ _ => False := by
  refine Ends.bind (Operation.ends_get (Ends.bind (Operation.ends_set ?_)))
  exact release?_ends ht (m := { m with installed := m.installed.erase subnet }) h hr

theorem withdraw_ends (ht : Bus.Tells refused) (h : m.Owned) (subnet : Subnet) :
    Ends (withdraw subnet) m
      (fun _ m' => Rerouted refused { m with installed := m.installed.erase subnet }
        ((m.view.setRoute subnet.canon none).drop? (m.record (.kernel subnet))) m')
      fun _ _ => False := by
  refine Ends.bind ((removeRoute_ends ht h.plain subnet).mono ?_ fun _ _ he => he.elim)
  rintro there m₁ ⟨-, h1⟩
  refine (dropInstalled_ends ht h1.plain ?_).mono ?_ fun _ _ he => he
  · intro id ho
    rw [h1.record_eq] at ho
    rw [h1.view_eq]
    exact h.owns.not_routed_unroute ho
  · intro _ m₂ h2
    rw [h1.record_eq, h1.view_eq] at h2
    exact (h1.book (fun m => { m with installed := m.installed.erase subnet })
      (fun _ _ _ => rfl) fun _ => rfl).trans h2

theorem supersedeHost_ends (ht : Bus.Tells refused) (h : m.switch.routing.Plain) {subnet : Subnet}
    (hr : ∀ id, m.superseded subnet = some id → ¬ m.view.Routed id) :
    Ends (supersedeHost subnet) m
      (fun _ m' => Rerouted refused (m.superseding subnet) (m.view.drop? (m.superseded subnet)) m')
      fun _ _ => False := by
  unfold supersedeHost superseding superseded at *
  split
  · rename_i hlen
    simp only [hlen, if_true] at hr ⊢
    refine Ends.bind (Operation.ends_get (Ends.bind (Operation.ends_set ?_)))
    exact release?_ends ht (m := { m with hosts := m.hosts.erase subnet.addr }) h hr
  · exact Operation.ends_pure (.refl h)

theorem install_ends (ht : Bus.Tells refused) (h : m.Owned) (subnet : Subnet) (hop : NextHop)
    (rp : RoutedPort) (mac : MacAddr) :
    Ends (install subnet hop rp mac) m
      (fun _ m' => ∃ id slot, m.view.Fresh subnet.canon id slot ∧
        Rerouted refused (m.installing subnet ⟨hop, id⟩)
          (m.viewInstalling subnet ⟨mac, rp.port, rp.interface⟩ id slot) m')
      (fun _ m' => Rerouted refused m m.view m' ∧ m.Obstructed refused rp subnet.canon m') := by
  refine Ends.bind ((provide_ends ht h.plain rp mac subnet).mono ?_ fun _ _ he => he)
  rintro id m₁ ⟨slot, hf, h1⟩
  have h1 := h1.book (fun m => { m with pending := m.pending.erase subnet }) (fun _ _ _ => rfl)
    fun _ => rfl
  refine Ends.bind (Operation.ends_modify ?_)
  generalize { m₁ with pending := m₁.pending.erase subnet } = m₂ at h1 ⊢
  have hs : m₂.superseded subnet = m.superseded subnet := by
    rw [superseded, h1.record_eq]
    rfl
  have hrouted (o : Owner) (a : EgressId) (hk : o.key = subnet.canon) (ho : m.record o = some a) :
      ¬ m₂.view.Routed a := by
    rw [h1.view_eq]
    exact h.owns.not_routed_provide hf hk ho
  refine Ends.bind ((supersedeHost_ends ht h1.plain ?_).mono ?_ fun _ _ he => he.elim)
  · intro a ha
    rw [hs] at ha
    obtain ⟨ho, hk⟩ := key_of_superseded ha
    exact hrouted _ a hk ho
  · intro _ m₃ h2
    have h2 := (h1.book (superseding · subnet) (fun m => superseding_reroute m subnet)
      fun m => superseding_switch m subnet).trans h2
    rw [hs, h1.view_eq] at h2
    refine Ends.bind (Operation.ends_get (Ends.bind (Operation.ends_set ?_)))
    have hrec : (m₃.installed.get? subnet).map InstalledRoute.egress = m.record (.kernel subnet) := by
      rw [h2.installed, superseding_installed]
      rfl
    rw [hrec]
    have h3 := h2.book (fun m => { m with installed := m.installed.insert subnet ⟨hop, id⟩ })
      (fun _ _ _ => rfl) fun _ => rfl
    refine (release?_ends ht h3.plain ?_).mono ?_ fun _ _ he => he.elim
    · intro a ha
      rw [h3.view_eq]
      rw [View.routed_drop?_iff]
      exact h.owns.not_routed_provide hf rfl ha
    · intro _ m₄ h4
      rw [h3.view_eq] at h4
      exact ⟨id, slot, hf, h3.trans h4⟩

/-! ### Host routes -/

theorem withdrawHost_ends (ht : Bus.Tells refused) (h : m.Owned) (ip : Ipv4) :
    Ends (withdrawHost ip) m
      (fun there m' => there = false ∧ m.hosts.get? ip = none ∧ m' = m ∨
        there = true ∧ m.hosts.get? ip ≠ none ∧
          Rerouted refused { m with hosts := m.hosts.erase ip }
            ((m.view.setRoute (.host ip) none).drop? (m.record (.neighbor ip))) m')
      fun _ _ => False := by
  unfold withdrawHost
  refine Ends.bind (Operation.ends_get ?_)
  cases hh : m.hosts.get? ip with
  | none => exact Operation.ends_pure (.inl ⟨rfl, rfl, rfl⟩)
  | some host =>
      have hrec : m.record (.neighbor ip) = some host.egress := by simp [record, hh]
      have hremove := removeRoute_ends ht h.plain (.host ip)
      rw [Subnet.canon_host] at hremove
      refine Ends.bind (hremove.mono ?_ fun _ _ he => he.elim)
      rintro there m₁ ⟨-, h1⟩
      refine Ends.bind (Operation.ends_modify ?_)
      have h2 := h1.book (fun m => { m with hosts := m.hosts.erase ip }) (fun _ _ _ => rfl)
        fun _ => rfl
      refine Ends.bind ((release_ends ht h2.plain ?_).mono ?_ fun _ _ he => he.elim)
      · rw [h2.view_eq]
        exact h.owns.not_routed_unroute (o := .neighbor ip) hrec
      · intro _ m₂ h3
        rw [h2.view_eq] at h3
        rw [hrec]
        exact Operation.ends_pure (.inr ⟨rfl, Option.some_ne_none host, h2.trans h3⟩)

theorem installHost_ends (ht : Bus.Tells refused) (h : m.Owned) (n : Neighbor) (rp : RoutedPort)
    (mac : MacAddr) :
    Ends (installHost n rp mac) m
      (fun _ m' => m.wantsHost n mac = false ∧ m' = m ∨
        m.wantsHost n mac = true ∧ ∃ id slot, m.view.Fresh (.host n.ip) id slot ∧
          Rerouted refused (m.hosting n mac id)
            (m.viewHosting n.ip ⟨mac, rp.port, rp.interface⟩ id slot) m')
      (fun _ m' => m.wantsHost n mac = true ∧ Rerouted refused m m.view m' ∧
        m.Obstructed refused rp (.host n.ip) m') := by
  unfold installHost
  refine Ends.bind (Operation.ends_get ?_)
  by_cases hw : m.wantsHost n mac = true
  · rw [if_pos hw]
    have hp := provide_ends ht h.plain rp mac (.host n.ip)
    rw [Subnet.canon_host] at hp
    refine Ends.bind (hp.mono ?_ fun _ _ he => ⟨hw, he⟩)
    rintro id m₁ ⟨slot, hf, h1⟩
    refine Ends.bind (Operation.ends_get (Ends.bind (Operation.ends_set ?_)))
    have hrec : (m₁.hosts.get? n.ip).map HostRoute.egress = m.record (.neighbor n.ip) := by
      rw [h1.hosts]
      rfl
    rw [hrec]
    have h2 := h1.book (hosting · n mac id) (fun _ _ _ => rfl) fun _ => rfl
    refine (release?_ends ht h2.plain ?_).mono ?_ fun _ _ he => he.elim
    · intro a ha
      rw [h2.view_eq]
      exact h.owns.not_routed_provide hf rfl ha
    · intro _ m₂ h3
      rw [h2.view_eq] at h3
      exact .inr ⟨hw, id, slot, hf, h2.trans h3⟩
  · rw [if_neg hw]
    exact Operation.ends_pure (.inl ⟨(Bool.not_eq_true _).mp hw, rfl⟩)

/-- What becomes of the host route of an address when it is put back. -/
inductive Restored (refused : δ → Prop) (m : Follower δ) (ip : Ipv4) : Follower δ → Prop where
  /-- The first neighbour with the address, if there is one, has no interface. -/
  | unresolved (hr : m.resolved? ip = none) : Restored refused m ip m
  /-- Its host route is not wanted, or leads there already. -/
  | unwanted {n mac rp} (hr : m.resolved? ip = some (n, mac, rp)) (hw : m.wantsHost n mac = false) :
      Restored refused m ip m
  | hosted {n mac rp id slot} {m' : Follower δ} (hr : m.resolved? ip = some (n, mac, rp))
      (hw : m.wantsHost n mac = true) (hf : m.view.Fresh (.host n.ip) id slot)
      (h : Rerouted refused (m.hosting n mac id)
        (m.viewHosting n.ip ⟨mac, rp.port, rp.interface⟩ id slot) m') : Restored refused m ip m'
  | failed {n mac rp} {m' : Follower δ} (hr : m.resolved? ip = some (n, mac, rp))
      (hw : m.wantsHost n mac = true) (h : Rerouted refused m m.view m')
      (ho : m.Obstructed refused rp (.host n.ip) m') : Restored refused m ip m'

theorem restoreHost_ends (ht : Bus.Tells refused) (h : m.Owned) (ip : Ipv4) :
    Ends (restoreHost ip) m (fun _ m' => m.Restored refused ip m') fun _ _ => False := by
  unfold restoreHost
  refine Ends.bind (Operation.ends_get ?_)
  cases hr : m.resolved? ip with
  | none => exact Operation.ends_pure (.unresolved hr)
  | some found =>
      obtain ⟨n, mac, rp⟩ := found
      refine tryTo_ends ((installHost_ends ht h n rp mac).mono ?_ ?_)
      · rintro _ m' (⟨hw, rfl⟩ | ⟨hw, id, slot, hf, hnew⟩)
        · exact .unwanted hr hw
        · exact .hosted hr hw hf hnew
      · rintro _ m' ⟨hw, hsame, ho⟩
        exact .failed hr hw hsame ho

end ControlPlane.Follower
