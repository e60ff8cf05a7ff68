import ControlPlane.Proofs.Kernel.Events
import ControlPlane.Proofs.Kernel.Settling

/-! # What a follower looks like

Indices of egress objects and slots of routes are taken from pools, so two followers that have come to
the same in different ways may differ in them.  A `Picture` leaves them out: where the books or the
tables name an egress object, the picture has what the object says.

As long as nothing is refused and there is room, what events do to routes is a change of the picture,
which depends on nothing else:

* `house` installs a neighbour's host route if it is wanted, `lead` installs the routes of some subnets
  through a next hop, and `await` makes the route of a subnet wait;
* `announce` is what the kernel's word of a route does (`routeAdded_picture`), and housing a neighbour
  and leading the routes that wait for it is what settling does (`settle_picture`). -/

namespace ControlPlane.Routing.View

/-- The egress object that a target stands for. -/
def target? (v : View) : RouteTarget → Option Egress
  | .egress id => v.egress? id
  | .group _ => none

end ControlPlane.Routing.View

namespace ControlPlane.Follower

open Operation (Ends)
open Routing (View)

/-- An installed route, with what its egress object says. -/
structure ShownRoute where
  hop : NextHop
  egress : Option Egress
  deriving DecidableEq

/-- A host route, with what its egress object says. -/
structure ShownHost where
  ifindex : IfIndex
  mac : MacAddr
  egress : Option Egress
  deriving DecidableEq

/-- A follower without the indices of egress objects and the slots of routes. -/
@[ext] structure Picture where
  ports : IfIndex → Option PortId
  interfaces : PortId → Option InterfaceId
  neighbors : Neighbor → Option MacAddr
  pending : Subnet → Option NextHop
  installed : Subnet → Option ShownRoute
  hosts : Ipv4 → Option ShownHost
  /-- The routes in the tables, each with what its egress object says. -/
  routes : Subnet → Option (Option Egress)
  stations : Nat → Option Station
  watched : PortId → Option Unit
  enables : Nat → Nat

variable {δ : Type} {refused : δ → Prop} {m m' : Follower δ} {v : View}

/-- What a follower would look like if `v` were routed. -/
def shown (m : Follower δ) (v : View) : Picture where
  ports := m.ports.get?
  interfaces := m.interfaces.get?
  neighbors := m.neighbors.get?
  pending := m.pending.get?
  installed s := (m.installed.get? s).map fun r => ⟨r.hop, v.egress? r.egress⟩
  hosts ip := (m.hosts.get? ip).map fun h => ⟨h.ifindex, h.mac, v.egress? h.egress⟩
  routes s := (v.route? s).map fun route => v.target? route.target
  stations := m.switch.stations.slots.get?
  watched := m.switch.ports.watched.get?
  enables := m.switch.ports.enables.read

/-- What a follower looks like. -/
def picture (m : Follower δ) : Picture := m.shown m.view

/-- `m'` is `m` but for routes: those in the tables and those in the books. -/
structure Beside (m m' : Follower δ) : Prop extends Still m m' where
  switch : m'.switch = { m.switch with routing := m'.switch.routing, bus := m'.switch.bus }

theorem Announced.beside {subnet : Subnet} {gateway : Option Ipv4} {via : Option IfIndex}
    (h : m.Announced refused subnet gateway via m') : m.Beside m' := by
  cases h with
  | ignored => exact ⟨.refl m, rfl⟩
  | installed hg hv hn hrp hf hr =>
      refine ⟨hr.still_installing, ?_⟩
      have hswitch := congrArg Follower.switch hr.rest
      rwa [reroute, installing_switch] at hswitch
  | pended hg hv hn hvacated =>
      obtain ⟨hstill, -⟩ := hvacated.rest
      refine ⟨⟨hstill.ports, hstill.interfaces, hstill.neighbors⟩, ?_⟩
      rcases hvacated with ⟨rfl, -⟩ | ⟨-, hr⟩
      · rfl
      · exact congrArg Follower.switch hr.rest

theorem Rerouted.picture_eq (h : Rerouted refused m v m') : m'.picture = m.shown v := by
  rw [picture, h.view_eq, h.rest]
  rfl

/-! ### Changes of the picture -/

namespace Picture

variable (P : Picture)

/-- Whether a neighbour's host route is wanted. -/
def Wants (n : Neighbor) (mac : MacAddr) : Prop :=
  P.installed (.host n.ip) = none ∧ P.pending (.host n.ip) = none ∧
    ∀ h ∈ P.hosts n.ip, ¬ (h.ifindex = n.ifindex ∧ h.mac = mac)

instance (n : Neighbor) (mac : MacAddr) : Decidable (P.Wants n mac) :=
  inferInstanceAs (Decidable (_ ∧ _ ∧ _))

/-- The picture with the host route of a neighbour, if it is wanted. -/
def house (n : Neighbor) (e : Egress) : Picture :=
  if P.Wants n e.mac then
    { P with
      hosts := Function.update P.hosts n.ip (some ⟨n.ifindex, e.mac, some e⟩)
      routes := Function.update P.routes (.host n.ip) (some (some e)) }
  else P

theorem house_of_not_wants {n : Neighbor} {e : Egress} (h : ¬ P.Wants n e.mac) : P.house n e = P :=
  if_neg h

/-- A host route is a host route and nothing else. -/
theorem house_eq (n : Neighbor) (e : Egress) :
    P.house n e = { P with hosts := (P.house n e).hosts, routes := (P.house n e).routes } := by
  unfold house
  split <;> rfl

/-- The picture with the routes of some subnets installed. -/
def lead (hop : NextHop) (e : Egress) (subnets : List Subnet) : Picture :=
  { P with
    pending := fun s => if s ∈ subnets then none else P.pending s
    installed := fun s => if s ∈ subnets then some ⟨hop, some e⟩ else P.installed s
    hosts := fun ip => if .host ip ∈ subnets then none else P.hosts ip
    routes := fun k => if k ∈ subnets.map Subnet.canon then some (some e) else P.routes k }

/-- The picture with the route of a subnet waiting for its gateway.  What was installed for the subnet
goes, with the route in the tables. -/
def await (subnet : Subnet) (hop : NextHop) : Picture :=
  { P with
    pending := Function.update P.pending subnet (some hop)
    installed := Function.update P.installed subnet none
    routes :=
      if P.installed subnet = none then P.routes
      else Function.update P.routes subnet.canon none }

/-- The picture once a neighbour's address is learnt, with the stations as they are then. -/
def learn (n : Neighbor) (mac : MacAddr) (slots : KeyMap Nat Station) : Picture :=
  { P with
    neighbors := Function.update P.neighbors n (some mac)
    stations := slots.get? }

/-- The picture after the kernel's word of a route out of a port with an interface. -/
def announce (subnet : Subnet) (hop : NextHop) (rp : RoutedPort) : Picture :=
  match P.neighbors ⟨hop.gateway, hop.via⟩ with
  | some mac => P.lead hop ⟨mac, rp.port, rp.interface⟩ [subnet]
  | none => P.await subnet hop

@[simp] theorem lead_nil (hop : NextHop) (e : Egress) : P.lead hop e [] = P := by
  simp [lead]

theorem lead_append (hop : NextHop) (e : Egress) (subnets subnets' : List Subnet) :
    (P.lead hop e subnets).lead hop e subnets' = P.lead hop e (subnets ++ subnets') := by
  unfold lead
  simp only [List.mem_append, List.map_append]
  congr 1 <;> funext k <;> grind

/-- A neighbour whose host route is in the tables, or has given way to one of the routes through it, wants
no other. -/
theorem not_wants_lead_house (n : Neighbor) (e : Egress) (hop : NextHop) (subnets : List Subnet) :
    ¬ ((P.house n e).lead hop e subnets).Wants n e.mac := by
  rintro ⟨hinstalled, hpending, hhosts⟩
  by_cases hmem : .host n.ip ∈ subnets
  · exact Option.some_ne_none _ ((if_pos hmem).symm.trans hinstalled)
  · simp only [lead, hmem, if_false] at hinstalled hpending hhosts
    by_cases hw : P.Wants n e.mac
    · refine hhosts ⟨n.ifindex, e.mac, some e⟩ ?_ ⟨rfl, rfl⟩
      rw [house, if_pos hw]
      exact Function.update_self ..
    · rw [P.house_of_not_wants hw] at hinstalled hpending hhosts
      exact hw ⟨hinstalled, hpending, hhosts⟩

/-- Only which subnets are led matters. -/
theorem lead_congr {hop : NextHop} {e : Egress} {subnets subnets' : List Subnet}
    (h : ∀ s, s ∈ subnets ↔ s ∈ subnets') : P.lead hop e subnets = P.lead hop e subnets' := by
  unfold lead
  simp only [List.mem_map, h]

/-- The word of a route that comes again changes nothing. -/
theorem announce_announce (subnet : Subnet) (hop : NextHop) (rp : RoutedPort) :
    (P.announce subnet hop rp).announce subnet hop rp = P.announce subnet hop rp := by
  have hneighbors : (P.announce subnet hop rp).neighbors = P.neighbors := by
    unfold announce
    split <;> rfl
  rw [announce, hneighbors]
  unfold announce
  cases P.neighbors ⟨hop.gateway, hop.via⟩ with
  | some mac =>
      dsimp only
      rw [lead_append]
      exact P.lead_congr fun s => by simp
  | none => simp [await]

end Picture

/-! ### What installing does to the picture -/

theorem wants_picture_iff {n : Neighbor} {mac : MacAddr} :
    m.picture.Wants n mac ↔ m.wantsHost n mac = true := by
  rw [wantsHost_iff, Picture.Wants]
  simp only [picture, shown, Option.map_eq_none_iff, Option.mem_def]
  refine and_congr_right fun _ => and_congr_right fun _ => ?_
  cases m.hosts.get? n.ip <;> simp

section shown

variable {s : Subnet} {ip : Ipv4}

theorem shown_installed_eq (he : ∀ a, m.record (.kernel s) = some a → v.egress? a = m.view.egress? a) :
    (m.shown v).installed s = m.picture.installed s := by
  refine Option.map_congr fun r hr => ?_
  rw [he r.egress (by simp [record, Option.mem_def.mp hr])]

theorem shown_hosts_eq (he : ∀ a, m.record (.neighbor ip) = some a → v.egress? a = m.view.egress? a) :
    (m.shown v).hosts ip = m.picture.hosts ip := by
  refine Option.map_congr fun r hr => ?_
  rw [he r.egress (by simp [record, Option.mem_def.mp hr])]

/-- A route looks as before if the egress objects of its owners do. -/
theorem Owned.shown_routes_eq (h : m.Owned) (hr : v.route? s = m.view.route? s)
    (he : ∀ o a, m.record o = some a → o.key = s → v.egress? a = m.view.egress? a) :
    (m.shown v).routes s = m.picture.routes s := by
  simp only [picture, shown, hr]
  refine Option.map_congr fun route hroute => ?_
  obtain ⟨o, a, ho, hkey, ht⟩ := h.owns.routed s route hroute
  rw [ht]
  exact he o a ho hkey

end shown

section installing

variable {subnet : Subnet} {hop : NextHop} {e : Egress} {id : EgressId} {slot : RouteSlot}

theorem Owned.shown_hosting (h : m.Owned) {n : Neighbor} (hw : m.wantsHost n e.mac = true)
    (hf : m.view.Fresh (.host n.ip) id slot) :
    (m.hosting n e.mac id).shown (m.viewHosting n.ip e id slot) = m.picture.house n e := by
  have hold (o : Owner) (a : EgressId) (ho : m.record o = some a) (hne : .neighbor n.ip ≠ o) :
      (m.viewHosting n.ip e id slot).egress? a = m.view.egress? a := h.viewHosting_egress? hf ho hne
  rw [Picture.house, if_pos (wants_picture_iff.mpr hw)]
  refine Picture.ext rfl rfl rfl rfl ?_ ?_ ?_ rfl rfl rfl
  · funext s
    exact shown_installed_eq (m := m) fun a ho => hold _ a ho (Owner.neighbor_ne_kernel n.ip s)
  · funext ip
    dsimp only
    by_cases hip : n.ip = ip
    · subst hip
      rw [Function.update_self]
      simp only [shown, Follower.hosting, KeyMap.get?_insert_self, Option.map_some, h.viewHosting_new hf]
    · have hsame := shown_hosts_eq (v := m.viewHosting n.ip e id slot) fun a ho =>
        hold (.neighbor ip) a ho fun he => hip (Owner.neighbor.inj he)
      rw [Function.update_of_ne (Ne.symm hip), ← hsame]
      simp only [shown, Follower.hosting, KeyMap.get?_insert_of_ne _ _ hip]
  · funext k
    dsimp only
    have hroute : (m.viewHosting n.ip e id slot).route? k =
        if k = .host n.ip then some ⟨slot, .egress id⟩ else m.view.route? k := by
      rw [viewHosting, View.drop?_route?, View.provide_route?]
    by_cases hk : k = .host n.ip
    · subst hk
      simp [shown, hroute, View.target?, h.viewHosting_new hf]
    · rw [if_neg hk] at hroute
      rw [Function.update_of_ne hk]
      refine h.shown_routes_eq hroute fun o a ho hkey => hold o a ho ?_
      rintro rfl
      exact hk hkey.symm

theorem Owned.shown_installing (h : m.Owned) (hf : m.view.Fresh subnet.canon id slot) :
    (m.installing subnet ⟨hop, id⟩).shown (m.viewInstalling subnet e id slot) =
      m.picture.lead hop e [subnet] := by
  have hnew := h.viewInstalling_new (e := e) hf
  have hold (o : Owner) (a : EgressId) (ho : m.record o = some a) (hne : .kernel subnet ≠ o)
      (hhost : ∀ ip, o = .neighbor ip → subnet ≠ .host ip) :
      (m.viewInstalling subnet e id slot).egress? a = m.view.egress? a :=
    h.viewInstalling_egress? hf ho hne hhost
  refine Picture.ext ?_ ?_ ?_ ?_ ?_ ?_ ?_ ?_ ?_ ?_
  · simp [shown, picture, Picture.lead]
  · simp [shown, picture, Picture.lead]
  · simp [shown, picture, Picture.lead]
  · funext s
    simp [shown, picture, Picture.lead, KeyMap.get?_erase, eq_comm]
  · funext s
    by_cases hs : subnet = s
    · subst hs
      simp [shown, Picture.lead, hnew]
    · have hsame := shown_installed_eq (v := m.viewInstalling subnet e id slot) fun a ho =>
        hold (.kernel s) a ho (fun he => hs (Owner.kernel.inj he)) nofun
      simp only [Picture.lead, List.mem_singleton, if_neg (Ne.symm hs), ← hsame]
      simp only [shown, installing_installed, KeyMap.get?_insert_of_ne _ _ hs]
  · funext ip
    by_cases hs : subnet = .host ip
    · simp [shown, Picture.lead, installing_hosts, hs]
    · have hsame := shown_hosts_eq (v := m.viewInstalling subnet e id slot) fun a ho =>
        hold (.neighbor ip) a ho (Owner.neighbor_ne_kernel ip subnet).symm
          fun ip' he => Owner.neighbor.inj he ▸ hs
      simp only [Picture.lead, List.mem_singleton, if_neg (Ne.symm hs), ← hsame]
      simp only [shown, installing_hosts, if_neg hs]
  · funext k
    have hroute : (m.viewInstalling subnet e id slot).route? k =
        if k = subnet.canon then some ⟨slot, .egress id⟩ else m.view.route? k := by
      rw [viewInstalling, View.drop?_route?, View.drop?_route?, View.provide_route?]
    by_cases hk : k = subnet.canon
    · subst hk
      simp [shown, Picture.lead, hroute, View.target?, hnew]
    · rw [if_neg hk] at hroute
      simp only [Picture.lead, List.map_cons, List.map_nil, List.mem_singleton, if_neg hk]
      refine h.shown_routes_eq hroute fun o a ho hkey => hold o a ho ?_ ?_
      · rintro rfl
        exact hk hkey.symm
      · rintro ip rfl rfl
        rw [Subnet.canon_host] at hk
        exact hk hkey.symm
  · simp [shown, picture, Picture.lead]
  · simp [shown, picture, Picture.lead]
  · simp [shown, picture, Picture.lead]

end installing

/-- A route that is withdrawn leaves the others looking as they did. -/
theorem Owned.shown_uninstalled (h : m.Owned) (subnet : Subnet) :
    shown { m with installed := m.installed.erase subnet }
        ((m.view.setRoute subnet.canon none).drop? (m.record (.kernel subnet))) =
      { m.picture with
        installed := Function.update m.picture.installed subnet none
        routes := Function.update m.picture.routes subnet.canon none } := by
  generalize hw : (m.view.setRoute subnet.canon none).drop? (m.record (.kernel subnet)) = w
  have hold (o : Owner) (a : EgressId) (ho : m.record o = some a) (hne : .kernel subnet ≠ o) :
      w.egress? a = m.view.egress? a := by
    rw [← hw, View.drop?_egress?_of_ne (h.owns.record_ne ho hne), View.setRoute_egress?]
  refine Picture.ext rfl rfl rfl rfl ?_ ?_ ?_ rfl rfl rfl
  · funext s
    dsimp only
    by_cases hs : subnet = s
    · subst hs
      simp [shown]
    · have hsame := shown_installed_eq (v := w) fun a ho =>
        hold (.kernel s) a ho fun he => hs (Owner.kernel.inj he)
      rw [Function.update_of_ne (Ne.symm hs), ← hsame]
      simp only [shown, KeyMap.get?_erase_of_ne _ hs]
  · funext ip
    exact shown_hosts_eq (m := m) fun a ho => hold _ a ho (Owner.neighbor_ne_kernel ip subnet).symm
  · funext k
    dsimp only
    by_cases hk : k = subnet.canon
    · subst hk
      simp [shown, ← hw]
    · have hroute : w.route? k = m.view.route? k := by
        rw [← hw, View.drop?_route?, View.setRoute_of_ne _ hk]
      rw [Function.update_of_ne hk]
      refine h.shown_routes_eq hroute fun o a ho hkey => hold o a ho ?_
      rintro rfl
      exact hk hkey.symm

theorem picture_pend (m : Follower δ) (subnet : Subnet) (hop : NextHop) :
    picture { m with pending := m.pending.insert subnet hop } =
      { m.picture with pending := Function.update m.picture.pending subnet (some hop) } := by
  refine Picture.ext rfl rfl rfl ?_ rfl rfl rfl rfl rfl rfl
  funext s
  simp only [picture, shown, KeyMap.get?_insert, Function.update_apply, eq_comm]

/-- A route that has to wait. -/
theorem Vacated.picture_pend {subnet : Subnet} {hop : NextHop} (h : m.Vacated refused subnet m')
    (ho : m.Owned) :
    picture { m' with pending := m'.pending.insert subnet hop } = m.picture.await subnet hop := by
  have hinstalled : m.picture.installed subnet = none ↔ m.installed.get? subnet = none :=
    Option.map_eq_none_iff
  rw [Follower.picture_pend, Picture.await]
  rcases h with ⟨rfl, hnone⟩ | ⟨hsome, hr⟩
  · have hpicture := hinstalled.mpr hnone
    have hsame : Function.update m'.picture.installed subnet none = m'.picture.installed := by
      rw [← hpicture, Function.update_eq_self]
    rw [if_pos hpicture, hsame]
  · rw [if_neg (mt hinstalled.mp hsome), hr.picture_eq, ho.shown_uninstalled]

/-! ### What events do to the picture -/

section operations

variable [Bus δ] {n : Neighbor} {rp : RoutedPort} {mac : MacAddr}

theorem tryInstallHost_picture (ht : Bus.Tells refused) (ho : m.Owned) (hr : m.Ready rp) :
    Ends (tryTo (installHost n rp mac)) m
      (fun _ m' => m'.Exhausted refused ∨
        m'.picture = m.picture.house n ⟨mac, rp.port, rp.interface⟩)
      fun _ _ => False := by
  refine tryTo_ends ((installHost_ends ht ho n rp mac).mono ?_ ?_)
  · rintro _ m' (⟨hw, rfl⟩ | ⟨hw, id, slot, hf, h⟩)
    · refine .inr ?_
      rw [Picture.house, if_neg (mt wants_picture_iff.mp (Bool.eq_false_iff.mp hw))]
    · refine .inr ?_
      rw [h.picture_eq]
      exact ho.shown_hosting (e := ⟨mac, rp.port, rp.interface⟩) hw hf
  · rintro _ m' ⟨hw, h, hwhy⟩
    exact .inl (hr.exhausted h.view_eq hwhy)

theorem tryInstall_picture (ht : Bus.Tells refused) (ho : m.Owned) (hr : m.Ready rp)
    (hop : NextHop) (subnet : Subnet) :
    Ends (tryTo (install subnet hop rp mac)) m
      (fun _ m' => m'.Exhausted refused ∨
        m'.picture = m.picture.lead hop ⟨mac, rp.port, rp.interface⟩ [subnet])
      fun _ _ => False := by
  refine tryTo_ends ((install_ends ht ho subnet hop rp mac).mono ?_ ?_)
  · rintro _ m' ⟨id, slot, hf, h⟩
    exact .inr (h.picture_eq.trans (ho.shown_installing hf))
  · rintro _ m' ⟨h, hwhy⟩
    exact .inl (hr.exhausted h.view_eq hwhy)

theorem tryInstallAll_picture (ht : Bus.Tells refused) (ho : m.Owned) (hr : m.Ready rp)
    (hop : NextHop) (subnets : List Subnet) :
    Ends (Operation.forAll (fun subnet => tryTo (install subnet hop rp mac)) subnets) m
      (fun _ m' => m'.Exhausted refused ∨
        m'.picture = m.picture.lead hop ⟨mac, rp.port, rp.interface⟩ subnets)
      fun _ _ => False := by
  induction subnets generalizing m with
  | nil => exact Operation.ends_ok rfl (.inr (m.picture.lead_nil _ _).symm)
  | cons subnet subnets ih =>
      obtain ⟨m₁, h1⟩ := tryTo_answers (install subnet hop rp mac) m
      obtain ⟨hs, hp⟩ :=
        ((tryInstall_ends ht ho hr hop subnet).and (tryInstall_picture ht ho hr hop subnet)).of_ok h1
      refine Ends.of_eq ?_ (by simp only [Operation.forAll, h1]; rfl)
      -- once something is lacking it still is when all have been tried
      refine ((tryInstallAll_ends ht hs.owned hs.ready hop subnets).and
        (ih hs.owned hs.ready)).mono ?_ fun _ _ he => he.1
      rintro _ m₂ ⟨hs', he | hp'⟩
      · exact .inl he
      · rcases hp with he | hp
        · exact .inl (hs'.exhausted he)
        · refine .inr ?_
          rw [hp', hp, Picture.lead_append]
          rfl

/-- A neighbour settles: its host route, and then the routes through it. -/
theorem settle_picture (ht : Bus.Tells refused) (ho : m.Owned) (hr : m.Ready rp)
    (subnets : List Subnet) :
    Ends (settle n rp mac subnets) m
      (fun _ m' => m'.Exhausted refused ∨ m'.picture =
        (m.picture.house n ⟨mac, rp.port, rp.interface⟩).lead ⟨n.ip, n.ifindex⟩
          ⟨mac, rp.port, rp.interface⟩ subnets)
      fun _ _ => False := by
  refine Ends.bind (((tryInstallHost_ends ht ho hr).and (tryInstallHost_picture ht ho hr)).mono ?_
    fun _ _ he => he.1)
  rintro _ m₁ ⟨hh, hp⟩
  refine ((tryInstallAll_ends ht hh.owned hh.ready _ subnets).and
    (tryInstallAll_picture ht hh.owned hh.ready _ subnets)).mono ?_ fun _ _ he => he.1
  rintro _ m₂ ⟨hs, he | hp'⟩
  · exact .inl he
  · rcases hp with he | hp
    · exact .inl (hs.exhausted he)
    · exact .inr (hp'.trans (by rw [hp]))

/-- The kernel's word of a route out of a port with an interface. -/
theorem routeAdded_picture (ht : Bus.Tells refused) (h : m.Sound) (hop : NextHop)
    (hrp : m.routedPort? hop.via = some rp) (subnet : Subnet) :
    Ends (routeAdded subnet (some hop.gateway) (some hop.via)) m
      (fun _ m' => m.Beside m' ∧ m'.picture = m.picture.announce subnet hop rp)
      fun _ m' => m'.Exhausted refused := by
  refine (routeAdded_ends ht h.toOwned subnet (some hop.gateway) (some hop.via)).mono ?_ ?_
  · rintro _ m' ⟨-, ha⟩
    refine ⟨ha.beside, ?_⟩
    have hneighbor : m.picture.neighbors = m.neighbors.get? := rfl
    cases ha with
    | ignored hnone =>
        have hport := (routedPort?_eq_some_iff.mp hrp).1
        simp [hport] at hnone
    | @installed hop' mac rp' id slot _ hg hv hn hrp' hf hr =>
        obtain ⟨gateway, via⟩ := hop
        obtain ⟨gateway', via'⟩ := hop'
        cases hg
        cases hv
        rw [hrp] at hrp'
        cases hrp'
        rw [Picture.announce, hneighbor, hn]
        exact hr.picture_eq.trans (h.shown_installing hf)
    | @pended hop' m₁ hg hv hn hvacated =>
        obtain ⟨gateway, via⟩ := hop
        obtain ⟨gateway', via'⟩ := hop'
        cases hg
        cases hv
        rw [Picture.announce, hneighbor, hn]
        exact hvacated.picture_pend h.toOwned
  · rintro _ m' ⟨hr, hwhy⟩
    exact (h.ready hrp).exhausted hr.view_eq (hwhy rp hrp)

omit [Bus δ] in
/-- The routes that a neighbour's address decides can be told from the picture. -/
theorem mem_waitingFor_picture_iff {moved : Bool} {s : Subnet} :
    s ∈ m.waitingFor n moved ↔ m.picture.pending s = some ⟨n.ip, n.ifindex⟩ ∨
      moved = true ∧ ∃ r, m.picture.installed s = some r ∧ r.hop = ⟨n.ip, n.ifindex⟩ := by
  simp [mem_waitingFor_iff, picture, shown]

omit [Bus δ] in
theorem routedPort?_eq_of_picture (hp : m'.picture.ports = m.picture.ports)
    (hi : m'.picture.interfaces = m.picture.interfaces) (i : IfIndex) :
    m'.routedPort? i = m.routedPort? i := by
  change m'.ports.get? = m.ports.get? at hp
  change m'.interfaces.get? = m.interfaces.get? at hi
  rw [routedPort?, routedPort?, hp, hi]

omit [Bus δ] in
theorem restationed_congr (hs : m'.switch.stations = m.switch.stations)
    (hn : m'.neighbors = m.neighbors) (port : PortId) (slot : Nat) :
    m'.restationed n mac port slot = m.restationed n mac port slot := by
  unfold restationed hasMac
  rw [hs, hn]

omit [Bus δ] in
/-- Of the parts that do not route, the picture has the stations and the state of ports. -/
theorem Elsewhere.picture_eq (h : m.Elsewhere m') (hp : m'.switch.ports = m.switch.ports) :
    m'.picture = { m.picture with stations := m'.switch.stations.slots.get? } := by
  have hview : m'.view = m.view := congrArg (fun m => m.switch.routing.view) h
  rw [picture, hview]
  refine Picture.ext ?_ ?_ ?_ ?_ ?_ ?_ rfl rfl ?_ ?_
  · exact congrArg (·.get?) h.still.ports
  · exact congrArg (·.get?) h.still.interfaces
  · exact congrArg (·.get?) h.still.neighbors
  · exact congrArg (·.get?) h.pending
  · simp only [shown, picture, h.installed]
  · simp only [shown, picture, h.hosts]
  · exact congrArg (·.watched.get?) hp
  · exact congrArg (·.enables.read) hp

omit [Bus δ] in
theorem Elsewhere.picture_learn {port : PortId}
    (h : Elsewhere { m with neighbors := m.neighbors.insert n mac } m')
    (hst : m.Stationed n mac port m') :
    m'.picture = m.picture.learn n mac m'.switch.stations.slots := by
  have hneighbors : (m.neighbors.insert n mac).get? =
      Function.update m.neighbors.get? n (some mac) := by
    funext k
    rw [KeyMap.get?_insert, Function.update_apply]
    simp only [eq_comm]
  rw [h.picture_eq hst.ports]
  exact Picture.ext rfl rfl hneighbors rfl rfl rfl rfl rfl rfl rfl

/-- The news of a neighbour: what its address makes possible comes about where there is an interface. -/
theorem Added.picture (ht : Bus.Tells refused) (hs : m.Sound) {port : PortId}
    (hport : m.ports.get? n.ifindex = some port) (h : m.Added n (some mac) m') :
    ∃ slot, m.switch.stations.newSlot? m.switch.board ⟨mac, 0, port, true⟩ = some slot ∧
      match m.interfaces.get? port with
      | none => m'.picture = m.picture.learn n mac (m.restationed n mac port slot)
      | some id => m'.Exhausted refused ∨ m'.picture =
          ((m.picture.learn n mac (m.restationed n mac port slot)).house n ⟨mac, port, id⟩).lead
            ⟨n.ip, n.ifindex⟩ ⟨mac, port, id⟩ (m.waitingFor n (m.hasMoved n mac)) := by
  cases h with
  | ignored hnone => simp [hport] at hnone
  | @noted port' mac' _ hmac hport' hroom hid helse hst =>
      cases hmac
      rw [hport] at hport'
      cases hport'
      obtain ⟨slot, hnew, hslots⟩ := hst.slots
      refine ⟨slot, hnew, ?_⟩
      rw [hid, ← hslots]
      exact helse.picture_learn hst
  | @settled port' mac' id m₁ _ hmac hport' hroom hid helse hsettle hst =>
      cases hmac
      rw [hport] at hport'
      cases hport'
      obtain ⟨slot, hnew, hslots⟩ := hst.slots
      refine ⟨slot, hnew, ?_⟩
      rw [hid, ← hslots, ← helse.picture_learn hst]
      have hrp : m.routedPort? n.ifindex = some ⟨port, id⟩ := routedPort?_eq_some_iff.mpr ⟨hport, hid⟩
      have hready : m₁.Ready ⟨port, id⟩ :=
        (hs.ready hrp).congr (congrArg (·.switch.board) helse) (by rw [helse]; rfl)
      have howned : m₁.Owned := helse.owned ⟨hs.plain, hs.owns⟩
      exact (settle_picture ht howned hready _).of_ok hsettle

/-- What becomes of the news of a neighbour at a port: it is heard, or there is no room for its station,
and then there still is none. -/
theorem handle_news {m' : Follower δ} (ht : Bus.Tells refused) (hs : m.Sound) {port : PortId}
    (hport : m.ports.get? n.ifindex = some port)
    (hm' : (handle (.neighbor n.ip n.ifindex (some mac) .added) m).2 = m')
    (hroom : ¬ refused m'.switch.bus) :
    m.Added n (some mac) m' ∨ m'.picture = m.picture ∧ m.switch.stations.Crowded mac 0 ∧
      m'.switch.stations.Crowded mac 0 := by
  subst hm'
  refine (handle_ends (P := fun _ m' => refused m'.switch.bus ∨ (m.Added n (some mac) m' ∨
    m'.picture = m.picture ∧ m.switch.stations.Crowded mac 0 ∧
      m'.switch.stations.Crowded mac 0)) ?_).resolve_left hroom
  refine (neighborAdded_ends ht n (some mac)).mono (fun _ _ h => .inr (.inl h)) ?_
  rintro _ m' ⟨⟨helse, hports⟩, hslots, port', mac', hmac, hport', hwhy⟩
  cases hmac
  rw [hport] at hport'
  cases hport'
  rcases hwhy with hr | hboard | hcrowded
  · exact .inl hr
  · exact absurd (hs.on_board _ port hport) hboard
  · refine .inr (.inr ⟨?_, hcrowded, (Stations.crowded_congr hslots).mpr hcrowded⟩)
    rw [helse.picture_eq hports, hslots]
    rfl

end operations

/-! ### Where nothing is lacking -/

/-- The follower, with its device watched from now on. -/
def watched (m : Follower δ) : Follower (Watched δ) :=
  { m with switch := { m.switch with bus := .start m.switch.bus } }

theorem Sound.watched (h : m.Sound) : m.watched.Sound where
  toOwned := ⟨h.plain, h.owns⟩
  toWired := ⟨h.on_board, h.interface_live, h.interface_unique⟩
  toApart := ⟨h.pending, h.hosts⟩

/-- Nothing has been refused, and neither egress objects nor slots of routes have run out. -/
structure Roomy (m : Follower (Watched δ)) : Prop where
  not_refused : m.switch.bus.refused = false
  egresses : ¬ m.view.EgressesFull
  slots : ¬ m.view.SlotsFull

theorem Roomy.not_exhausted {m : Follower (Watched δ)} (h : m.Roomy) :
    ¬ m.Exhausted fun w => w.refused = true :=
  Follower.not_exhausted h.not_refused h.egresses h.slots

/-- A follower on a device that refuses nothing, watched after some events. -/
def watching (events : List Event) : Follower (Watched Willing) :=
  ((fresh (.fresh ⟨portCount, Board.defaultStem, Board.defaultMacBase⟩ Willing.mk)).run events).watched

theorem Spare.roomy {m : Follower (Watched Willing)} (h : m.Spare) : m.Roomy :=
  ⟨h.not_refused, h.not_egressesFull, h.not_slotsFull⟩

end ControlPlane.Follower
