import ControlPlane.Proofs.Kernel.Neighbors

/-! # What settling a neighbour does

Once a neighbour can be reached, its host route is installed and the routes that its address decides
are.  Each may fail, and nobody hears of it.

* `Keeps` and `Leads` tell what becomes of a route of the kernel: it stays as it was, or it is installed
  afresh through a next hop.
* `tryInstallHost_ends` says what comes of a host route (`Housed`), `settle_ends` what comes of a
  neighbour's routes (`Settled`), and `lodge_ends` what comes of the host routes of a port's
  neighbours.  In all of them (`Supplied`) what is not installed is due to a device that refuses or a
  table that is full, and stays so; no route is made to wait, and no address loses what covers it.
* `settled_ends` and `lodged_ends` say so of the states in which the events have neighbours settled. -/

namespace ControlPlane.Follower

open Operation (Ends)
open Routing (View)

variable {δ : Type} {refused : δ → Prop} {m m' m'' : Follower δ} {s : Subnet}

/-- The MAC address that packets get from an egress object. -/
def carried? (m : Follower δ) (id : EgressId) : Option MacAddr :=
  (m.switch.routing.egresses.get? id).map fun c => c.value.mac

theorem carried?_eq (m : Follower δ) (id : EgressId) :
    m.carried? id = (m.view.egress? id).map Egress.mac := by
  rw [carried?, view, Routing.view, Option.map_map]
  rfl

theorem Elsewhere.carried?_eq (h : m.Elsewhere m') : m'.carried? = m.carried? := by
  rw [h]
  rfl

/-! ### What becomes of a route -/

/-- A route, and what packets get from its egress object, are as they were. -/
structure Keeps (m : Follower δ) (s : Subnet) (m' : Follower δ) : Prop where
  installed : m'.installed.get? s = m.installed.get? s
  carried : ∀ r, m.installed.get? s = some r → m'.carried? r.egress = m.carried? r.egress

/-- A route is installed through a next hop, and packets get an address. -/
def Leads (m : Follower δ) (s : Subnet) (hop : NextHop) (mac : MacAddr) : Prop :=
  ∃ r, m.installed.get? s = some r ∧ r.hop = hop ∧ m.carried? r.egress = some mac

namespace Keeps

theorem refl (m : Follower δ) (s : Subnet) : m.Keeps s m := ⟨rfl, fun _ _ => rfl⟩

theorem trans (h : m.Keeps s m') (h' : m'.Keeps s m'') : m.Keeps s m'' where
  installed := h'.installed.trans h.installed
  carried r hr := (h'.carried r (h.installed.trans hr)).trans (h.carried r hr)

theorem leads (h : m.Keeps s m') {hop : NextHop} {mac : MacAddr} (hl : m.Leads s hop mac) :
    m'.Leads s hop mac := by
  obtain ⟨r, hr, hhop, hc⟩ := hl
  exact ⟨r, h.installed.trans hr, hhop, (h.carried r hr).trans hc⟩

theorem of_view (hi : m'.installed.get? s = m.installed.get? s)
    (hv : ∀ a, m.record (.kernel s) = some a → m'.view.egress? a = m.view.egress? a) :
    m.Keeps s m' where
  installed := hi
  carried r hr := by
    rw [carried?_eq, carried?_eq, hv r.egress (by rw [record, hr]; rfl)]

end Keeps

theorem Rerouted.keeps (h : Rerouted refused m m.view m') (s : Subnet) : m.Keeps s m' :=
  .of_view (by rw [h.installed]) fun _ _ => by rw [h.view_eq]

section fresh

variable {subnet : Subnet} {e : Egress} {id a : EgressId} {slot : RouteSlot} {o : Owner}

/-- Installing a route takes the egress objects of its subnet and of the host route that it takes the
place of, and leaves all others alone. -/
theorem Owned.viewInstalling_egress? (h : m.Owned) (hf : m.view.Fresh subnet.canon id slot)
    (ho : m.record o = some a) (hkernel : .kernel subnet ≠ o)
    (hhost : ∀ ip, o = .neighbor ip → subnet ≠ .host ip) :
    (m.viewInstalling subnet e id slot).egress? a = m.view.egress? a := by
  have hsuperseded : m.superseded subnet ≠ some a := by
    intro hs
    have howner := h.owns.unique _ _ _ (key_of_superseded hs).1 ho
    refine hhost subnet.addr howner.symm (subnet.eq_host_of_len ?_)
    by_contra hlen
    rw [superseded, if_neg hlen] at hs
    cases hs
  rw [viewInstalling, View.drop?_egress?_of_ne (h.owns.record_ne ho hkernel),
    View.drop?_egress?_of_ne hsuperseded, View.provide_egress?, if_neg (h.owns.ne_of_fresh hf ho)]

theorem Owned.viewInstalling_new (h : m.Owned) (hf : m.view.Fresh subnet.canon id slot) :
    (m.viewInstalling subnet e id slot).egress? id = some e := by
  have hold (o : Owner) : m.record o ≠ some id := fun ho => h.owns.ne_of_fresh hf ho rfl
  have hsuperseded : m.superseded subnet ≠ some id := fun hs => hold _ (key_of_superseded hs).1
  rw [viewInstalling, View.drop?_egress?_of_ne (hold _), View.drop?_egress?_of_ne hsuperseded,
    View.provide_egress?, if_pos rfl]

theorem Owned.viewHosting_egress? (h : m.Owned) {ip : Ipv4} (hf : m.view.Fresh (.host ip) id slot)
    (ho : m.record o = some a) (hne : .neighbor ip ≠ o) :
    (m.viewHosting ip e id slot).egress? a = m.view.egress? a := by
  rw [viewHosting, View.drop?_egress?_of_ne (h.owns.record_ne ho hne), View.provide_egress?,
    if_neg (h.owns.ne_of_fresh hf ho)]

theorem Owned.viewHosting_new (h : m.Owned) {ip : Ipv4} (hf : m.view.Fresh (.host ip) id slot) :
    (m.viewHosting ip e id slot).egress? id = some e := by
  have hold (o : Owner) : m.record o ≠ some id := fun ho => h.owns.ne_of_fresh hf ho rfl
  rw [viewHosting, View.drop?_egress?_of_ne (hold _), View.provide_egress?, if_pos rfl]

end fresh

/-- Installing a host route keeps the kernel's routes. -/
theorem Rerouted.keeps_hosting {n : Neighbor} {mac : MacAddr} {e : Egress} {id : EgressId}
    {slot : RouteSlot} (hr : Rerouted refused (m.hosting n mac id) (m.viewHosting n.ip e id slot) m')
    (h : m.Owned) (hf : m.view.Fresh (.host n.ip) id slot) (s : Subnet) : m.Keeps s m' :=
  .of_view (by rw [hr.installed]; rfl) fun _ ho => by
    rw [hr.view_eq, h.viewHosting_egress? hf ho (Owner.neighbor_ne_kernel n.ip s)]

section installing

variable {subnet : Subnet} {hop : NextHop} {e : Egress} {id : EgressId} {slot : RouteSlot}
  (hr : Rerouted refused (m.installing subnet ⟨hop, id⟩) (m.viewInstalling subnet e id slot) m')
  (h : m.Owned) (hf : m.view.Fresh subnet.canon id slot)

include hr h hf

theorem Rerouted.keeps_installing (hne : subnet ≠ s) : m.Keeps s m' := by
  refine .of_view ?_ fun a ho => ?_
  · rw [hr.installed, installing_installed, KeyMap.get?_insert_of_ne _ _ hne]
  · rw [hr.view_eq, h.viewInstalling_egress? hf ho (fun he => hne (Owner.kernel.inj he))]
    intro ip hip
    cases hip

theorem Rerouted.leads_installing : m'.Leads subnet hop e.mac := by
  refine ⟨⟨hop, id⟩, ?_, rfl, ?_⟩
  · rw [hr.installed, installing_installed, KeyMap.get?_insert_self]
  · rw [carried?_eq, hr.view_eq, h.viewInstalling_new hf]
    rfl

end installing

/-- A kernel's route that goes leaves the others as they were. -/
theorem Rerouted.keeps_uninstalled {subnet : Subnet}
    (hr : Rerouted refused { m with installed := m.installed.erase subnet }
      ((m.view.setRoute subnet.canon none).drop? (m.record (.kernel subnet))) m')
    (h : m.Owned) (hne : subnet ≠ s) : m.Keeps s m' := by
  refine .of_view ?_ fun a ho => ?_
  · rw [hr.installed, KeyMap.get?_erase_of_ne _ hne]
  · have hkernel : m.record (.kernel subnet) ≠ some a :=
      h.owns.record_ne ho fun he => hne (Owner.kernel.inj he)
    rw [hr.view_eq, View.drop?_egress?_of_ne hkernel, View.setRoute_egress?]

/-! ### Lack of room -/

/-- Slots that are all taken stay so while an egress object is provided. -/
theorem slotsFull_provide {v : View} {key : Subnet} {e : Egress} {id : EgressId} {slot : RouteSlot}
    (h : v.SlotsFull) (hf : v.Fresh key id slot) : (v.provide key e id slot).SlotsFull := by
  intro a ha
  obtain ⟨s, route, hroute, hslot⟩ := h a ha
  by_cases hs : s = key
  · subst hs
    refine ⟨s, ⟨slot, .egress id⟩, ?_, (hf.slot_eq route hroute).trans hslot⟩
    rw [View.provide_route?, if_pos rfl]
  · refine ⟨s, route, ?_, hslot⟩
    rw [View.provide_route?, if_neg hs, hroute]

theorem slotsFull_drop?_iff {v : View} (o : Option EgressId) :
    (v.drop? o).SlotsFull ↔ v.SlotsFull := by
  simp [View.SlotsFull]

/-- There is no new egress object where all of them are taken, and slots stay taken. -/
theorem Exhausted.provide {key : Subnet} {id : EgressId} {slot : RouteSlot}
    (h : m.Exhausted refused) (e : Egress) (hf : m.view.Fresh key id slot)
    (hp : refused m.switch.bus → refused m'.switch.bus)
    (hslots : (m.view.provide key e id slot).SlotsFull → m'.view.SlotsFull) :
    m'.Exhausted refused := by
  rcases h with hr | hfull | hs
  · exact .inl (hp hr)
  · exact absurd hf.free (hfull id hf.holds)
  · exact .inr (.inr (hslots (slotsFull_provide hs hf)))

/-! ### What installing keeps -/

/-- Routes for what a port reaches have been installed, or tried in vain. -/
structure Supplied (refused : δ → Prop) (rp : RoutedPort) (m m' : Follower δ) : Prop where
  owned : m'.Owned
  ready : m'.Ready rp
  still : m.Still m'
  exhausted : m.Exhausted refused → m'.Exhausted refused
  pending : ∀ s hop, m'.pending.get? s = some hop → m.pending.get? s = some hop
  covered : ∀ ip, m.Covered ip → m'.Covered ip

namespace Supplied

variable {rp : RoutedPort}

theorem refl (ho : m.Owned) (hr : m.Ready rp) : Supplied refused rp m m where
  owned := ho
  ready := hr
  still := .refl m
  exhausted := id
  pending _ _ := id
  covered _ := id

theorem trans (h : Supplied refused rp m m') (h' : Supplied refused rp m' m'') :
    Supplied refused rp m m'' where
  owned := h'.owned
  ready := h'.ready
  still := h.still.trans h'.still
  exhausted he := h'.exhausted (h.exhausted he)
  pending s hop hp := h.pending s hop (h'.pending s hop hp)
  covered ip hc := h'.covered ip (h.covered ip hc)

theorem of_same (h : Rerouted refused m m.view m') (ho : m.Owned) (hr : m.Ready rp) :
    Supplied refused rp m m' where
  owned := h.owned ho.owns
  ready := hr.congr h.board (by rw [h.view_eq])
  still := h.still
  exhausted he := by
    rw [Exhausted, h.view_eq]
    exact he.imp_left h.persists
  pending s hop hp := h.pending ▸ hp
  covered ip := h.covered_iff.mpr

theorem hosting {n : Neighbor} {mac : MacAddr} {e : Egress} {id : EgressId} {slot : RouteSlot}
    (h : Rerouted refused (m.hosting n mac id) (m.viewHosting n.ip e id slot) m') (ho : m.Owned)
    (hr : m.Ready rp) (hf : m.view.Fresh (.host n.ip) id slot) : Supplied refused rp m m' where
  owned := h.owned (ho.hosting hf)
  ready := by
    refine hr.congr h.board ?_
    rw [h.view_eq, viewHosting, View.drop?_interface?, View.provide_interface?]
  still := ⟨h.ports, h.interfaces, h.neighbors⟩
  exhausted he := by
    refine he.provide e hf h.persists fun hs => ?_
    rw [h.view_eq, viewHosting]
    exact (slotsFull_drop?_iff _).mpr hs
  pending s hop hp := h.pending ▸ hp
  covered ip hc := h.covered_iff.mpr (hc.hosting n mac id)

theorem installing {subnet : Subnet} {hop : NextHop} {e : Egress} {id : EgressId} {slot : RouteSlot}
    (h : Rerouted refused (m.installing subnet ⟨hop, id⟩) (m.viewInstalling subnet e id slot) m')
    (ho : m.Owned) (hr : m.Ready rp) (hf : m.view.Fresh subnet.canon id slot) :
    Supplied refused rp m m' where
  owned := h.owned (ho.installing hf)
  ready := by
    refine hr.congr ?_ ?_
    · rw [h.board, installing_switch]
    · rw [h.view_eq, viewInstalling, View.drop?_interface?, View.drop?_interface?,
        View.provide_interface?]
  still := h.still_installing
  exhausted he := by
    refine he.provide e hf ?_ fun hs => ?_
    · have hp := h.persists
      rwa [installing_switch] at hp
    · rw [h.view_eq, viewInstalling]
      exact (slotsFull_drop?_iff _).mpr ((slotsFull_drop?_iff _).mpr hs)
  pending s hop hp := by
    rw [h.pending, installing_pending] at hp
    exact KeyMap.get?_of_get?_erase hp
  covered ip hc := h.covered_iff.mpr (hc.installing subnet ⟨hop, id⟩)

end Supplied

/-! ### Host routes -/

/-- What comes of installing a neighbour's host route. -/
structure Housed (refused : δ → Prop) (rp : RoutedPort) (n : Neighbor) (mac : MacAddr)
    (m m' : Follower δ) : Prop extends Supplied refused rp m m' where
  installed : m'.installed = m.installed
  pending_eq : m'.pending = m.pending
  keeps : ∀ s, m.Keeps s m'
  hosts : m.wantsHost n mac = false ∧ m'.hosts = m.hosts ∨
    m.wantsHost n mac = true ∧ ((∃ id, m'.hosts = m.hosts.insert n.ip ⟨n.ifindex, mac, id⟩) ∨
      m'.hosts = m.hosts ∧ m'.Exhausted refused)

namespace Housed

variable {rp : RoutedPort} {n : Neighbor} {mac : MacAddr}

/-- The neighbour's address is covered, unless the device refuses or there is no room. -/
theorem covers (h : Housed refused rp n mac m m') (hroom : ¬ m'.Exhausted refused) :
    m'.Covered n.ip := by
  rcases h.hosts with ⟨hw, -⟩ | ⟨-, ⟨id, hid⟩ | ⟨-, he⟩⟩
  · exact h.covered n.ip (covered_of_wantsHost_eq_false hw)
  · refine .inl ?_
    rw [hid, KeyMap.get?_insert_self]
    exact Option.some_ne_none _
  · exact absurd he hroom

/-- A host route is as it was, or it is the neighbour's and has the new address. -/
theorem host_or (h : Housed refused rp n mac m m') {ip : Ipv4} {host : HostRoute}
    (hh : m'.hosts.get? ip = some host) :
    m.hosts.get? ip = some host ∨ n.ip = ip ∧ host.ifindex = n.ifindex ∧ host.mac = mac := by
  rcases h.hosts with ⟨-, hsame⟩ | ⟨-, ⟨id, hid⟩ | ⟨hsame, -⟩⟩
  · exact .inl (hsame ▸ hh)
  · rw [hid] at hh
    obtain ⟨rfl, rfl⟩ | hh := KeyMap.eq_or_get?_of_insert hh
    · exact .inr ⟨rfl, rfl, rfl⟩
    · exact .inl hh
  · exact .inl (hsame ▸ hh)

end Housed

/-! ### Routes through a neighbour -/

/-- What comes of installing the routes of some subnets through a next hop. -/
structure Settled (refused : δ → Prop) (rp : RoutedPort) (hop : NextHop) (mac : MacAddr)
    (subnets : List Subnet) (m m' : Follower δ) : Prop extends Supplied refused rp m m' where
  route : ∀ s, m.Keeps s m' ∧ (s ∈ subnets → m'.Exhausted refused) ∨
    s ∈ subnets ∧ m'.Leads s hop mac
  hosts : ∀ ip, m'.hosts.get? ip = m.hosts.get? ip ∨
    .host ip ∈ subnets ∧ m'.hosts.get? ip = none

namespace Settled

variable {rp : RoutedPort} {hop : NextHop} {mac : MacAddr} {subnets subnets' : List Subnet}

theorem refl (ho : m.Owned) (hr : m.Ready rp) : Settled refused rp hop mac [] m m where
  toSupplied := .refl ho hr
  route s := .inl ⟨.refl m s, fun hs => absurd hs List.not_mem_nil⟩
  hosts _ := .inl rfl

theorem trans (h : Settled refused rp hop mac subnets m m')
    (h' : Settled refused rp hop mac subnets' m' m'') :
    Settled refused rp hop mac (subnets ++ subnets') m m'' where
  toSupplied := h.toSupplied.trans h'.toSupplied
  route := by
    intro s
    simp only [List.mem_append]
    rcases h'.route s with ⟨hk', he'⟩ | ⟨hs, hl⟩
    · rcases h.route s with ⟨hk, he⟩ | ⟨hs, hl⟩
      · refine .inl ⟨hk.trans hk', ?_⟩
        rintro (hs | hs)
        · exact h'.exhausted (he hs)
        · exact he' hs
      · exact .inr ⟨.inl hs, hk'.leads hl⟩
    · exact .inr ⟨.inr hs, hl⟩
  hosts := by
    intro ip
    simp only [List.mem_append]
    rcases h'.hosts ip with heq' | ⟨hs, hnone⟩
    · rcases h.hosts ip with heq | ⟨hs, hnone⟩
      · exact .inl (heq'.trans heq)
      · exact .inr ⟨.inl hs, heq'.trans hnone⟩
    · exact .inr ⟨.inr hs, hnone⟩

theorem host_of_some (h : Settled refused rp hop mac subnets m m') {ip : Ipv4} {host : HostRoute}
    (hh : m'.hosts.get? ip = some host) : m.hosts.get? ip = some host := by
  rcases h.hosts ip with hsame | ⟨-, hnone⟩
  · exact hsame ▸ hh
  · rw [hnone] at hh
    cases hh

end Settled

/-- While a neighbour settles, its host route leaves the routes through it to what becomes of them. -/
theorem Housed.route {m₁ : Follower δ} {n : Neighbor} {rp : RoutedPort} {hop : NextHop}
    {mac mac' : MacAddr} {subnets : List Subnet} (h : Housed refused rp n mac' m m₁)
    (h' : Settled refused rp hop mac subnets m₁ m') (s : Subnet) :
    m.Keeps s m' ∧ (s ∈ subnets → m'.Exhausted refused) ∨ s ∈ subnets ∧ m'.Leads s hop mac :=
  (h'.route s).imp_left fun hk => ⟨(h.keeps s).trans hk.1, hk.2⟩

/-! ### The operations -/

variable [Bus δ] {n : Neighbor} {rp : RoutedPort} {mac : MacAddr}

theorem tryInstallHost_ends (ht : Bus.Tells refused) (ho : m.Owned) (hr : m.Ready rp) :
    Ends (tryTo (installHost n rp mac)) m (fun _ m' => Housed refused rp n mac m m')
      fun _ _ => False := by
  refine tryTo_ends ((installHost_ends ht ho n rp mac).mono ?_ ?_)
  · rintro _ m' (⟨hw, rfl⟩ | ⟨hw, id, slot, hf, h⟩)
    · exact ⟨.refl ho hr, rfl, rfl, .refl _, .inl ⟨hw, rfl⟩⟩
    · exact ⟨.hosting h ho hr hf, h.installed, h.pending, h.keeps_hosting ho hf,
        .inr ⟨hw, .inl ⟨id, h.hosts⟩⟩⟩
  · rintro _ m' ⟨hw, h, hwhy⟩
    exact ⟨.of_same h ho hr, h.installed, h.pending, h.keeps,
      .inr ⟨hw, .inr ⟨h.hosts, hr.exhausted h.view_eq hwhy⟩⟩⟩

theorem lodge_ends (ht : Bus.Tells refused) (ho : m.Owned) (hr : m.Ready rp)
    (found : List (Neighbor × MacAddr)) :
    Ends (lodge rp found) m
      (fun _ m' => Supplied refused rp m m' ∧ m'.installed = m.installed ∧ m'.pending = m.pending ∧
        ∀ p ∈ found, ¬ m'.Exhausted refused → m'.Covered p.1.ip)
      fun _ _ => False := by
  induction found generalizing m with
  | nil => exact Operation.ends_ok rfl ⟨.refl ho hr, rfl, rfl, fun p hp => by cases hp⟩
  | cons p ps ih =>
      obtain ⟨m₁, h1⟩ := tryTo_answers (installHost p.1 rp p.2) m
      have hh : Housed refused rp p.1 p.2 m m₁ := (tryInstallHost_ends ht ho hr).of_ok h1
      refine Ends.of_eq ?_ (by simp only [lodge, Operation.forAll, h1]; rfl)
      refine (ih hh.owned hh.ready).mono ?_ fun _ _ he => he
      rintro _ m₂ ⟨hs, hi, hp, hc⟩
      refine ⟨hh.toSupplied.trans hs, hi.trans hh.installed, hp.trans hh.pending_eq, ?_⟩
      intro q hq hroom
      rcases List.mem_cons.mp hq with rfl | hq
      · exact hs.covered _ (hh.covers fun he => hroom (hs.exhausted he))
      · exact hc q hq hroom

theorem tryInstall_ends (ht : Bus.Tells refused) (ho : m.Owned) (hr : m.Ready rp)
    (hop : NextHop) (subnet : Subnet) :
    Ends (tryTo (install subnet hop rp mac)) m
      (fun _ m' => Settled refused rp hop mac [subnet] m m') fun _ _ => False := by
  refine tryTo_ends ((install_ends ht ho subnet hop rp mac).mono ?_ ?_)
  · rintro _ m' ⟨id, slot, hf, h⟩
    refine ⟨.installing h ho hr hf, fun s => ?_, fun ip => ?_⟩
    · by_cases hs : subnet = s
      · subst hs
        exact .inr ⟨List.mem_singleton_self _, h.leads_installing ho hf⟩
      · refine .inl ⟨h.keeps_installing ho hf hs, fun hmem => ?_⟩
        exact absurd (List.mem_singleton.mp hmem).symm hs
    · rw [h.hosts, installing_hosts]
      by_cases hs : subnet = .host ip
      · rw [if_pos hs]
        exact .inr ⟨List.mem_singleton.mpr hs.symm, rfl⟩
      · exact .inl (if_neg hs)
  · rintro _ m' ⟨h, hwhy⟩
    exact ⟨.of_same h ho hr, fun s => .inl ⟨h.keeps s, fun _ => hr.exhausted h.view_eq hwhy⟩,
      fun ip => .inl (by rw [h.hosts])⟩

theorem tryInstallAll_ends (ht : Bus.Tells refused) (ho : m.Owned) (hr : m.Ready rp)
    (hop : NextHop) (subnets : List Subnet) :
    Ends (Operation.forAll (fun subnet => tryTo (install subnet hop rp mac)) subnets) m
      (fun _ m' => Settled refused rp hop mac subnets m m') fun _ _ => False := by
  induction subnets generalizing m with
  | nil => exact Operation.ends_ok rfl (.refl ho hr)
  | cons subnet subnets ih =>
      obtain ⟨m₁, h1⟩ := tryTo_answers (install subnet hop rp mac) m
      have hs : Settled refused rp hop mac [subnet] m m₁ :=
        (tryInstall_ends ht ho hr hop subnet).of_ok h1
      refine Ends.of_eq ?_ (by simp only [Operation.forAll, h1]; rfl)
      exact (ih hs.owned hs.ready).mono (fun _ _ hs' => hs.trans hs') fun _ _ he => he

/-- A neighbour's host route comes first, and then the routes through it. -/
theorem settle_ends (ht : Bus.Tells refused) (ho : m.Owned) (hr : m.Ready rp)
    (subnets : List Subnet) :
    Ends (settle n rp mac subnets) m
      (fun _ m' => ∃ m₁, Housed refused rp n mac m m₁ ∧
        Settled refused rp ⟨n.ip, n.ifindex⟩ mac subnets m₁ m') fun _ _ => False := by
  refine Ends.bind ((tryInstallHost_ends ht ho hr).mono ?_ fun _ _ he => he)
  intro _ m₁ h1
  exact (tryInstallAll_ends ht h1.owned h1.ready _ subnets).mono (fun _ _ h2 => ⟨m₁, h1, h2⟩)
    fun _ _ he => he

/-- A neighbour's address on a port with an interface: the address is learnt, its host route comes
first, and then the routes through it. -/
theorem settled_ends {m₁ : Follower δ} (ht : Bus.Tells refused) (hs : m.Sound)
    (hport : m.ports.get? n.ifindex = some rp.port)
    (hid : m.interfaces.get? rp.port = some rp.interface)
    (helse : Elsewhere { m with neighbors := m.neighbors.insert n mac } m₁) {subnets : List Subnet}
    (hsettle : settle n rp mac subnets m₁ = .ok () m') :
    ∃ m₂, Housed refused rp n mac m₁ m₂ ∧
      Settled refused rp ⟨n.ip, n.ifindex⟩ mac subnets m₂ m' := by
  have howned : m₁.Owned := helse.owned ⟨hs.plain, hs.owns⟩
  have hready : m₁.Ready rp :=
    (hs.ready (routedPort?_eq_some_iff.mpr ⟨hport, hid⟩)).congr (congrArg (·.switch.board) helse)
      (by rw [helse]; rfl)
  exact (settle_ends ht howned hready subnets).of_ok hsettle

/-- An address on a port: the port has an interface now, and the neighbours that it reaches are given
host routes. -/
theorem lodged_ends {m₁ : Follower δ} {i : IfIndex} {face : Interface} (ht : Bus.Tells refused)
    (hs : m.Sound) (hport : m.ports.get? i = some rp.port)
    (h : Rerouted refused { m with interfaces := m.interfaces.insert rp.port rp.interface }
      (m.view.setInterface rp.interface (some face)) m₁)
    {found : List (Neighbor × MacAddr)} (hlodge : lodge rp found m₁ = .ok () m') :
    Supplied refused rp m₁ m' ∧ m'.installed = m₁.installed ∧ m'.pending = m₁.pending ∧
      ∀ p ∈ found, ¬ m'.Exhausted refused → m'.Covered p.1.ip := by
  have howned : m₁.Owned := h.owned ⟨hs.owns.live_iff, hs.owns.unique, hs.owns.routed⟩
  have hready : m₁.Ready rp := by
    refine ⟨?_, ?_⟩
    · rw [h.board]
      exact hs.on_board i rp.port hport
    · rw [h.view_eq, View.setInterface_interface?, if_pos rfl]
      exact Option.some_ne_none face
  exact (lodge_ends ht howned hready found).of_ok hlodge

end ControlPlane.Follower
