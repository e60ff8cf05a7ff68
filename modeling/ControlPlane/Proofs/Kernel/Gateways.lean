import ControlPlane.Proofs.Kernel.HostRoutes
import ControlPlane.Proofs.Kernel.Settling

/-! # Do routes carry their gateways' addresses?

Packets on an installed route should be sent to the MAC address that its gateway has.  Every event
keeps it so but one: the news of a gateway's address leaves its routes as they are if no address was
known before, as only a neighbour that has moved is taken to have stale routes, or if its port has no
interface.

* `Strands m event` says when that happens, in terms of the state before the event alone.
* `Added.routesCurrent_iff`: the news of a neighbour leaves all routes current unless it strands one,
  as each route through the neighbour is installed afresh or stays as it was.
* `installed_routes_current_iff`: where the device refuses nothing and no table is full, all installed
  routes carry their gateways' addresses throughout a run exactly if no event strands one. -/

namespace ControlPlane.Follower

open Operation (Ends)
open Routing (View)

variable {δ : Type} {refused : δ → Prop} {event : Event} {m m' m'' : Follower δ} {s : Subnet}

/-- If a route is installed and its gateway has an address, the route carries it. -/
def Current (m : Follower δ) (s : Subnet) : Prop :=
  ∀ r mac, m.installed.get? s = some r →
    m.neighbors.get? ⟨r.hop.gateway, r.hop.via⟩ = some mac → m.carried? r.egress = some mac

def RoutesCurrent (m : Follower δ) : Prop := ∀ s, m.Current s

/-- An event strands a route: it gives the route's gateway another address than the route carries, and
the gateway had none before or its port has no interface. -/
def Strands (m : Follower δ) : Event → Prop
  | .neighbor ip ifindex (some mac) .added =>
      m.ports.get? ifindex ≠ none ∧ ¬ m.switch.stations.Crowded mac 0 ∧
        (m.neighbors.get? ⟨ip, ifindex⟩ = none ∨ m.routedPort? ifindex = none) ∧
        ∃ s r, m.installed.get? s = some r ∧ r.hop = ⟨ip, ifindex⟩ ∧ m.carried? r.egress ≠ some mac
  | _ => False

/-- Only the news of a neighbour's address strands a route. -/
theorem Strands.event_eq (h : m.Strands event) :
    ∃ ip ifindex mac, event = .neighbor ip ifindex (some mac) .added := by
  cases event with
  | neighbor ip ifindex mac? change =>
      cases mac? with
      | none => exact h.elim
      | some mac =>
          cases change with
          | added => exact ⟨ip, ifindex, mac, rfl⟩
          | removed => exact h.elim
  | link => exact h.elim
  | linkRemoved => exact h.elim
  | address => exact h.elim
  | route => exact h.elim

theorem not_current {r : InstalledRoute} {mac : MacAddr} (hr : m.installed.get? s = some r)
    (hn : m.neighbors.get? ⟨r.hop.gateway, r.hop.via⟩ = some mac)
    (hc : m.carried? r.egress ≠ some mac) : ¬ m.Current s :=
  fun h => hc (h r mac hr hn)

/-! ### Routes that stay current -/

/-- A route that stays as it was is as current as it was, unless neighbours are learnt. -/
theorem Keeps.current (h : m.Keeps s m')
    (hn : ∀ n mac, m'.neighbors.get? n = some mac → m.neighbors.get? n = some mac)
    (hc : m.Current s) : m'.Current s := by
  intro r mac hr hmac
  rw [h.installed] at hr
  rw [h.carried r hr]
  exact hc r mac hr (hn _ mac hmac)

theorem Leads.current {hop : NextHop} {mac : MacAddr} (h : m.Leads s hop mac)
    (hn : m.neighbors.get? ⟨hop.gateway, hop.via⟩ = some mac) : m.Current s := by
  obtain ⟨r, hr, rfl, hc⟩ := h
  intro r' mac' hr' hmac'
  rw [hr] at hr'
  cases hr'
  rw [hn] at hmac'
  cases hmac'
  exact hc

/-- Routes stay current, unless a neighbour's address is learnt. -/
theorem Step.current (hc : Step refused event m m') (h : m.Owned)
    (he : ∀ ip ifindex mac, event ≠ .neighbor ip ifindex (some mac) .added) (hs : m.Current s) :
    m'.Current s := by
  have hgone (hn : m'.installed.get? s = none) : m'.Current s := by
    intro r mac hr
    rw [hn] at hr
    cases hr
  cases hc with
  | tried hr => exact (hr.keeps s).current (fun _ _ hn => hr.neighbors ▸ hn) hs
  | elsewhere rest ports =>
      rw [rest]
      exact hs
  | interfaceAdded hport hid hr =>
      have hk : m.Keeps s m' := .of_view (by rw [hr.installed]) fun _ _ => by rw [hr.view_eq]; rfl
      exact hk.current (fun _ _ hn => hr.neighbors ▸ hn) hs
  | interfaceRemoved hport hr =>
      have hk : m.Keeps s m' := .of_view (by rw [hr.installed]) fun _ _ => by rw [hr.view_eq]; rfl
      exact hk.current (fun _ _ hn => hr.neighbors ▸ hn) hs
  | hosted hwants hn hrp hf hr =>
      exact (hr.keeps_hosting h hf s).current (fun _ _ hn => hr.neighbors ▸ hn) hs
  | @unhosted ip _ hip hr =>
      have hk : m.Keeps s m' := by
        refine .of_view (by rw [hr.installed]) fun a ho => ?_
        have hneighbor : m.record (.neighbor ip) ≠ some a :=
          h.owns.record_ne ho (Owner.neighbor_ne_kernel ip s)
        rw [hr.view_eq, View.drop?_egress?_of_ne hneighbor, View.setRoute_egress?]
      exact hk.current (fun _ _ hn => hr.neighbors ▸ hn) hs
  | @installed subnet hop mac rp id slot _ hn hrp hf hr =>
      have hneighbors : m'.neighbors = m.neighbors := by rw [hr.neighbors, installing_neighbors]
      by_cases hne : subnet = s
      · subst hne
        exact (hr.leads_installing h hf).current (by rw [hneighbors]; exact hn)
      · exact (hr.keeps_installing h hf hne).current (fun _ _ hn => hneighbors ▸ hn) hs
  | @withdrawn subnet _ hs' hr =>
      by_cases hne : subnet = s
      · subst hne
        exact hgone (by rw [hr.installed, KeyMap.get?_erase_self])
      · exact (hr.keeps_uninstalled h hne).current (fun _ _ hn => hr.neighbors ▸ hn) hs
  | @removed subnet _ _ _ he' hr =>
      by_cases hne : subnet = s
      · subst hne
        exact hgone (by rw [hr.installed, KeyMap.get?_erase_self])
      · exact (hr.keeps_uninstalled h hne).current (fun _ _ hn => hr.neighbors ▸ hn) hs
  | pended hs' => exact hs
  | unpended => exact hs
  | learned he' => exact absurd he' (he _ _ _)
  | @forgotten n _ hevent =>
      have hk : m.Keeps s { m with neighbors := m.neighbors.erase n } := ⟨rfl, fun _ _ => rfl⟩
      exact hk.current (fun _ _ hn => KeyMap.get?_of_get?_erase hn) hs

theorem Steps.routesCurrent (hc : Steps refused event m m') (h : m.Owned)
    (he : ∀ ip ifindex mac, event ≠ .neighbor ip ifindex (some mac) .added) (hs : m.RoutesCurrent) :
    m'.RoutesCurrent := by
  induction hc with
  | refl => exact hs
  | tail hsteps hc ih => exact fun s => hc.current (Steps.owned hsteps h) he (ih s)

/-! ### Events -/

section learned

variable {n : Neighbor} {mac : MacAddr} {m₁ : Follower δ}

/-- A route that stays is current once its gateway's address is learnt, if that is the one it carries. -/
theorem Keeps.current_learned (h : m₁.Keeps s m') (hi : m₁.installed = m.installed)
    (hc : m₁.carried? = m.carried?) (hn : m'.neighbors = m.neighbors.insert n mac) (hs : m.Current s)
    (hsame : ∀ r, m.installed.get? s = some r → r.hop = ⟨n.ip, n.ifindex⟩ →
      m.carried? r.egress = some mac) : m'.Current s := by
  intro r mac' hr hmac'
  rw [h.installed] at hr
  rw [h.carried r hr, hc]
  rw [hi] at hr
  rw [hn] at hmac'
  by_cases he : n = ⟨r.hop.gateway, r.hop.via⟩
  · subst he
    rw [KeyMap.get?_insert_self] at hmac'
    cases hmac'
    exact hsame r hr rfl
  · rw [KeyMap.get?_insert_of_ne _ _ he] at hmac'
    exact hs r mac' hr hmac'

/-- Once a neighbour's address is learnt and some routes through it are installed afresh, what counts
are the other routes through it. -/
theorem routesCurrent_learned_iff {subnets : List Subnet} (h : m.RoutesCurrent)
    (hi : m₁.installed = m.installed) (hc : m₁.carried? = m.carried?)
    (hn : m'.neighbors = m.neighbors.insert n mac)
    (hroute : ∀ s, m₁.Keeps s m' ∧ s ∉ subnets ∨ s ∈ subnets ∧ m'.Leads s ⟨n.ip, n.ifindex⟩ mac) :
    m'.RoutesCurrent ↔ ∀ s r, m.installed.get? s = some r → r.hop = ⟨n.ip, n.ifindex⟩ →
      s ∉ subnets → m.carried? r.egress = some mac := by
  have hmac : m'.neighbors.get? n = some mac := by rw [hn, KeyMap.get?_insert_self]
  constructor
  · intro hcur s r hr hhop hnot
    rcases hroute s with ⟨hk, -⟩ | ⟨hmem, -⟩
    · have hr₁ : m₁.installed.get? s = some r := by rw [hi, hr]
      rw [← hc, ← hk.carried r hr₁]
      refine hcur s r mac (hk.installed.trans hr₁) ?_
      rw [hhop]
      exact hmac
    · exact absurd hmem hnot
  · intro hsame s
    rcases hroute s with ⟨hk, hnot⟩ | ⟨-, hl⟩
    · exact hk.current_learned hi hc hn (h s) fun r hr hhop => hsame s r hr hhop hnot
    · exact hl.current hmac

theorem strands_iff {ip : Ipv4} {ifindex : IfIndex} (hport : m.ports.get? ifindex ≠ none)
    (hroom : ¬ m.switch.stations.Crowded mac 0) :
    m.Strands (.neighbor ip ifindex (some mac) .added) ↔
      (m.neighbors.get? ⟨ip, ifindex⟩ = none ∨ m.routedPort? ifindex = none) ∧
        ∃ s r, m.installed.get? s = some r ∧ r.hop = ⟨ip, ifindex⟩ ∧ m.carried? r.egress ≠ some mac :=
  ⟨fun h => h.2.2, fun h => ⟨hport, hroom, h⟩⟩

/-- Of a neighbour's routes those that carry another address are installed afresh, unless it had no
address before. -/
theorem waitingFor_iff (hs : m.Sound) (h : m.RoutesCurrent) :
    (∀ s r, m.installed.get? s = some r → r.hop = ⟨n.ip, n.ifindex⟩ →
        s ∉ m.waitingFor n (m.hasMoved n mac) → m.carried? r.egress = some mac) ↔
      ¬ (m.neighbors.get? n = none ∧ ∃ s r, m.installed.get? s = some r ∧
        r.hop = ⟨n.ip, n.ifindex⟩ ∧ m.carried? r.egress ≠ some mac) := by
  cases hn : m.neighbors.get? n with
  | none =>
      have hmoved : ¬ m.hasMoved n mac = true := by
        rw [hasMoved_iff, hn]
        simp
      constructor
      · rintro hsame ⟨-, s, r, hr, hhop, hc⟩
        refine hc (hsame s r hr hhop fun hmem => ?_)
        rcases mem_waitingFor_iff.mp hmem with hp | ⟨hm, -⟩
        · rw [hs.pending s (by simp [hp])] at hr
          cases hr
        · exact hmoved hm
      · intro hnot s r hr hhop _
        by_contra hc
        exact hnot ⟨rfl, s, r, hr, hhop, hc⟩
  | some old =>
      refine iff_of_true ?_ fun hnone => absurd hnone.1 (Option.some_ne_none old)
      intro s r hr hhop hnot
      have hold : m.carried? r.egress = some old := by
        refine h s r old hr ?_
        rw [hhop]
        exact hn
      by_cases he : old = mac
      · rw [hold, he]
      · have hmoved : m.hasMoved n mac = true := hasMoved_iff.mpr ⟨old, hn, he⟩
        exact absurd (mem_waitingFor_iff.mpr (.inr ⟨hmoved, r, hr, hhop⟩)) hnot

end learned

/-- The news of a neighbour leaves all routes current unless it strands one. -/
theorem Added.routesCurrent_iff [Bus δ] (ht : Bus.Tells refused) (hs : m.Sound)
    (h : m.RoutesCurrent) {ip : Ipv4} {ifindex : IfIndex} {mac? : Option MacAddr}
    (ha : m.Added ⟨ip, ifindex⟩ mac? m') (hok : ¬ m'.Exhausted refused) :
    m'.RoutesCurrent ↔ ¬ m.Strands (.neighbor ip ifindex mac? .added) := by
  cases ha with
  | ignored hnot =>
      refine iff_of_true h ?_
      rcases hnot with rfl | hport
      · exact id
      · cases mac? with
        | none => exact id
        | some mac => exact fun hstrands => hstrands.1 hport
  | @noted port mac _ hmac hport hroom hid helse =>
      subst hmac
      have hnone : m.routedPort? ifindex = none := by
        rw [routedPort?, show m.ports.get? ifindex = some port from hport]
        simp [hid]
      have hinstalled : m'.installed = m.installed := congrArg (·.installed) helse
      have hneighbors : m'.neighbors = m.neighbors.insert ⟨ip, ifindex⟩ mac :=
        congrArg (·.neighbors) helse
      have hroute (s : Subnet) : m'.Keeps s m' ∧ s ∉ ([] : List Subnet) ∨
          s ∈ ([] : List Subnet) ∧ m'.Leads s ⟨ip, ifindex⟩ mac :=
        .inl ⟨.refl m' s, List.not_mem_nil⟩
      rw [strands_iff (by simp [hport]) hroom,
        routesCurrent_learned_iff h hinstalled helse.carried?_eq hneighbors hroute]
      simp [hnone]
  | @settled port mac id m₁ _ hmac hport hroom hid helse hsettle =>
      subst hmac
      have hinstalled : m₁.installed = m.installed := congrArg (·.installed) helse
      have hneighbors : m₁.neighbors = m.neighbors.insert ⟨ip, ifindex⟩ mac :=
        congrArg (·.neighbors) helse
      have hrp : m.routedPort? ifindex = some ⟨port, id⟩ := routedPort?_eq_some_iff.mpr ⟨hport, hid⟩
      obtain ⟨m₂, hhouse, hset⟩ := settled_ends ht hs hport hid helse hsettle
      have hstill : m₁.Still m' := hhouse.still.trans hset.still
      have hroute := routesCurrent_learned_iff h hinstalled helse.carried?_eq
        (hstill.neighbors.trans hneighbors) fun s =>
          (hhouse.route hset s).imp_left fun hk => ⟨hk.1, fun hmem => hok (hk.2 hmem)⟩
      rw [hroute, waitingFor_iff hs h, strands_iff (by simp [hport]) hroom, hrp]
      simp only [reduceCtorEq, or_false]

/-- Routes stay current unless the event strands one. -/
theorem handle_routesCurrent_iff [Bus δ] (ht : Bus.Tells refused) (hs : m.Sound)
    (h : m.RoutesCurrent) (hok : ¬ (handle event m).2.Exhausted refused) :
    (handle event m).2.RoutesCurrent ↔ ¬ m.Strands event := by
  by_cases he : ∃ ip ifindex mac, event = .neighbor ip ifindex (some mac) .added
  · obtain ⟨ip, ifindex, mac, rfl⟩ := he
    cases handle_handled ht hs (.neighbor ip ifindex (some mac) .added) with
    | added ha => exact ha.routesCurrent_iff ht hs h hok
    | crowded ho helse hwhy =>
        -- no address is learnt, as there is no room for the station
        refine iff_of_true ?_ fun hstrands => ?_
        · rw [helse]
          exact h
        · exact hwhy.elim (fun hr => hok (.inl hr)) hstrands.2.1
  · have hsteps := handle_steps ht hs event
    refine iff_of_true (hsteps.routesCurrent hs.toOwned ?_ h) fun hstrands => he hstrands.event_eq
    intro ip ifindex mac hev
    exact he ⟨ip, ifindex, mac, hev⟩

/-- Without installed routes none can be stranded. -/
theorem not_strands_of_empty (h : m.installed.toList = []) : ¬ m.Strands event := by
  intro hstrands
  obtain ⟨ip, ifindex, mac, rfl⟩ := hstrands.event_eq
  obtain ⟨-, -, -, s, r, hr, -⟩ := hstrands
  have hmem := (m.installed.mem_toList_iff s r).mpr hr
  rw [h] at hmem
  cases hmem

/-- The news of a neighbour whose address is known, on a port with an interface, strands no route. -/
theorem not_strands_of_known {ip : Ipv4} {ifindex : IfIndex} {mac : MacAddr}
    (hn : m.neighbors.get? ⟨ip, ifindex⟩ ≠ none) (hrp : m.routedPort? ifindex ≠ none) :
    ¬ m.Strands (.neighbor ip ifindex (some mac) .added) :=
  fun hstrands => hstrands.2.2.1.elim hn hrp

/-! ### Every run -/

/-- On a device that refuses nothing, and with room for another egress object and another route after
every event, every installed route whose gateway has an address carries it after every event, exactly if
no event strands a route. -/
theorem installed_routes_current_iff [Bus δ] (board : Board) (bus : δ) (events : List Event)
    (hok : ∀ k ≤ events.length,
      (watchedRun board bus (events.take k)).switch.bus.refused = false)
    (hegresses : ∀ k ≤ events.length,
      ¬ (watchedRun board bus (events.take k)).view.EgressesFull)
    (hslots : ∀ k ≤ events.length,
      ¬ (watchedRun board bus (events.take k)).view.SlotsFull) :
    (∀ k ≤ events.length,
        (watchedRun board bus (events.take k)).RoutesCurrent) ↔
      ∀ k event, events[k]? = some event →
        ¬ (watchedRun board bus (events.take k)).Strands event := by
  have hstart : (fresh (.fresh board (Watched.start bus))).RoutesCurrent := by
    intro s r mac hr
    cases hr
  refine run_holds_iff (fun m => ¬ m.Exhausted fun w => w.refused = true) ?_ (sound_fresh board _)
    hstart ?_
  · intro m event hs h hroom
    exact handle_routesCurrent_iff Watched.tells_refused hs h hroom
  · exact fun k hk => not_exhausted (hok k hk) (hegresses k hk) (hslots k hk)

/-- The neighbour's address changes while a route leads through it. -/
def renumbered : List Event :=
  arrival ++ [.route remoteNet .added (some ⟨0x0a000001⟩) (some 5),
    .neighbor ⟨0x0a000001⟩ 5 (some ⟨0x52, 0x54, 0, 0, 0, 2⟩) .added]

/-- A route follows its gateway to another address. -/
theorem installed_routes_current_renumbered :
    (following renumbered).installed.get? remoteNet =
        some ⟨⟨⟨0x0a000001⟩, 5⟩, 4⟩ ∧
      (following renumbered).carried? 4 = some ⟨0x52, 0x54, 0, 0, 0, 2⟩ ∧
      ∀ k ≤ renumbered.length, (following (renumbered.take k)).RoutesCurrent := by
  have hok : ∀ k ≤ renumbered.length, (following (renumbered.take k)).switch.bus.refused = false := by
    decide +kernel
  have hegress : ∀ k ≤ renumbered.length, (following (renumbered.take k)).view.egress? 100 = none := by
    decide +kernel
  have hslot : ∀ k ≤ renumbered.length,
      ∀ p ∈ (following (renumbered.take k)).switch.routing.routes.toList, p.2.slot ≠ 100 := by
    decide +kernel
  have hfirst : (following (renumbered.take 2)).installed.toList = [] := by decide +kernel
  have hknown : (following (renumbered.take 4)).neighbors.get? ⟨⟨0x0a000001⟩, 5⟩ ≠ none := by
    decide +kernel
  have hport : (following (renumbered.take 4)).routedPort? 5 ≠ none := by decide +kernel
  have hothers (m : Follower (Watched Willing)) (event : Event) (k : Nat)
      (hk : renumbered[k]? = some event) (h2 : k ≠ 2) (h4 : k ≠ 4) : ¬ m.Strands event := by
    intro hstrands
    match k with
    | 0 | 1 | 3 =>
        cases hk
        exact hstrands
    | k + 5 => cases hk
  have hnot (k : Nat) (event : Event) (hk : renumbered[k]? = some event) :
      ¬ (following (renumbered.take k)).Strands event := by
    by_cases h2 : k = 2
    · rw [h2]
      exact not_strands_of_empty hfirst
    · by_cases h4 : k = 4
      · rw [h4] at hk ⊢
        cases hk
        exact not_strands_of_known hknown hport
      · exact hothers _ event k hk h2 h4
  exact ⟨by decide +kernel, by decide +kernel,
    (installed_routes_current_iff _ _ renumbered hok
      (fun k hk => not_egressesFull (by decide) (hegress k hk))
      fun k hk => not_slotsFull (by decide) (hslot k hk)).mpr hnot⟩

/-- The neighbour goes, with a route through it installed, and comes back with another address. -/
def replaced : List Event :=
  arrival ++ [.route remoteNet .added (some ⟨0x0a000001⟩) (some 5),
    .neighbor ⟨0x0a000001⟩ 5 none .removed,
    .neighbor ⟨0x0a000001⟩ 5 (some ⟨0x52, 0x54, 0, 0, 0, 2⟩) .added]

/-- A route whose gateway went and came back with another address carries the old one. -/
theorem installed_route_stranded :
    (∀ k ≤ replaced.length, (following (replaced.take k)).switch.bus.refused = false) ∧
      (∀ k ≤ replaced.length, ¬ (following (replaced.take k)).view.EgressesFull ∧
        ¬ (following (replaced.take k)).view.SlotsFull) ∧
      (following replaced).installed.get? remoteNet =
        some ⟨⟨⟨0x0a000001⟩, 5⟩, 2⟩ ∧
      (following replaced).neighbors.get? ⟨⟨0x0a000001⟩, 5⟩ = some ⟨0x52, 0x54, 0, 0, 0, 2⟩ ∧
      (following replaced).carried? 2 = some ⟨0x52, 0x54, 0, 0, 0, 1⟩ ∧
      ¬ ∀ k ≤ replaced.length, (following (replaced.take k)).RoutesCurrent := by
  have hegress : ∀ k ≤ replaced.length, (following (replaced.take k)).view.egress? 100 = none := by
    decide +kernel
  have hslot : ∀ k ≤ replaced.length,
      ∀ p ∈ (following (replaced.take k)).switch.routing.routes.toList, p.2.slot ≠ 100 := by
    decide +kernel
  have hroute : (following replaced).installed.get? remoteNet =
      some ⟨⟨⟨0x0a000001⟩, 5⟩, 2⟩ := by decide +kernel
  have hneighbor : (following replaced).neighbors.get? ⟨⟨0x0a000001⟩, 5⟩ =
      some ⟨0x52, 0x54, 0, 0, 0, 2⟩ := by decide +kernel
  have hcarried : (following replaced).carried? 2 = some ⟨0x52, 0x54, 0, 0, 0, 1⟩ := by
    decide +kernel
  refine ⟨by decide +kernel, fun k hk => ⟨?_, ?_⟩, hroute, hneighbor, hcarried, fun h => ?_⟩
  · exact not_egressesFull (by decide) (hegress k hk)
  · exact not_slotsFull (by decide) (hslot k hk)
  · have hlast := h replaced.length (Nat.le_refl _)
    rw [List.take_length] at hlast
    refine not_current hroute hneighbor ?_ (hlast _)
    rw [hcarried]
    decide

end ControlPlane.Follower
