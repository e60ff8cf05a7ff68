import ControlPlane.Proofs.Kernel.Events
import ControlPlane.Proofs.Kernel.Settling

/-! # Are host routes up to date?

A host route is made for a neighbour, behind an index and with a MAC address.  What the books have of a
host route should agree with what is known: the neighbour behind that index has that MAC address, and
it is the one that packets get.

* What packets get is never in doubt: `Step.hostsCarry` is kept by every step of every event.
* `Misleads m event` says when the neighbour changes and its host route does not: it gets another
  address while a route of the kernel waits that would take the place of the host route, or while its
  port has no interface; or it goes when its index names no port any more.
* `host_routes_agree_iff`: where the device refuses nothing and no table is full, host routes agree with
  what is known throughout a run exactly if no event misleads one. -/

namespace ControlPlane.Follower

open Operation (Ends)
open Routing (View)

variable {δ : Type} {refused : δ → Prop} {event : Event} {m m' : Follower δ} {ip : Ipv4}
  {i : IfIndex} {mac? : Option MacAddr}

/-- Packets on a host route get the MAC address that the books have for it. -/
def HostsCarry (m : Follower δ) : Prop :=
  ∀ ip h, m.hosts.get? ip = some h → m.carried? h.egress = some h.mac

/-- The neighbour that a host route is made for has the MAC address of the host route. -/
def HostsKnown (m : Follower δ) : Prop :=
  ∀ ip h, m.hosts.get? ip = some h → m.neighbors.get? ⟨ip, h.ifindex⟩ = some h.mac

structure HostsAgree (m : Follower δ) : Prop where
  known : m.HostsKnown
  carry : m.HostsCarry

/-- An event misleads a host route: its neighbour gets another address, or goes, and the host route
stays as it was. -/
def Misleads (m : Follower δ) : Event → Prop
  | .neighbor ip i (some mac) .added =>
      m.ports.get? i ≠ none ∧ ¬ m.switch.stations.Crowded mac 0 ∧
        (∃ h, m.hosts.get? ip = some h ∧ h.ifindex = i ∧ h.mac ≠ mac) ∧
        (m.routedPort? i = none ∨ ∃ hop, m.pending.get? (.host ip) = some hop ∧ hop ≠ ⟨ip, i⟩)
  | .neighbor ip i _ .removed =>
      m.ports.get? i = none ∧ ∃ h, m.hosts.get? ip = some h ∧ h.ifindex = i
  | _ => False

theorem misleads_removed_iff :
    m.Misleads (.neighbor ip i mac? .removed) ↔
      m.ports.get? i = none ∧ ∃ h, m.hosts.get? ip = some h ∧ h.ifindex = i := by
  cases mac? <;> rfl

/-- Only events about a neighbour mislead a host route. -/
theorem Misleads.event_eq (h : m.Misleads event) :
    ∃ ip i mac? change, event = .neighbor ip i mac? change := by
  cases event with
  | neighbor ip i mac? change => exact ⟨ip, i, mac?, change, rfl⟩
  | link => exact h.elim
  | linkRemoved => exact h.elim
  | address => exact h.elim
  | route => exact h.elim

/-! ### What packets get -/

/-- Host routes that are there still, with egress objects that are as they were, carry what they did. -/
theorem HostsCarry.of_view (h : m.HostsCarry)
    (hh : ∀ ip h, m'.hosts.get? ip = some h → m.hosts.get? ip = some h)
    (hv : ∀ ip a, m'.hosts.get? ip ≠ none → m.record (.neighbor ip) = some a →
      m'.view.egress? a = m.view.egress? a) : m'.HostsCarry := by
  intro ip host hhost
  have hwas : m.hosts.get? ip = some host := hh ip host hhost
  have hrec : m.record (.neighbor ip) = some host.egress := by
    rw [record, hwas]
    rfl
  rw [carried?_eq, hv ip _ (by simp [hhost]) hrec, ← carried?_eq]
  exact h ip host hwas

theorem Rerouted.hostsCarry_uninstalled {subnet : Subnet}
    (hr : Rerouted refused { m with installed := m.installed.erase subnet }
      ((m.view.setRoute subnet.canon none).drop? (m.record (.kernel subnet))) m')
    (ho : m.Owned) (h : m.HostsCarry) : m'.HostsCarry := by
  refine h.of_view (fun _ _ hh => hr.hosts ▸ hh) fun ip a _ hrec => ?_
  have hkernel : m.record (.kernel subnet) ≠ some a :=
    ho.owns.record_ne hrec (Owner.neighbor_ne_kernel ip subnet).symm
  rw [hr.view_eq, View.drop?_egress?_of_ne hkernel, View.setRoute_egress?]

/-- Every step leaves host routes with the addresses that packets on them get. -/
theorem Step.hostsCarry (hc : Step refused event m m') (ho : m.Owned) (h : m.HostsCarry) :
    m'.HostsCarry := by
  cases hc with
  | tried hr => exact h.of_view (fun _ _ hh => hr.hosts ▸ hh) fun _ _ _ _ => by rw [hr.view_eq]
  | elsewhere rest ports =>
      rw [rest]
      exact h
  | interfaceAdded hport hid hr =>
      exact h.of_view (fun _ _ hh => hr.hosts ▸ hh) fun _ _ _ _ => by rw [hr.view_eq]; rfl
  | interfaceRemoved hport hr =>
      exact h.of_view (fun _ _ hh => hr.hosts ▸ hh) fun _ _ _ _ => by rw [hr.view_eq]; rfl
  | @hosted n mac rp id slot _ hwants hn hrp hf hr =>
      intro ip host hhost
      rw [hr.hosts, hosting, KeyMap.get?_insert] at hhost
      rw [carried?_eq, hr.view_eq]
      split at hhost
      · cases hhost
        rw [ho.viewHosting_new hf]
        rfl
      · rename_i hne
        have hrec : m.record (.neighbor ip) = some host.egress := by simp [record, hhost]
        rw [ho.viewHosting_egress? hf hrec fun he => hne (Owner.neighbor.inj he), ← carried?_eq]
        exact h ip host hhost
  | @unhosted ip _ hip hr =>
      have hold (a : Ipv4) (host : HostRoute) (hh : m'.hosts.get? a = some host) :
          ip ≠ a ∧ m.hosts.get? a = some host := by
        rw [hr.hosts] at hh
        exact KeyMap.get?_erase_eq_some_iff.mp hh
      refine h.of_view (fun a host hh => (hold a host hh).2) fun a id hthere hrec => ?_
      obtain ⟨host, hhost⟩ := Option.ne_none_iff_exists'.mp hthere
      have hneighbor : m.record (.neighbor ip) ≠ some id :=
        ho.owns.record_ne hrec fun he => (hold a host hhost).1 (Owner.neighbor.inj he)
      rw [hr.view_eq, View.drop?_egress?_of_ne hneighbor, View.setRoute_egress?]
  | @installed subnet hop mac rp id slot _ hn hrp hf hr =>
      have hold (a : Ipv4) (host : HostRoute) (hh : m'.hosts.get? a = some host) :
          subnet ≠ .host a ∧ m.hosts.get? a = some host := by
        rw [hr.hosts, installing_hosts] at hh
        split at hh
        · cases hh
        · exact ⟨‹_›, hh⟩
      refine h.of_view (fun a host hh => (hold a host hh).2) fun a id' hthere hrec => ?_
      obtain ⟨host, hhost⟩ := Option.ne_none_iff_exists'.mp hthere
      rw [hr.view_eq]
      refine ho.viewInstalling_egress? hf hrec (Owner.neighbor_ne_kernel a subnet).symm ?_
      intro ip hip
      cases hip
      exact (hold a host hhost).1
  | withdrawn hs hr => exact hr.hostsCarry_uninstalled ho h
  | removed he hr => exact hr.hostsCarry_uninstalled ho h
  | pended hs => exact h
  | unpended => exact h
  | learned he => exact h
  | forgotten he => exact h

theorem Steps.hostsCarry (hc : Steps refused event m m') (ho : m.Owned) (h : m.HostsCarry) :
    m'.HostsCarry := by
  induction hc with
  | refl => exact h
  | tail hs hc ih => exact hc.hostsCarry (Steps.owned hs ho) ih

/-! ### What is known -/

/-- Fewer host routes are still known. -/
theorem HostsKnown.of_fewer (h : m.HostsKnown) (hn : m'.neighbors = m.neighbors)
    (hh : ∀ ip h, m'.hosts.get? ip = some h → m.hosts.get? ip = some h) : m'.HostsKnown := by
  intro ip host hhost
  rw [hn]
  exact h ip host (hh ip host hhost)

/-- Host routes stay known, unless the event is about a neighbour. -/
theorem Step.hostsKnown (hc : Step refused event m m')
    (he : ∀ ip i mac? change, event ≠ .neighbor ip i mac? change) (h : m.HostsKnown) :
    m'.HostsKnown := by
  cases hc with
  | tried hr => exact h.of_fewer hr.neighbors fun _ _ hh => hr.hosts ▸ hh
  | elsewhere rest ports =>
      rw [rest]
      exact h
  | interfaceAdded hport hid hr => exact h.of_fewer hr.neighbors fun _ _ hh => hr.hosts ▸ hh
  | interfaceRemoved hport hr => exact h.of_fewer hr.neighbors fun _ _ hh => hr.hosts ▸ hh
  | @hosted n mac rp id slot _ hwants hn hrp hf hr =>
      intro ip host hhost
      rw [hr.neighbors]
      rw [hr.hosts, hosting] at hhost
      obtain ⟨rfl, rfl⟩ | hold := KeyMap.eq_or_get?_of_insert hhost
      · exact hn
      · exact h ip host hold
  | unhosted hip hr =>
      refine h.of_fewer hr.neighbors fun a host hh => ?_
      rw [hr.hosts] at hh
      exact KeyMap.get?_of_get?_erase hh
  | installed hn hrp hf hr =>
      refine h.of_fewer hr.still_installing.neighbors fun a host hh => ?_
      rw [hr.hosts, installing_hosts] at hh
      split at hh
      · cases hh
      · exact hh
  | withdrawn hs hr => exact h.of_fewer hr.neighbors fun _ _ hh => hr.hosts ▸ hh
  | removed he' hr => exact h.of_fewer hr.neighbors fun _ _ hh => hr.hosts ▸ hh
  | pended hs => exact h
  | unpended => exact h
  | learned he' => exact absurd he' (he _ _ _ _)
  | forgotten he' => exact absurd he' (he _ _ _ _)

theorem Steps.hostsKnown (hc : Steps refused event m m')
    (he : ∀ ip i mac? change, event ≠ .neighbor ip i mac? change) (h : m.HostsKnown) :
    m'.HostsKnown := by
  induction hc with
  | refl => exact h
  | tail hs hc ih => exact hc.hostsKnown he ih

/-- A neighbour that goes takes its host route with it, unless its index names no port. -/
theorem Gone.hostsKnown_iff (h : m.Gone refused ⟨ip, i⟩ m') (hk : m.HostsKnown) :
    m'.HostsKnown ↔ ¬ m.Misleads (.neighbor ip i mac? .removed) := by
  have hneighbors : m'.neighbors = m.neighbors.erase ⟨ip, i⟩ := h.rest.1.neighbors
  rw [misleads_removed_iff]
  constructor
  · rintro hk' ⟨hport, host, hhost, rfl⟩
    have hstays : m'.hosts.get? ip = some host := by
      rw [h.hosts_get?, if_neg fun hgoes => hgoes.2.1 hport, hhost]
    have hknown := hk' ip host hstays
    rw [hneighbors, KeyMap.get?_erase_self] at hknown
    cases hknown
  · intro hnot a host hhost
    rw [h.hosts_get?] at hhost
    split at hhost
    · cases hhost
    · rename_i hstays
      have hknown : m.neighbors.get? ⟨a, host.ifindex⟩ = some host.mac := hk a host hhost
      rw [hneighbors, KeyMap.get?_erase]
      split
      · rename_i he
        cases he
        -- it is the neighbour's own host route, and it has not gone
        by_cases hport : m.ports.get? host.ifindex = none
        · exact absurd ⟨hport, host, hhost, rfl⟩ hnot
        · exact absurd ⟨rfl, hport, hostVia_iff.mpr ⟨host, hhost, rfl⟩⟩ hstays
      · exact hknown

/-- Once a neighbour's address is learnt, host routes are known but for its own, which must have the new
address if it is behind the neighbour's index. -/
theorem hostsKnown_learned_iff {mac : MacAddr} (hk : m.HostsKnown)
    (hn : m'.neighbors = m.neighbors.insert ⟨ip, i⟩ mac)
    (hothers : ∀ a h, a ≠ ip → m'.hosts.get? a = some h → m.hosts.get? a = some h)
    (hown : ∀ h, m'.hosts.get? ip = some h → h.ifindex ≠ i → m.hosts.get? ip = some h) :
    m'.HostsKnown ↔ ¬ ∃ h, m'.hosts.get? ip = some h ∧ h.ifindex = i ∧ h.mac ≠ mac := by
  constructor
  · rintro hk' ⟨host, hhost, rfl, hmac⟩
    have hknown := hk' ip host hhost
    rw [hn, KeyMap.get?_insert_self] at hknown
    exact hmac (Option.some.inj hknown).symm
  · intro hnot a host hhost
    rw [hn, KeyMap.get?_insert]
    split
    · rename_i he
      cases he
      by_contra hmac
      exact hnot ⟨host, hhost, rfl, fun he => hmac (by rw [he])⟩
    · rename_i hne
      by_cases ha : a = ip
      · subst ha
        refine hk a host (hown host hhost ?_)
        rintro rfl
        exact hne rfl
      · exact hk a host (hothers a host ha hhost)

/-- After a neighbour with an interface has settled, its host route has another address exactly if it had
before and a route of the kernel, through another gateway, waits to take its place. -/
theorem settled_host_stale_iff {m₁ m₂ : Follower δ} {rp : RoutedPort} {mac : MacAddr} {moved : Bool}
    (ha : m.Apart) (ha' : m'.Apart)
    (helse : Elsewhere { m with neighbors := m.neighbors.insert ⟨ip, i⟩ mac } m₁)
    (hhouse : Housed refused rp ⟨ip, i⟩ mac m₁ m₂)
    (hset : Settled refused rp ⟨ip, i⟩ mac (m.waitingFor ⟨ip, i⟩ moved) m₂ m')
    (hroom : ¬ m'.Exhausted refused) :
    (∃ h, m'.hosts.get? ip = some h ∧ h.ifindex = i ∧ h.mac ≠ mac) ↔
      (∃ h, m.hosts.get? ip = some h ∧ h.ifindex = i ∧ h.mac ≠ mac) ∧
        ∃ hop, m.pending.get? (.host ip) = some hop ∧ hop ≠ ⟨ip, i⟩ := by
  have hhosts : m₁.hosts = m.hosts := helse.hosts
  have hwants : m₁.wantsHost ⟨ip, i⟩ mac = true ↔ m.installed.get? (.host ip) = none ∧
      m.pending.get? (.host ip) = none ∧
      ∀ h, m.hosts.get? ip = some h → ¬ (h.ifindex = i ∧ h.mac = mac) := by
    rw [wantsHost_iff, helse.installed, helse.pending, hhosts]
  constructor
  · rintro ⟨host, hhost, hi, hmac⟩
    have hhost₂ : m₂.hosts.get? ip = some host := hset.host_of_some hhost
    have hhad : m.hosts.get? ip = some host := by
      rcases hhouse.host_or hhost₂ with hsame | ⟨-, -, hnew⟩
      · exact hhosts ▸ hsame
      · exact absurd hnew hmac
    have hnone : m.installed.get? (.host ip) = none := ha.hosts ip (by simp [hhad])
    refine ⟨⟨host, hhad, hi, hmac⟩, ?_⟩
    -- a host route that is wanted would have been replaced
    have hunwanted : ¬ m₁.wantsHost ⟨ip, i⟩ mac = true := by
      intro hw
      rcases hhouse.hosts with ⟨hnot, -⟩ | ⟨-, ⟨id, hid⟩ | ⟨-, hfull⟩⟩
      · exact Bool.false_ne_true (hnot.symm.trans hw)
      · rw [hid, KeyMap.get?_insert_self] at hhost₂
        cases hhost₂
        exact hmac rfl
      · exact hroom (hset.exhausted hfull)
    have hwaits : m.pending.get? (.host ip) ≠ none := by
      intro hp
      refine hunwanted (hwants.mpr ⟨hnone, hp, fun h hh hsame => hmac ?_⟩)
      rw [hhad] at hh
      cases hh
      exact hsame.2
    obtain ⟨hop, hhop⟩ := Option.ne_none_iff_exists'.mp hwaits
    refine ⟨hop, hhop, ?_⟩
    rintro rfl
    -- a route that waits for the neighbour itself takes the place of the host route
    rcases hset.route (.host ip) with ⟨-, hfull⟩ | ⟨-, r, hr, -⟩
    · exact hroom (hfull (mem_waitingFor_iff.mpr (.inl hhop)))
    · rw [ha'.hosts ip (by simp [hhost])] at hr
      cases hr
  · rintro ⟨⟨host, hhad, hi, hmac⟩, hop, hhop, hne⟩
    have hnone : m.installed.get? (.host ip) = none := ha.hosts ip (by simp [hhad])
    have hunwanted : m₁.wantsHost ⟨ip, i⟩ mac ≠ true := by
      intro hw
      rw [(hwants.mp hw).2.1] at hhop
      cases hhop
    have hstays : m₂.hosts.get? ip = some host := by
      rcases hhouse.hosts with ⟨-, hsame⟩ | ⟨hw, -⟩
      · rw [hsame, hhosts, hhad]
      · exact absurd hw hunwanted
    have hnot : Subnet.host ip ∉ m.waitingFor ⟨ip, i⟩ moved := by
      rw [mem_waitingFor_iff, hhop, hnone]
      rintro (he | ⟨-, r, hr, -⟩)
      · exact hne (Option.some.inj he)
      · cases hr
    refine ⟨host, ?_, hi, hmac⟩
    rcases hset.hosts ip with hsame | ⟨hmem, -⟩
    · exact hsame.trans hstays
    · exact absurd hmem hnot

/-- The news of a neighbour leaves host routes known unless it misleads one. -/
theorem Added.hostsKnown_iff [Bus δ] (ht : Bus.Tells refused) (hs : m.Sound)
    (h : m.Added ⟨ip, i⟩ mac? m') (hk : m.HostsKnown) (hroom : ¬ m'.Exhausted refused) :
    m'.HostsKnown ↔ ¬ m.Misleads (.neighbor ip i mac? .added) := by
  have hapart : m'.Apart := (h.steps ht hs.toOwned).apart hs.toApart
  cases h with
  | ignored hnot =>
      refine iff_of_true hk ?_
      rcases hnot with rfl | hport
      · exact id
      · cases mac? with
        | none => exact id
        | some mac => exact fun hmis => hmis.1 hport
  | @noted port mac _ hmac hport hcrowd hid helse =>
      subst hmac
      have hnone : m.routedPort? i = none := by
        rw [routedPort?, show m.ports.get? i = some port from hport]
        simp [hid]
      have hhosts : m'.hosts = m.hosts := helse.hosts
      rw [hostsKnown_learned_iff hk helse.still.neighbors (fun _ _ _ hh => hhosts ▸ hh)
        fun _ hh _ => hhosts ▸ hh, hhosts]
      refine not_congr ⟨fun hold => ?_, fun hmis => hmis.2.2.1⟩
      exact ⟨by simp [hport], hcrowd, hold, .inl hnone⟩
  | @settled port mac id m₁ _ hmac hport hcrowd hid helse hsettle =>
      subst hmac
      obtain ⟨m₂, hhouse, hset⟩ := settled_ends ht hs hport hid helse hsettle
      have hneighbors : m'.neighbors = m.neighbors.insert ⟨ip, i⟩ mac :=
        (hhouse.still.trans hset.still).neighbors.trans helse.still.neighbors
      have hhosts : m₁.hosts = m.hosts := helse.hosts
      have hold (a : Ipv4) (host : HostRoute) (hh : m'.hosts.get? a = some host) :
          m.hosts.get? a = some host ∨ ip = a ∧ host.ifindex = i := by
        rw [← hhosts]
        exact (hhouse.host_or (hset.host_of_some hh)).imp_right fun hnew => ⟨hnew.1, hnew.2.1⟩
      have hlearned := hostsKnown_learned_iff hk hneighbors
        (fun a host ha hh => (hold a host hh).resolve_right fun hnew => ha hnew.1.symm)
        fun host hh hi => (hold ip host hh).resolve_right fun hnew => hi hnew.2
      have hrp : m.routedPort? i = some ⟨port, id⟩ := routedPort?_eq_some_iff.mpr ⟨hport, hid⟩
      rw [hlearned, settled_host_stale_iff hs.toApart hapart helse hhouse hset hroom]
      refine not_congr ⟨?_, ?_⟩
      · rintro ⟨hstale, hwaits⟩
        exact ⟨by simp [hport], hcrowd, hstale, .inr hwaits⟩
      · rintro ⟨-, -, hstale, hnone | hwaits⟩
        · rw [hrp] at hnone
          cases hnone
        · exact ⟨hstale, hwaits⟩

/-- Host routes agree with what is known unless the event misleads one. -/
theorem handle_hostsAgree_iff [Bus δ] (ht : Bus.Tells refused) (hs : m.Sound) (h : m.HostsAgree)
    (hroom : ¬ (handle event m).2.Exhausted refused) :
    (handle event m).2.HostsAgree ↔ ¬ m.Misleads event := by
  have hsteps := handle_steps ht hs event
  have hcarry : (handle event m).2.HostsCarry := hsteps.hostsCarry hs.toOwned h.carry
  refine Iff.trans ⟨HostsAgree.known, fun hk => ⟨hk, hcarry⟩⟩ ?_
  by_cases he : ∃ ip i mac? change, event = .neighbor ip i mac? change
  · obtain ⟨ip, i, mac?, change, rfl⟩ := he
    cases handle_handled ht hs (.neighbor ip i mac? change) with
    | added ha => exact ha.hostsKnown_iff ht hs h.known hroom
    | crowded ho helse hwhy =>
        -- no address is learnt, as there is no room for the station
        refine iff_of_true (h.known.of_fewer helse.still.neighbors fun _ _ hh => helse.hosts ▸ hh) ?_
        exact fun hmis => hwhy.elim (fun hr => hroom (.inl hr)) hmis.2.1
    | gone hg => exact hg.hostsKnown_iff h.known
  · refine iff_of_true (hsteps.hostsKnown ?_ h.known) fun hmis => he hmis.event_eq
    intro ip i mac? change hev
    exact he ⟨ip, i, mac?, change, hev⟩

/-- The news of a neighbour does not mislead where its host route can follow. -/
theorem not_misleads_of_routed {mac : MacAddr} (hrp : m.routedPort? i ≠ none)
    (hp : m.pending.get? (.host ip) = none) :
    ¬ m.Misleads (.neighbor ip i (some mac) .added) := by
  rintro ⟨-, -, -, hnone | ⟨hop, hhop, -⟩⟩
  · exact hrp hnone
  · rw [hp] at hhop
    cases hhop

/-! ### Every run -/

/-- On a device that refuses nothing, and with room for another egress object and another route after
every event, every host route in the books has after every event the MAC address that its neighbour is
known by, and packets on it get that address, exactly if no event misleads a host route. -/
theorem host_routes_agree_iff [Bus δ] (board : Board) (bus : δ) (events : List Event)
    (hok : ∀ k ≤ events.length,
      (watchedRun board bus (events.take k)).switch.bus.refused = false)
    (hegresses : ∀ k ≤ events.length,
      ¬ (watchedRun board bus (events.take k)).view.EgressesFull)
    (hslots : ∀ k ≤ events.length,
      ¬ (watchedRun board bus (events.take k)).view.SlotsFull) :
    (∀ k ≤ events.length, (watchedRun board bus (events.take k)).HostsAgree) ↔
      ∀ k event, events[k]? = some event →
        ¬ (watchedRun board bus (events.take k)).Misleads event := by
  have hstart : (fresh (.fresh board (Watched.start bus))).HostsAgree := by
    constructor <;>
      · intro ip host hhost
        cases hhost
  refine run_holds_iff (fun m => ¬ m.Exhausted fun w => w.refused = true) ?_ (sound_fresh board _)
    hstart ?_
  · intro m event hs h hroom
    exact handle_hostsAgree_iff Watched.tells_refused hs h hroom
  · exact fun k hk => not_exhausted (hok k hk) (hegresses k hk) (hslots k hk)

/-- The neighbour's address changes, and then the neighbour goes. -/
def departed : List Event :=
  arrival ++ [.neighbor ⟨0x0a000001⟩ 5 (some ⟨0x52, 0x54, 0, 0, 0, 2⟩) .added,
    .neighbor ⟨0x0a000001⟩ 5 none .removed]

/-- A host route follows its neighbour to another address, and goes with it. -/
theorem host_routes_agree_departed :
    (following (departed.take 4)).hosts.get? ⟨0x0a000001⟩ =
        some ⟨5, ⟨0x52, 0x54, 0, 0, 0, 2⟩, 2⟩ ∧
      (following departed).hosts.get? ⟨0x0a000001⟩ = none ∧
      ∀ k ≤ departed.length, (following (departed.take k)).HostsAgree := by
  have hspare : ∀ k ≤ departed.length, (following (departed.take k)).Spare := by decide +kernel
  have hrouted : ∀ k ≤ 4, 2 ≤ k → (following (departed.take k)).routedPort? 5 ≠ none := by
    decide +kernel
  have hpending : ∀ k ≤ 4,
      (following (departed.take k)).pending.get? (.host ⟨0x0a000001⟩) = none := by decide +kernel
  have hport : (following (departed.take 4)).ports.get? 5 ≠ none := by decide +kernel
  have hnot (k : Nat) (event : Event) (hk : departed[k]? = some event) :
      ¬ (following (departed.take k)).Misleads event := by
    match k with
    | 0 | 1 =>
        cases hk
        exact id
    | 2 | 3 =>
        cases hk
        exact not_misleads_of_routed (hrouted _ (by decide) (by decide)) (hpending _ (by decide))
    | 4 =>
        cases hk
        exact fun hmis => hport hmis.1
    | k + 5 => cases hk
  exact ⟨by decide +kernel, by decide +kernel,
    (host_routes_agree_iff _ _ departed (fun k hk => (hspare k hk).not_refused)
      (fun k hk => (hspare k hk).not_egressesFull) fun k hk => (hspare k hk).not_slotsFull).mpr hnot⟩

/-- The neighbour goes after the index that it is behind. -/
def abandoned : List Event :=
  arrival ++ [.linkRemoved 5, .neighbor ⟨0x0a000001⟩ 5 none .removed]

/-- A host route outlives its neighbour. -/
theorem host_route_outlives :
    (∀ k ≤ abandoned.length, (following (abandoned.take k)).switch.bus.refused = false) ∧
      (∀ k ≤ abandoned.length, ¬ (following (abandoned.take k)).view.EgressesFull ∧
        ¬ (following (abandoned.take k)).view.SlotsFull) ∧
      (following abandoned).hosts.get? ⟨0x0a000001⟩ = some ⟨5, ⟨0x52, 0x54, 0, 0, 0, 1⟩, 1⟩ ∧
      (following abandoned).neighbors.get? ⟨⟨0x0a000001⟩, 5⟩ = none ∧
      ¬ ∀ k ≤ abandoned.length, (following (abandoned.take k)).HostsAgree := by
  have hspare : ∀ k ≤ abandoned.length, (following (abandoned.take k)).Spare := by decide +kernel
  have hhost : (following abandoned).hosts.get? ⟨0x0a000001⟩ =
      some ⟨5, ⟨0x52, 0x54, 0, 0, 0, 1⟩, 1⟩ := by decide +kernel
  have hneighbor : (following abandoned).neighbors.get? ⟨⟨0x0a000001⟩, 5⟩ = none := by
    decide +kernel
  refine ⟨fun k hk => (hspare k hk).not_refused, fun k hk => ⟨?_, ?_⟩, hhost, hneighbor, fun h => ?_⟩
  · exact (hspare k hk).not_egressesFull
  · exact (hspare k hk).not_slotsFull
  · have hlast := h abandoned.length (Nat.le_refl _)
    rw [List.take_length] at hlast
    have hknown := hlast.known _ _ hhost
    rw [hneighbor] at hknown
    cases hknown

end ControlPlane.Follower
