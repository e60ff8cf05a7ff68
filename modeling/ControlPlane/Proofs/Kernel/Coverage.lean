import ControlPlane.Proofs.Kernel.Events
import ControlPlane.Proofs.Kernel.Settling

/-! # Is every neighbour in reach covered?

A neighbour is in reach if its address is known and its port has an interface.  The books should have
a route for its address then: its host route, or one of the kernel's.  Host routes go by address alone,
though, and several neighbours can share an address, each behind an index of its own.  Four kinds of
events leave one of them uncovered:

* an index comes to name a port with an interface, and no host route is installed;
* a port loses its interface, and the routes over it go that covered a neighbour elsewhere;
* a neighbour goes, and the host route with it that covered another with its address;
* the kernel's route for a single address goes, and the host route is put back neither where that route
  was only pending nor where the first neighbour with the address is out of reach.

`Uncovers m event` says when, in terms of the state before the event alone, and
`neighbors_covered_iff` that these are all: where the device refuses nothing and no table is full,
neighbours in reach are covered throughout a run exactly if no event uncovers one. -/

namespace ControlPlane.Follower

open Operation (Ends)

variable {δ : Type} {refused : δ → Prop} {event : Event} {m m' : Follower δ} {ip : Ipv4}
  {i : IfIndex}

/-- A neighbour's address is known, and its port has an interface. -/
def InReach (m : Follower δ) (ip : Ipv4) (i : IfIndex) : Prop :=
  m.neighbors.get? ⟨ip, i⟩ ≠ none ∧ m.routedPort? i ≠ none

def AllCovered (m : Follower δ) : Prop := ∀ ip i, m.InReach ip i → m.Covered ip

/-- The books have a route for an address that does not lead over an interface. -/
def CoveredBeyond (m : Follower δ) (id : InterfaceId) (ip : Ipv4) : Prop :=
  (∃ h, m.hosts.get? ip = some h ∧ h.egress ∉ m.switch.routing.egressesOn id) ∨
    (∃ r, m.installed.get? (.host ip) = some r ∧ r.egress ∉ m.switch.routing.egressesOn id) ∨
    m.pending.get? (.host ip) ≠ none

/-- An event leaves a neighbour that is in reach without a route for its address. -/
def Uncovers (m : Follower δ) : Event → Prop
  | .link i name _ =>
      ∃ port ip, m.named? name = some port ∧ m.interfaces.get? port ≠ none ∧
        m.neighbors.get? ⟨ip, i⟩ ≠ none ∧ ¬ m.Covered ip
  | .address i .removed =>
      ∃ rp ip k, m.routedPort? i = some rp ∧ m.InReach ip k ∧ m.ports.get? k ≠ some rp.port ∧
        ¬ m.CoveredBeyond rp.interface ip
  | .route subnet .removed _ _ =>
      subnet.len = 32 ∧ m.hosts.get? subnet.addr = none ∧ (∃ k, m.InReach subnet.addr k) ∧
        (m.installed.get? subnet = none ∨ m.resolved? subnet.addr = none)
  | .neighbor ip i _ .removed =>
      m.ports.get? i ≠ none ∧ (∃ h, m.hosts.get? ip = some h ∧ h.ifindex = i) ∧
        m.pending.get? (.host ip) = none ∧ ∃ k, k ≠ i ∧ m.InReach ip k
  | _ => False

/-! ### Nothing more in reach -/

theorem AllCovered.mono (h : m.AllCovered) (hr : ∀ ip i, m'.InReach ip i → m.InReach ip i)
    (hc : ∀ ip, m.Covered ip → m'.Covered ip) : m'.AllCovered :=
  fun ip i hreach => hc ip (h ip i (hr ip i hreach))

theorem inReach_congr (h : m.Still m') : m'.InReach ip i ↔ m.InReach ip i := by
  rw [InReach, InReach, h.neighbors, h.routedPort?_eq]

theorem AllCovered.of_still (h : m.AllCovered) (hs : m.Still m')
    (hc : ∀ ip, m.Covered ip → m'.Covered ip) : m'.AllCovered :=
  h.mono (fun _ _ => (inReach_congr hs).mp) hc

theorem Elsewhere.covered_iff (h : m.Elsewhere m') : m'.Covered ip ↔ m.Covered ip := by
  rw [Covered, Covered, h.hosts, h.installed, h.pending]

/-! ### Events -/

theorem Renamed.allCovered_iff {port? : Option PortId} (h : m.Renamed i port? m')
    (hc : m.AllCovered) :
    m'.AllCovered ↔ ¬ ∃ port ip, port? = some port ∧ m.interfaces.get? port ≠ none ∧
      m.neighbors.get? ⟨ip, i⟩ ≠ none ∧ ¬ m.Covered ip := by
  have hcovered (ip : Ipv4) : m'.Covered ip ↔ m.Covered ip := by
    rw [h.rest]
    rfl
  constructor
  · rintro hc' ⟨port, ip, hport, hid, hknown, hnot⟩
    refine hnot ((hcovered ip).mp (hc' ip i ⟨?_, (h.routed_iff i).mpr ?_⟩))
    · rwa [h.neighbors]
    · rw [if_pos rfl]
      exact ⟨port, hport, hid⟩
  · rintro hnot ip k ⟨hknown, hrouted⟩
    rw [hcovered]
    rw [h.neighbors] at hknown
    rw [h.routed_iff] at hrouted
    split at hrouted
    · rename_i hk
      obtain ⟨port, hport, hid⟩ := hrouted
      by_contra hip
      exact hnot ⟨port, ip, hport, hid, hk ▸ hknown, hip⟩
    · exact hc ip k ⟨hknown, hrouted⟩

/-- A port that is given an interface has host routes for all neighbours that it reaches. -/
theorem Addressed.allCovered [Bus δ] (ht : Bus.Tells refused) (hs : m.Sound)
    (h : m.Addressed refused i m') (hc : m.AllCovered) (hroom : ¬ m'.Exhausted refused) :
    m'.AllCovered := by
  cases h with
  | ignored => exact hc
  | @made port id face m₁ _ hport hnone hid hr hlodge =>
      obtain ⟨hsup, -, -, hlodged⟩ := lodged_ends ht hs hport hr hlodge
      have hports : m'.ports = m.ports := hsup.still.ports.trans hr.ports
      have hinterfaces : m'.interfaces = m.interfaces.insert port id :=
        hsup.still.interfaces.trans hr.interfaces
      rintro ip k ⟨hknown, hrouted⟩
      rw [hsup.still.neighbors, hr.neighbors] at hknown
      rcases (routed_insert_iff hports hinterfaces k).mp hrouted with hk | hk
      · obtain ⟨mac, hmac⟩ := Option.ne_none_iff_exists'.mp hknown
        exact hlodged (⟨ip, k⟩, mac) (mem_neighborsOn_iff.mpr ⟨hmac, hk⟩) hroom
      · exact hsup.covered ip (hr.covered_iff.mpr (hc ip k ⟨hknown, hk⟩))

theorem Cleared.covered_iff {id : InterfaceId}
    (h : Cleared (m.installedOver (m.switch.routing.egressesOn id))
      (m.hostsOver (m.switch.routing.egressesOn id)) m m') :
    m'.Covered ip ↔ m.CoveredBeyond id ip := by
  have hhosts : m'.hosts.get? ip ≠ none ↔
      ∃ host, m.hosts.get? ip = some host ∧ host.egress ∉ m.switch.routing.egressesOn id := by
    rw [h.hosts, ite_ne_left_iff, mem_hostsOver_iff]
    cases m.hosts.get? ip <;> simp
  have hinstalled : m'.installed.get? (.host ip) ≠ none ↔
      ∃ r, m.installed.get? (.host ip) = some r ∧ r.egress ∉ m.switch.routing.egressesOn id := by
    rw [h.installed, ite_ne_left_iff, mem_installedOver_iff]
    cases m.installed.get? (.host ip) <;> simp
  rw [Covered, CoveredBeyond, hhosts, hinstalled, h.pending]

/-- A port that loses its interface takes all routes over it with it. -/
theorem Unaddressed.allCovered_iff (h : m.Unaddressed refused i m') (hc : m.AllCovered) :
    m'.AllCovered ↔ ¬ m.Uncovers (.address i .removed) := by
  cases h with
  | ignored hnone =>
      refine iff_of_true hc ?_
      rintro ⟨rp, -, -, hrp, -⟩
      rw [hnone] at hrp
      cases hrp
  | @cleared port id m₁ _ hrp hclear hr =>
      have hports : m'.ports = m.ports := hr.ports.trans hclear.still.ports
      have hneighbors : m'.neighbors = m.neighbors := hr.neighbors.trans hclear.still.neighbors
      have hinterfaces : m'.interfaces = m.interfaces.erase port := by
        rw [hr.interfaces, hclear.still.interfaces]
      have hcovered (ip : Ipv4) : m'.Covered ip ↔ m.CoveredBeyond id ip :=
        hr.covered_iff.trans hclear.covered_iff
      constructor
      · rintro hc' ⟨rp, ip, k, hrp', ⟨hknown, hrouted⟩, hk, hnot⟩
        rw [hrp] at hrp'
        cases hrp'
        refine hnot ((hcovered ip).mp (hc' ip k ⟨?_, ?_⟩))
        · rwa [hneighbors]
        · exact (routed_erase_iff hports hinterfaces k).mpr ⟨hk, hrouted⟩
      · rintro hnot ip k ⟨hknown, hrouted⟩
        rw [hneighbors] at hknown
        obtain ⟨hk, hrouted⟩ := (routed_erase_iff hports hinterfaces k).mp hrouted
        by_contra hip
        rw [hcovered] at hip
        exact hnot ⟨⟨port, id⟩, ip, k, hrp, ⟨hknown, hrouted⟩, hk, hip⟩

theorem Announced.allCovered {subnet : Subnet} {gateway : Option Ipv4} {via : Option IfIndex}
    (h : m.Announced refused subnet gateway via m') (hc : m.AllCovered) : m'.AllCovered := by
  cases h with
  | ignored => exact hc
  | installed hg hv hmac hrp hf hr =>
      exact hc.of_still hr.still_installing fun _ hip => hr.covered_iff.mpr (hip.installing subnet _)
  | @pended hop m₁ hg hv hmac hm =>
      obtain ⟨hstill, hpending, hhosts, hinstalled⟩ := hm.rest
      refine hc.of_still ⟨hstill.ports, hstill.interfaces, hstill.neighbors⟩ fun ip hip => ?_
      by_cases hsub : subnet = .host ip
      · -- it is covered by the route that waits
        refine .inr (.inr ?_)
        rw [hsub, KeyMap.get?_insert_self]
        exact Option.some_ne_none hop
      · refine hip.congr (by rw [hhosts]) ?_ ?_
        · rw [hinstalled, KeyMap.get?_erase_of_ne _ hsub]
        · rw [KeyMap.get?_insert_of_ne _ _ hsub, hpending]

/-- The host route that is put back covers its address, unless there is no room. -/
theorem Restored.covered_iff (h : m.Restored refused ip m') (hw : m.Wired)
    (hroom : ¬ m'.Exhausted refused) :
    m'.Covered ip ↔ m.Covered ip ∨ m.resolved? ip ≠ none := by
  cases h with
  | unresolved hr => simp [hr]
  | unwanted hr hwants =>
      have hcovered := covered_of_wantsHost_eq_false hwants
      rw [(resolved?_some hr).1] at hcovered
      exact iff_of_true hcovered (.inl hcovered)
  | @hosted n mac rp id slot _ hr hwants hf h =>
      have hcovered := covered_hosting m n mac id
      rw [(resolved?_some hr).1] at hcovered
      exact iff_of_true (h.covered_iff.mpr hcovered) (.inr (by simp [hr]))
  | failed hr hwants h ho =>
      obtain ⟨-, -, hrp⟩ := resolved?_some hr
      exact absurd ((hw.ready hrp).exhausted h.view_eq ho) hroom

theorem Restored.covered_congr {a : Ipv4} (h : m.Restored refused ip m') (hne : ip ≠ a) :
    m'.Covered a ↔ m.Covered a := by
  cases h with
  | unresolved hr => rfl
  | unwanted hr hwants => rfl
  | hosted hr hwants hf h =>
      rw [h.covered_iff, Covered, Covered, hosting, (resolved?_some hr).1,
        KeyMap.get?_insert_of_ne _ _ hne]
  | failed hr hwants h ho => exact h.covered_iff

theorem Removed.covered_of_ne {subnet : Subnet} (h : m.Removed refused subnet m')
    (hne : subnet ≠ .host ip) : m'.Covered ip ↔ m.Covered ip := by
  cases h with
  | nothing hv hi h =>
      rw [h.covered_iff, Covered, Covered, KeyMap.get?_erase_of_ne _ hne]
  | @route m₁ _ hfound h hrest =>
      have hcovered : m₁.Covered ip ↔ m.Covered ip := by
        rw [h.covered_iff, Covered, Covered, KeyMap.get?_erase_of_ne _ hne,
          KeyMap.get?_erase_of_ne _ hne]
      split at hrest
      · rename_i hlen
        refine (hrest.covered_congr fun ha => hne ?_).trans hcovered
        rw [subnet.eq_host_of_len hlen, ha]
      · rw [hrest]
        exact hcovered

/-- When the kernel's route for an address goes, only a host route can cover the address: one that is
there, or that of the first neighbour with the address if the kernel's route was installed. -/
theorem Removed.covered_iff (h : m.Removed refused (.host ip) m') (hs : m.Sound)
    (hroom : ¬ m'.Exhausted refused) :
    m'.Covered ip ↔ m.hosts.get? ip ≠ none ∨
      m.installed.get? (.host ip) ≠ none ∧ m.resolved? ip ≠ none := by
  cases h with
  | nothing hv hi h =>
      rw [h.covered_iff, Covered]
      simp [hi]
  | @route m₁ _ hfound h hrest =>
      have hrest : m₁.Restored refused ip m' := hrest
      have hwired : m₁.Wired :=
        hs.toWired.congr h.ports h.interfaces h.board (by rw [h.view_eq]; simp)
      have hstill : m.Still m₁ := ⟨h.ports, h.interfaces, h.neighbors⟩
      have hcovered : m₁.Covered ip ↔ m.hosts.get? ip ≠ none := by
        rw [h.covered_iff, Covered]
        simp
      rw [hrest.covered_iff hwired hroom, hcovered, hstill.resolved?_eq]
      refine or_congr_right' fun hnone => (and_iff_right ?_).symm
      rw [Subnet.canon_host] at hfound
      rcases hfound with hfound | hfound
      · exact (hs.toOwned.hosts_or_installed hfound).resolve_left hnone
      · exact hfound

theorem Removed.allCovered_iff {subnet : Subnet} {gateway : Option Ipv4} {via : Option IfIndex}
    (h : m.Removed refused subnet m') (hs : m.Sound) (hc : m.AllCovered)
    (hroom : ¬ m'.Exhausted refused) :
    m'.AllCovered ↔ ¬ m.Uncovers (.route subnet .removed gateway via) := by
  have hreach (ip : Ipv4) (k : IfIndex) : m'.InReach ip k ↔ m.InReach ip k := inReach_congr h.rest.1
  constructor
  · rintro hc' ⟨hlen, hhost, ⟨k, hk⟩, hnot⟩
    rw [subnet.eq_host_of_len hlen] at h hnot
    rcases (h.covered_iff hs hroom).mp (hc' _ k ((hreach _ k).mpr hk)) with hh | ⟨hi, hr⟩
    · exact hh hhost
    · exact hnot.elim hi hr
  · intro hnot ip k hk
    rw [hreach] at hk
    by_cases hsub : subnet = .host ip
    · subst hsub
      refine (h.covered_iff hs hroom).mpr ?_
      by_contra hno
      rw [not_or, not_not, not_and_or, not_not, not_not] at hno
      exact hnot ⟨rfl, hno.1, ⟨k, hk⟩, hno.2⟩
    · exact (h.covered_of_ne hsub).mpr (hc ip k hk)

/-- The news of a neighbour on a port with an interface installs its host route. -/
theorem Added.allCovered [Bus δ] (ht : Bus.Tells refused) (hs : m.Sound) {n : Neighbor}
    {mac? : Option MacAddr} (h : m.Added n mac? m') (hc : m.AllCovered)
    (hroom : ¬ m'.Exhausted refused) : m'.AllCovered := by
  cases h with
  | ignored => exact hc
  | @noted port mac _ hmac hport hcrowd hid helse =>
      rintro ip k ⟨hknown, hrouted⟩
      rw [helse.still.routedPort?_eq] at hrouted
      rw [helse.still.neighbors, KeyMap.get?_insert] at hknown
      split at hknown
      · rename_i he
        subst he
        -- its port has no interface
        obtain ⟨port', hport', hid'⟩ := routedPort?_ne_none_iff.mp hrouted
        cases hport.symm.trans hport'
        exact absurd hid hid'
      · exact helse.covered_iff.mpr (hc ip k ⟨hknown, hrouted⟩)
  | @settled port mac id m₁ _ hmac hport hcrowd hid helse hsettle =>
      obtain ⟨m₂, hhouse, hset⟩ := settled_ends ht hs hport hid helse hsettle
      have hstill := helse.still.trans (hhouse.still.trans hset.still)
      rintro ip k ⟨hknown, hrouted⟩
      rw [hstill.routedPort?_eq] at hrouted
      rw [hstill.neighbors, KeyMap.get?_insert] at hknown
      split at hknown
      · rename_i he
        subst he
        exact hset.covered _ (hhouse.covers fun he => hroom (hset.exhausted he))
      · have hcovered : m₁.Covered ip := helse.covered_iff.mpr (hc ip k ⟨hknown, hrouted⟩)
        exact hset.covered ip (hhouse.covered ip hcovered)

/-- A neighbour that goes takes the host route of its address with it, whoever else has the address. -/
theorem Gone.allCovered_iff {mac? : Option MacAddr} (h : m.Gone refused ⟨ip, i⟩ m') (hs : m.Sound)
    (hc : m.AllCovered) :
    m'.AllCovered ↔ ¬ m.Uncovers (.neighbor ip i mac? .removed) := by
  obtain ⟨hstill, hpending, hinstalled⟩ := h.rest
  have hreach (a : Ipv4) (k : IfIndex) :
      m'.InReach a k ↔ (⟨ip, i⟩ : Neighbor) ≠ ⟨a, k⟩ ∧ m.InReach a k := by
    rw [inReach_congr hstill, InReach, KeyMap.get?_erase]
    split
    · rename_i he
      exact iff_of_false (fun hin => hin.1 rfl) fun hin => hin.1 he
    · rename_i hne
      exact (and_iff_right hne).symm
  constructor
  · rintro hc' ⟨hport, hvia, hnone, k, hk, hin⟩
    have hhost : m.hosts.get? ip ≠ none := by
      obtain ⟨host, hhost, -⟩ := hvia
      simp [hhost]
    have hne : (⟨ip, i⟩ : Neighbor) ≠ ⟨ip, k⟩ := by
      rintro ⟨⟩
      exact hk rfl
    rcases hc' ip k ((hreach ip k).mpr ⟨hne, hin⟩) with hh | hi | hp
    · rw [h.hosts_get?, if_pos ⟨rfl, hport, hostVia_iff.mpr hvia⟩] at hh
      exact hh rfl
    · rw [hinstalled] at hi
      exact hi (hs.hosts ip hhost)
    · rw [hpending] at hp
      exact hp hnone
  · intro hnot a k hk
    obtain ⟨hne, hin⟩ := (hreach a k).mp hk
    have hcovered : m.Covered a := hc a k hin
    by_cases hgoes : ip = a ∧ m.ports.get? i ≠ none ∧ m.hostVia ⟨ip, i⟩ = true
    · obtain ⟨rfl, hport, hvia⟩ := hgoes
      have hk : k ≠ i := by
        rintro rfl
        exact hne rfl
      refine .inr (.inr fun hnone => hnot ⟨hport, hostVia_iff.mp hvia, ?_, k, hk, hin⟩)
      rwa [hpending] at hnone
    · refine hcovered.congr ?_ (by rw [hinstalled]) (by rw [hpending])
      rw [h.hosts_get?, if_neg hgoes]

/-- Neighbours in reach stay covered unless the event uncovers one. -/
theorem handle_allCovered_iff [Bus δ] (ht : Bus.Tells refused) (hs : m.Sound) (hc : m.AllCovered)
    (hroom : ¬ (handle event m).2.Exhausted refused) :
    (handle event m).2.AllCovered ↔ ¬ m.Uncovers event := by
  cases handle_handled ht hs event with
  | renamed h => exact h.allCovered_iff hc
  | unnamed h =>
      refine iff_of_true ((h.allCovered_iff hc).mpr ?_) id
      rintro ⟨_, _, hport, _⟩
      cases hport
  | addressed h => exact iff_of_true (h.allCovered ht hs hc hroom) id
  | unmade ho h hwhy => exact iff_of_true (hc.of_still h.still fun _ => h.covered_iff.mpr) id
  | unaddressed hsteps h => exact h.allCovered_iff hc
  | announced ho h => exact iff_of_true (h.allCovered hc) id
  | failed ho h => exact iff_of_true (hc.of_still h.still fun _ => h.covered_iff.mpr) id
  | removed h => exact h.allCovered_iff hs hc hroom
  | added h => exact iff_of_true (h.allCovered ht hs hc hroom) id
  | crowded ho h hwhy => exact iff_of_true (hc.of_still h.still fun _ => h.covered_iff.mpr) id
  | gone h => exact h.allCovered_iff hs hc

/-! ### Every run -/

/-- On a device that refuses nothing, and with room for another egress object and another route after
every event, the books have a route for the address of every neighbour in reach after every event,
exactly if no event uncovers one. -/
theorem neighbors_covered_iff [Bus δ] (board : Board) (bus : δ) (events : List Event)
    (hok : ∀ k ≤ events.length,
      (watchedRun board bus (events.take k)).switch.bus.refused = false)
    (hegresses : ∀ k ≤ events.length,
      ¬ (watchedRun board bus (events.take k)).view.EgressesFull)
    (hslots : ∀ k ≤ events.length,
      ¬ (watchedRun board bus (events.take k)).view.SlotsFull) :
    (∀ k ≤ events.length, (watchedRun board bus (events.take k)).AllCovered) ↔
      ∀ k event, events[k]? = some event →
        ¬ (watchedRun board bus (events.take k)).Uncovers event := by
  have hstart : (fresh (.fresh board (Watched.start bus))).AllCovered := by
    rintro ip i ⟨hknown, -⟩
    exact absurd rfl hknown
  refine run_holds_iff (fun m => ¬ m.Exhausted fun w => w.refused = true) ?_ (sound_fresh board _)
    hstart ?_
  · intro m event hs hc hroom
    exact handle_allCovered_iff Watched.tells_refused hs hc hroom
  · exact fun k hk => not_exhausted (hok k hk) (hegresses k hk) (hslots k hk)

/-- A route of the kernel takes the place of a neighbour's host route, and goes again. -/
def relieved : List Event :=
  arrival ++ [.neighbor ⟨0x0a000009⟩ 5 (some ⟨0x52, 0x54, 0, 0, 0, 9⟩) .added,
    .route (.host ⟨0x0a000001⟩) .added (some ⟨0x0a000009⟩) (some 5),
    .route (.host ⟨0x0a000001⟩) .removed none none]

/-- A neighbour that the kernel's route for its address has covered gets its host route back. -/
theorem neighbors_covered_relieved :
    (following (relieved.take 5)).hosts.get? ⟨0x0a000001⟩ = none ∧
      (following relieved).hosts.get? ⟨0x0a000001⟩ = some ⟨5, ⟨0x52, 0x54, 0, 0, 0, 1⟩, 4⟩ ∧
      ∀ k ≤ relieved.length, (following (relieved.take k)).AllCovered := by
  have hspare : ∀ k ≤ relieved.length, (following (relieved.take k)).Spare := by decide +kernel
  have hinstalled : (following (relieved.take 5)).installed.get? (.host ⟨0x0a000001⟩) ≠ none := by
    decide +kernel
  have hresolved : (following (relieved.take 5)).resolved? ⟨0x0a000001⟩ ≠ none := by decide +kernel
  have hnot (k : Nat) (event : Event) (hk : relieved[k]? = some event) :
      ¬ (following (relieved.take k)).Uncovers event := by
    match k with
    | 0 =>
        cases hk
        rintro ⟨-, ip, -, -, hknown, -⟩
        exact hknown rfl
    | 1 | 2 | 3 | 4 =>
        cases hk
        exact id
    | 5 =>
        cases hk
        rintro ⟨-, -, -, hnot⟩
        exact hnot.elim hinstalled hresolved
    | k + 6 => cases hk
  exact ⟨by decide +kernel, by decide +kernel,
    (neighbors_covered_iff _ _ relieved (fun k hk => (hspare k hk).not_refused)
      (fun k hk => (hspare k hk).not_egressesFull) fun k hk => (hspare k hk).not_slotsFull).mpr hnot⟩

/-- A neighbour appears while the kernel's route for its address waits for a gateway, and then that
route goes. -/
def deserted : List Event :=
  [.link 5 "swp12" true, .address 5 .added,
    .route (.host ⟨0x0a000001⟩) .added (some ⟨0x0a000009⟩) (some 5),
    .neighbor ⟨0x0a000001⟩ 5 (some ⟨0x52, 0x54, 0, 0, 0, 1⟩) .added,
    .route (.host ⟨0x0a000001⟩) .removed none none]

/-- A neighbour in reach is left without a route for its address. -/
theorem neighbor_uncovered :
    (∀ k ≤ deserted.length, (following (deserted.take k)).switch.bus.refused = false) ∧
      (∀ k ≤ deserted.length, ¬ (following (deserted.take k)).view.EgressesFull ∧
        ¬ (following (deserted.take k)).view.SlotsFull) ∧
      (following deserted).InReach ⟨0x0a000001⟩ 5 ∧
      (following deserted).hosts.get? ⟨0x0a000001⟩ = none ∧
      (following deserted).installed.get? (.host ⟨0x0a000001⟩) = none ∧
      (following deserted).pending.get? (.host ⟨0x0a000001⟩) = none ∧
      ¬ ∀ k ≤ deserted.length, (following (deserted.take k)).AllCovered := by
  have hspare : ∀ k ≤ deserted.length, (following (deserted.take k)).Spare := by decide +kernel
  have hreach : (following deserted).InReach ⟨0x0a000001⟩ 5 :=
    ⟨by decide +kernel, by decide +kernel⟩
  have hhost : (following deserted).hosts.get? ⟨0x0a000001⟩ = none := by decide +kernel
  have hinstalled : (following deserted).installed.get? (.host ⟨0x0a000001⟩) = none := by
    decide +kernel
  have hpending : (following deserted).pending.get? (.host ⟨0x0a000001⟩) = none := by
    decide +kernel
  refine ⟨fun k hk => (hspare k hk).not_refused, fun k hk => ⟨?_, ?_⟩, hreach, hhost, hinstalled,
    hpending, fun h => ?_⟩
  · exact (hspare k hk).not_egressesFull
  · exact (hspare k hk).not_slotsFull
  · have hlast := h deserted.length (Nat.le_refl _)
    rw [List.take_length] at hlast
    rcases hlast ⟨0x0a000001⟩ 5 hreach with hh | hi | hp
    · exact hh hhost
    · exact hi hinstalled
    · exact hp hpending

end ControlPlane.Follower
