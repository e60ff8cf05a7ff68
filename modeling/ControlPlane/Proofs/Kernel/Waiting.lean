import ControlPlane.Proofs.Kernel.Events
import ControlPlane.Proofs.Kernel.Settling

/-! # Does a route wait for what is there?

A route is pending while its gateway has no address.  Once the gateway has one and its port has an
interface, the route should not be pending any more.  Every event keeps it so but two: an address that
gives a port its interface back, and an index that comes to name a port with an interface.  A gateway's
address may have been learnt before, and it is not told again; at that moment host routes are installed,
at most, and no route that waits is tried again.

* `Stalls m event` says when that happens, in terms of the state before the event alone.
* `Added.noneStuck`: the news of a neighbour installs all routes that wait for it.
* `no_route_stuck_iff`: where the device refuses nothing and no table is full, no route is stuck
  throughout a run exactly if no event stalls one. -/

namespace ControlPlane.Follower

open Operation (Ends)

variable {δ : Type} {refused : δ → Prop} {event : Event} {m m' : Follower δ} {s : Subnet}
  {i : IfIndex}

/-- A route waits for a gateway behind an index, although the gateway has an address. -/
def Overdue (m : Follower δ) (s : Subnet) (i : IfIndex) : Prop :=
  ∃ hop, m.pending.get? s = some hop ∧ hop.via = i ∧
    m.neighbors.get? ⟨hop.gateway, hop.via⟩ ≠ none

/-- A route waits, although its gateway has an address and its port an interface. -/
def Stuck (m : Follower δ) (s : Subnet) : Prop := ∃ i, m.Overdue s i ∧ m.routedPort? i ≠ none

def NoneStuck (m : Follower δ) : Prop := ∀ s, ¬ m.Stuck s

/-- An event stalls a route: it gives an interface to a port behind which the route's gateway has an
address already, or makes an index name a port with an interface where that is so. -/
def Stalls (m : Follower δ) : Event → Prop
  | .link i name _ =>
      ∃ s port, m.Overdue s i ∧ m.named? name = some port ∧ m.interfaces.get? port ≠ none
  | .address i .added =>
      ∃ s k port, m.Overdue s k ∧ m.ports.get? k = some port ∧ m.ports.get? i = some port ∧
        m.interfaces.get? port = none
  | _ => False

/-! ### Fewer routes that wait -/

theorem Overdue.mono (h : m'.Overdue s i)
    (hp : ∀ s hop, m'.pending.get? s = some hop → m.pending.get? s = some hop)
    (hn : ∀ n, m'.neighbors.get? n ≠ none → m.neighbors.get? n ≠ none) : m.Overdue s i := by
  obtain ⟨hop, hpending, hvia, hknown⟩ := h
  exact ⟨hop, hp s hop hpending, hvia, hn _ hknown⟩

theorem overdue_congr (hp : m'.pending = m.pending) (hn : m'.neighbors = m.neighbors) :
    m'.Overdue s i ↔ m.Overdue s i := by
  rw [Overdue, Overdue, hp, hn]

/-- No route gets stuck where none starts to wait, nothing is learnt and no port gets an interface. -/
theorem NoneStuck.mono (h : m.NoneStuck) (ho : ∀ s i, m'.Overdue s i → m.Overdue s i)
    (hr : ∀ i, m'.routedPort? i ≠ none → m.routedPort? i ≠ none) : m'.NoneStuck := by
  rintro s ⟨i, hoverdue, hrouted⟩
  exact h s ⟨i, ho s i hoverdue, hr i hrouted⟩

theorem NoneStuck.of_still (h : m.NoneStuck) (hs : m.Still m')
    (hp : ∀ s hop, m'.pending.get? s = some hop → m.pending.get? s = some hop) : m'.NoneStuck := by
  refine h.mono (fun s i ho => ho.mono hp fun n => ?_) fun i => ?_
  · rw [hs.neighbors]
    exact id
  · rw [hs.routedPort?_eq]
    exact id

theorem pending_of_erase {subnet : Subnet} (hp : m'.pending = m.pending.erase subnet) (s : Subnet)
    (hop : NextHop) (h : m'.pending.get? s = some hop) : m.pending.get? s = some hop :=
  KeyMap.get?_of_get?_erase (hp ▸ h)

/-! ### Events -/

theorem Renamed.noneStuck_iff {port? : Option PortId} (h : m.Renamed i port? m')
    (hn : m.NoneStuck) :
    m'.NoneStuck ↔
      ¬ ∃ s port, m.Overdue s i ∧ port? = some port ∧ m.interfaces.get? port ≠ none := by
  have hoverdue (s : Subnet) (k : IfIndex) : m'.Overdue s k ↔ m.Overdue s k :=
    overdue_congr h.pending h.neighbors
  constructor
  · rintro hn' ⟨s, port, ho, hport, hid⟩
    refine hn' s ⟨i, (hoverdue s i).mpr ho, (h.routed_iff i).mpr ?_⟩
    rw [if_pos rfl]
    exact ⟨port, hport, hid⟩
  · rintro hnot s ⟨k, ho, hrouted⟩
    rw [hoverdue] at ho
    rw [h.routed_iff] at hrouted
    split at hrouted
    · rename_i hk
      obtain ⟨port, hport, hid⟩ := hrouted
      exact hnot ⟨s, port, hk ▸ ho, hport, hid⟩
    · exact hn s ⟨k, ho, hrouted⟩

theorem Announced.noneStuck {gateway : Option Ipv4} {via : Option IfIndex}
    (h : m.Announced refused s gateway via m') (hn : m.NoneStuck) : m'.NoneStuck := by
  cases h with
  | ignored => exact hn
  | installed hg hv hmac hrp hf hr =>
      exact hn.of_still hr.still_installing
        (pending_of_erase (by rw [hr.pending, installing_pending]))
  | @pended hop m₁ hg hv hmac hm =>
      obtain ⟨hstill, hpending, -⟩ := hm.rest
      have hn₁ : m₁.NoneStuck := hn.of_still hstill fun _ _ hp => hpending ▸ hp
      -- the route itself is not overdue: its gateway has no address
      rintro s' ⟨i, ⟨hop', hp, hvia, hknown⟩, hrouted⟩
      obtain ⟨-, rfl⟩ | hold := KeyMap.eq_or_get?_of_insert hp
      · rw [hstill.neighbors] at hknown
        exact hknown hmac
      · exact hn₁ s' ⟨i, ⟨hop', hold, hvia, hknown⟩, hrouted⟩

theorem Addressed.noneStuck_iff [Bus δ] (ht : Bus.Tells refused) (hs : m.Sound)
    (h : m.Addressed refused i m') (hn : m.NoneStuck) :
    m'.NoneStuck ↔ ¬ m.Stalls (.address i .added) := by
  cases h with
  | ignored hnot =>
      refine iff_of_true hn ?_
      rintro ⟨s, k, port, -, -, hport, hnone⟩
      exact hnot port hport hnone
  | @made port id face m₁ _ hport hnone hid hr hlodge =>
      obtain ⟨hsup, -, hpending, -⟩ := lodged_ends ht hs hport hr hlodge
      have hoverdue (s : Subnet) (k : IfIndex) : m'.Overdue s k ↔ m.Overdue s k :=
        overdue_congr (hpending.trans hr.pending) (hsup.still.neighbors.trans hr.neighbors)
      have hports : m'.ports = m.ports := hsup.still.ports.trans hr.ports
      have hinterfaces : m'.interfaces = m.interfaces.insert port id :=
        hsup.still.interfaces.trans hr.interfaces
      have hrouted := routed_insert_iff hports hinterfaces
      constructor
      · rintro hn' ⟨s, k, port', ho, hk, hport', -⟩
        rw [hport] at hport'
        cases hport'
        exact hn' s ⟨k, (hoverdue s k).mpr ho, (hrouted k).mpr (.inl hk)⟩
      · rintro hnot s ⟨k, ho, hr'⟩
        rw [hoverdue] at ho
        rcases (hrouted k).mp hr' with hk | hk
        · exact hnot ⟨s, k, port, ho, hk, hport, hnone⟩
        · exact hn s ⟨k, ho, hk⟩

theorem Unaddressed.noneStuck (h : m.Unaddressed refused i m') (hn : m.NoneStuck) :
    m'.NoneStuck := by
  cases h with
  | ignored => exact hn
  | @cleared port id m₁ _ hrp hc hr =>
      have hstill := hc.still
      have hports : m'.ports = m₁.ports := hr.ports
      have hinterfaces : m'.interfaces = m₁.interfaces.erase port := hr.interfaces
      refine hn.mono (fun s k => ?_) fun k hrouted => ?_
      · exact (overdue_congr (hr.pending.trans hc.pending) (hr.neighbors.trans hstill.neighbors)).mp
      · rw [← hstill.routedPort?_eq]
        exact ((routed_erase_iff hports hinterfaces k).mp hrouted).2

/-- The news of a neighbour installs all routes that wait for it, as far as they can be installed. -/
theorem Added.noneStuck [Bus δ] (ht : Bus.Tells refused) (hs : m.Sound) {n : Neighbor}
    {mac? : Option MacAddr} (h : m.Added n mac? m') (hn : m.NoneStuck)
    (hroom : ¬ m'.Exhausted refused) : m'.NoneStuck := by
  have hapart : m'.Apart := (h.steps ht hs.toOwned).apart hs.toApart
  cases h with
  | ignored => exact hn
  | @noted port mac _ hmac hport hcrowd hid helse =>
      rintro s ⟨i, ⟨hop, hp, hvia, hknown⟩, hrouted⟩
      rw [helse.still.routedPort?_eq] at hrouted
      rw [helse.pending] at hp
      rw [helse.still.neighbors, KeyMap.get?_insert] at hknown
      split at hknown
      · rename_i he
        -- its port has no interface
        obtain ⟨port', hport', hid'⟩ := routedPort?_ne_none_iff.mp hrouted
        rw [he, hvia] at hport
        cases hport.symm.trans hport'
        exact hid' hid
      · exact hn s ⟨i, ⟨hop, hp, hvia, hknown⟩, hrouted⟩
  | @settled port mac id m₁ _ hmac hport hcrowd hid helse hsettle =>
      obtain ⟨m₂, hhouse, hset⟩ := settled_ends ht hs hport hid helse hsettle
      have hstill := helse.still.trans (hhouse.still.trans hset.still)
      rintro s ⟨i, ⟨hop, hp, hvia, hknown⟩, hrouted⟩
      have hwaits : m.pending.get? s = some hop := by
        have hp₂ : m₂.pending.get? s = some hop := hset.pending s hop hp
        rwa [hhouse.pending_eq, helse.pending] at hp₂
      rw [hstill.routedPort?_eq] at hrouted
      rw [hstill.neighbors, KeyMap.get?_insert] at hknown
      split at hknown
      · rename_i he
        subst he
        rcases hset.route s with ⟨-, hfull⟩ | ⟨-, r, hinstalled, -⟩
        · exact hroom (hfull (mem_waitingFor_iff.mpr (.inl hwaits)))
        · rw [hapart.pending s (by simp [hp])] at hinstalled
          cases hinstalled
      · exact hn s ⟨i, ⟨hop, hwaits, hvia, hknown⟩, hrouted⟩

theorem Gone.noneStuck {n : Neighbor} (h : m.Gone refused n m') (hn : m.NoneStuck) :
    m'.NoneStuck := by
  obtain ⟨hstill, hpending, -⟩ := h.rest
  refine hn.mono (fun s i ho => ho.mono (fun _ _ => hpending ▸ id) fun n' => ?_) fun i => ?_
  · rw [hstill.neighbors, KeyMap.get?_erase]
    split
    · exact fun h => absurd rfl h
    · exact id
  · rw [hstill.routedPort?_eq]
    exact id

/-- No route gets stuck unless the event stalls one. -/
theorem handle_noneStuck_iff [Bus δ] (ht : Bus.Tells refused) (hs : m.Sound) (hn : m.NoneStuck)
    (hroom : ¬ (handle event m).2.Exhausted refused)
    (hfaces : ¬ (handle event m).2.view.InterfacesFull) :
    (handle event m).2.NoneStuck ↔ ¬ m.Stalls event := by
  cases handle_handled ht hs event with
  | renamed h => exact h.noneStuck_iff hn
  | unnamed h =>
      refine iff_of_true ((h.noneStuck_iff hn).mpr ?_) id
      rintro ⟨_, _, _, hport, _⟩
      cases hport
  | addressed h => exact h.noneStuck_iff ht hs hn
  | unmade ho h hwhy =>
      rw [h.view_eq] at hfaces
      exact absurd (hwhy.resolve_right hfaces) fun hr => hroom (.inl hr)
  | unaddressed hsteps h => exact iff_of_true (h.noneStuck hn) id
  | announced ho h => exact iff_of_true (h.noneStuck hn) id
  | failed ho h => exact iff_of_true (hn.of_still h.still fun _ _ hp => h.pending ▸ hp) id
  | removed h => exact iff_of_true (hn.of_still h.rest.1 (pending_of_erase h.rest.2.1)) id
  | added h => exact iff_of_true (h.noneStuck ht hs hn hroom) id
  | crowded ho h hwhy => exact iff_of_true (hn.of_still h.still fun _ _ hp => h.pending ▸ hp) id
  | gone h => exact iff_of_true (h.noneStuck hn) id

/-- Where no neighbour's address is known, no route is overdue. -/
theorem not_stalls_of_unknown (h : m.neighbors.toList = []) : ¬ m.Stalls event := by
  have hnot (s : Subnet) (i : IfIndex) : ¬ m.Overdue s i := by
    rintro ⟨hop, -, -, hknown⟩
    obtain ⟨mac, hmac⟩ := Option.ne_none_iff_exists'.mp hknown
    have hmem := (m.neighbors.mem_toList_iff _ _).mpr hmac
    rw [h] at hmem
    cases hmem
  cases event with
  | link i name up =>
      rintro ⟨s, -, ho, -⟩
      exact hnot s i ho
  | address i change =>
      cases change with
      | added =>
          rintro ⟨s, k, -, ho, -⟩
          exact hnot s k ho
      | removed => exact id
  | linkRemoved => exact id
  | route => exact id
  | neighbor => exact id

/-! ### Every run -/

/-- On a device that refuses nothing, and with room for another interface, egress object and route after
every event, no route waits after any event for a gateway that has an address, behind a port that has an
interface, exactly if no event stalls a route. -/
theorem no_route_stuck_iff [Bus δ] (board : Board) (bus : δ) (events : List Event)
    (hok : ∀ k ≤ events.length,
      (watchedRun board bus (events.take k)).switch.bus.refused = false)
    (hinterfaces : ∀ k ≤ events.length,
      ¬ (watchedRun board bus (events.take k)).view.InterfacesFull)
    (hegresses : ∀ k ≤ events.length,
      ¬ (watchedRun board bus (events.take k)).view.EgressesFull)
    (hslots : ∀ k ≤ events.length,
      ¬ (watchedRun board bus (events.take k)).view.SlotsFull) :
    (∀ k ≤ events.length, (watchedRun board bus (events.take k)).NoneStuck) ↔
      ∀ k event, events[k]? = some event →
        ¬ (watchedRun board bus (events.take k)).Stalls event := by
  have hstart : (fresh (.fresh board (Watched.start bus))).NoneStuck := by
    rintro s ⟨i, ⟨hop, hp, -⟩, -⟩
    cases hp
  refine run_holds_iff
    (fun m => ¬ m.Exhausted (fun w => w.refused = true) ∧ ¬ m.view.InterfacesFull) ?_
    (sound_fresh board _) hstart ?_
  · rintro m event hs hn ⟨hroom, hfaces⟩
    exact handle_noneStuck_iff Watched.tells_refused hs hn hroom hfaces
  · exact fun k hk => ⟨not_exhausted (hok k hk) (hegresses k hk) (hslots k hk), hinterfaces k hk⟩

/-- A route waits for the neighbour while its port loses its address and is given one again. -/
def resumed : List Event :=
  [.link 5 "swp12" true, .address 5 .added,
    .route remoteNet .added (some ⟨0x0a000001⟩) (some 5), .address 5 .removed, .address 5 .added,
    .neighbor ⟨0x0a000001⟩ 5 (some ⟨0x52, 0x54, 0, 0, 0, 1⟩) .added]

/-- A route that waits is installed when the neighbour appears. -/
theorem no_route_stuck_resumed :
    (following (resumed.take 5)).pending.get? remoteNet = some ⟨⟨0x0a000001⟩, 5⟩ ∧
      (following resumed).pending.get? remoteNet = none ∧
      (following resumed).installed.get? remoteNet = some ⟨⟨⟨0x0a000001⟩, 5⟩, 2⟩ ∧
      ∀ k ≤ resumed.length, (following (resumed.take k)).NoneStuck := by
  have hspare : ∀ k ≤ resumed.length, (following (resumed.take k)).Spare := by decide +kernel
  have hunknown : ∀ k ≤ 5, (following (resumed.take k)).neighbors.toList = [] := by decide +kernel
  have hnot (k : Nat) (event : Event) (hk : resumed[k]? = some event) :
      ¬ (following (resumed.take k)).Stalls event := by
    obtain ⟨hlt, -⟩ := List.getElem?_eq_some_iff.mp hk
    exact not_stalls_of_unknown (hunknown k (Nat.le_of_lt_succ hlt))
  exact ⟨by decide +kernel, by decide +kernel, by decide +kernel,
    (no_route_stuck_iff _ _ resumed (fun k hk => (hspare k hk).not_refused)
      (fun k hk => (hspare k hk).not_interfacesFull) (fun k hk => (hspare k hk).not_egressesFull)
      fun k hk => (hspare k hk).not_slotsFull).mpr hnot⟩

/-- The gateway's address is learnt while its port has none, and then the port is given one. -/
def overlooked : List Event :=
  [.link 5 "swp12" true, .address 5 .added,
    .route remoteNet .added (some ⟨0x0a000009⟩) (some 5), .address 5 .removed,
    .neighbor ⟨0x0a000009⟩ 5 (some ⟨0x52, 0x54, 0, 0, 0, 9⟩) .added, .address 5 .added]

/-- A route still waits when everything that it waits for is there. -/
theorem route_stuck :
    (∀ k ≤ overlooked.length, (following (overlooked.take k)).switch.bus.refused = false) ∧
      (∀ k ≤ overlooked.length, ¬ (following (overlooked.take k)).view.InterfacesFull ∧
        ¬ (following (overlooked.take k)).view.EgressesFull ∧
        ¬ (following (overlooked.take k)).view.SlotsFull) ∧
      (following overlooked).pending.get? remoteNet = some ⟨⟨0x0a000009⟩, 5⟩ ∧
      (following overlooked).neighbors.get? ⟨⟨0x0a000009⟩, 5⟩ = some ⟨0x52, 0x54, 0, 0, 0, 9⟩ ∧
      (following overlooked).routedPort? 5 ≠ none ∧
      ¬ ∀ k ≤ overlooked.length, (following (overlooked.take k)).NoneStuck := by
  have hspare : ∀ k ≤ overlooked.length, (following (overlooked.take k)).Spare := by
    decide +kernel
  have hpending : (following overlooked).pending.get? remoteNet = some ⟨⟨0x0a000009⟩, 5⟩ := by
    decide +kernel
  have hneighbor : (following overlooked).neighbors.get? ⟨⟨0x0a000009⟩, 5⟩ =
      some ⟨0x52, 0x54, 0, 0, 0, 9⟩ := by decide +kernel
  have hrouted : (following overlooked).routedPort? 5 ≠ none := by decide +kernel
  refine ⟨fun k hk => (hspare k hk).not_refused, fun k hk => ⟨?_, ?_, ?_⟩, hpending, hneighbor,
    hrouted, fun h => ?_⟩
  · exact (hspare k hk).not_interfacesFull
  · exact (hspare k hk).not_egressesFull
  · exact (hspare k hk).not_slotsFull
  · have hlast := h overlooked.length (Nat.le_refl _)
    rw [List.take_length] at hlast
    exact hlast remoteNet ⟨5, ⟨_, hpending, rfl, by simp [hneighbor]⟩, hrouted⟩

end ControlPlane.Follower
