import ControlPlane.Proofs.Kernel.Events
import ControlPlane.Proofs.Kernel.Settling

/-! # Are routes as the kernel last announced them?

A route in the books, installed or pending, should lead where the kernel's latest word on its subnet
says, of the events that have not failed.  Every event keeps it so but one: the kernel gives the subnet
another route which is disregarded, as it has no gateway or leads out of no port, and the old route
stays.

* `Event.latest?` reads the kernel's latest word on a subnet off the events that were heeded.
* `handle_routes`: after an event a route leads where it did, unless the event has just announced it.
* `routes_announced_iff`: on any device, routes are as last announced throughout a run exactly if no
  event outdates one. -/

namespace ControlPlane

namespace Event

/-- Whether an event is the kernel's word on a subnet's route. -/
def concerns : Event → Subnet → Bool
  | route subnet _ _ _, s => subnet = s
  | _, _ => false

/-- The kernel's latest word on a subnet's route. -/
def latest? (s : Subnet) (events : List Event) : Option Event :=
  (events.filter (·.concerns s)).getLast?

theorem latest?_concat (s : Subnet) (events : List Event) (event : Event) :
    latest? s (events ++ [event]) = if event.concerns s then some event else latest? s events := by
  unfold latest?
  rw [List.filter_append, List.filter_cons, List.filter_nil]
  split
  · rw [List.getLast?_concat]
  · rw [List.append_nil]

/-- The kernel's word that a subnet's route leads through a next hop. -/
def announcement (s : Subnet) (hop : NextHop) : Event :=
  .route s .added (some hop.gateway) (some hop.via)

end Event

namespace Follower

open Operation (Ends)
open Event (announcement latest? latest?_concat)

variable {δ : Type} {refused : δ → Prop} {event : Event} {m m' : Follower δ} {s : Subnet}
  {hop : NextHop}

/-- A subnet's route in the books, installed or pending, leads through a next hop. -/
def Routes (m : Follower δ) (s : Subnet) (hop : NextHop) : Prop :=
  (∃ r, m.installed.get? s = some r ∧ r.hop = hop) ∨ m.pending.get? s = some hop

/-- An event announces a route without a gateway, or out of no port. -/
def Disregards (m : Follower δ) : Event → Prop
  | .route _ .added gateway via => gateway = none ∨ via.bind m.ports.get? = none
  | _ => False

/-- An event outdates a route in the books: it is another word on the route's subnet, and it is
disregarded. -/
def Outdates (m : Follower δ) (event : Event) : Prop :=
  m.Disregards event ∧
    ∃ s hop, event.concerns s = true ∧ m.Routes s hop ∧ event ≠ announcement s hop

section heeded

variable [Bus δ]

/-- The events that do not fail. -/
def heeded (m : Follower δ) : List Event → List Event
  | [] => []
  | event :: events =>
      (if (handle event m).1 = .failed then [] else [event]) ++ (handle event m).2.heeded events

/-- After some events, routes lead where the latest word on their subnets says. -/
def Mirrors (m : Follower δ) (events : List Event) : Prop :=
  ∀ s hop, (m.run events).Routes s hop → latest? s (m.heeded events) = some (announcement s hop)

theorem heeded_append (m : Follower δ) (events events' : List Event) :
    m.heeded (events ++ events') = m.heeded events ++ (m.run events).heeded events' := by
  induction events generalizing m with
  | nil => rfl
  | cons event events ih =>
      rw [List.cons_append, heeded, heeded, ih, List.append_assoc]
      rfl

theorem heeded_take_succ (m : Follower δ) {events : List Event} {k : Nat}
    (hk : events[k]? = some event) :
    m.heeded (events.take (k + 1)) = m.heeded (events.take k) ++
      if (handle event (m.run (events.take k))).1 = .failed then [] else [event] := by
  rw [List.take_add_one, hk, heeded_append, Option.toList_some, heeded, heeded, List.append_nil]

end heeded

/-! ### Where routes lead -/

theorem Routes.mono (h : m'.Routes s hop)
    (hi : ∀ r, m'.installed.get? s = some r → m.installed.get? s = some r)
    (hp : m'.pending.get? s = some hop → m.pending.get? s = some hop) : m.Routes s hop := by
  rcases h with ⟨r, hr, hhop⟩ | hpending
  · exact .inl ⟨r, hi r hr, hhop⟩
  · exact .inr (hp hpending)

theorem routes_congr (hi : m'.installed = m.installed) (hp : m'.pending = m.pending) :
    m'.Routes s hop ↔ m.Routes s hop := by
  rw [Routes, Routes, hi, hp]

theorem Addressed.routes [Bus δ] (hs : m.Sound) {i : IfIndex} (h : m.Addressed (fun _ => True) i m')
    (hr : m'.Routes s hop) : m.Routes s hop := by
  cases h with
  | ignored => exact hr
  | made hport hnone hid h hlodge =>
      obtain ⟨-, hinstalled, hpending, -⟩ := lodged_ends Bus.tells_true hs hport h hlodge
      exact (routes_congr (hinstalled.trans h.installed) (hpending.trans h.pending)).mp hr

theorem Unaddressed.routes {i : IfIndex} (h : m.Unaddressed refused i m') (hr : m'.Routes s hop) :
    m.Routes s hop := by
  cases h with
  | ignored => exact hr
  | @cleared port id m₁ _ hrp hc h =>
      refine hr.mono (fun r hi => ?_) fun hp => ?_
      · rw [h.installed, hc.installed] at hi
        split at hi
        · cases hi
        · exact hi
      · rwa [h.pending, hc.pending] at hp

theorem Added.routes [Bus δ] (hs : m.Sound) {n : Neighbor} {mac? : Option MacAddr}
    (h : m.Added n mac? m') (hr : m'.Routes s hop) : m.Routes s hop := by
  cases h with
  | ignored => exact hr
  | noted hmac hport hcrowd hid helse => exact (routes_congr helse.installed helse.pending).mp hr
  | @settled port mac id m₁ _ hmac hport hcrowd hid helse hsettle =>
      obtain ⟨m₂, hhouse, hset⟩ := settled_ends Bus.tells_true hs hport hid helse hsettle
      have hinstalled : m₂.installed = m.installed := hhouse.installed.trans helse.installed
      have hpending : m₂.pending = m.pending := hhouse.pending_eq.trans helse.pending
      rw [← routes_congr hinstalled hpending]
      rcases hr with ⟨r, hr, rfl⟩ | hp
      · rcases hset.route s with ⟨hk, -⟩ | ⟨hmem, r', hr', hhop, -⟩
        · exact .inl ⟨r, hk.installed ▸ hr, rfl⟩
        · -- what is installed afresh was pending or installed, through the same neighbour
          rw [hr] at hr'
          cases hr'
          rw [hhop, routes_congr hinstalled hpending]
          rcases mem_waitingFor_iff.mp hmem with hp | ⟨-, r₀, hr₀, hhop₀⟩
          · exact .inr hp
          · exact .inl ⟨r₀, hr₀, hhop₀⟩
      · exact .inr (hset.pending s hop hp)

theorem Removed.routes {subnet : Subnet} (h : m.Removed refused subnet m') (hr : m'.Routes s hop) :
    subnet ≠ s ∧ m.Routes s hop := by
  obtain ⟨-, hpending, hinstalled⟩ := h.rest
  have hne : subnet ≠ s := by
    rintro rfl
    rw [Routes, hinstalled, hpending, KeyMap.get?_erase_self, KeyMap.get?_erase_self] at hr
    rcases hr with ⟨r, hr, -⟩ | hp
    · cases hr
    · cases hp
  refine ⟨hne, hr.mono (fun r hi => ?_) fun hp => ?_⟩
  · rwa [hinstalled, KeyMap.get?_erase_of_ne _ hne] at hi
  · rwa [hpending, KeyMap.get?_erase_of_ne _ hne] at hp

theorem Announced.routes {subnet : Subnet} {gateway : Option Ipv4} {via : Option IfIndex}
    (h : m.Announced refused subnet gateway via m') (hr : m'.Routes s hop) :
    m.Routes s hop ∧ (subnet = s → m.Disregards (.route subnet .added gateway via)) ∨
      .route subnet .added gateway via = announcement s hop := by
  cases h with
  | ignored hnot => exact .inl ⟨hr, fun _ => hnot⟩
  | @installed hop' mac rp id slot _ hg hv hn hrp hf h =>
      by_cases hsub : subnet = s
      · subst hsub
        refine .inr ?_
        rw [Routes, h.installed, h.pending, installing_installed, installing_pending,
          KeyMap.get?_insert_self, KeyMap.get?_erase_self] at hr
        rcases hr with ⟨r, hr, rfl⟩ | hp
        · cases hr
          rw [announcement, hg, hv]
        · cases hp
      · refine .inl ⟨hr.mono (fun r hi => ?_) fun hp => ?_, fun he => absurd he hsub⟩
        · rwa [h.installed, installing_installed, KeyMap.get?_insert_of_ne _ _ hsub] at hi
        · rwa [h.pending, installing_pending, KeyMap.get?_erase_of_ne _ hsub] at hp
  | @pended hop' m₁ hg hv hn hm =>
      obtain ⟨-, hpending, -, hinstalled⟩ := hm.rest
      by_cases hsub : subnet = s
      · subst hsub
        refine .inr ?_
        rw [Routes, hinstalled, KeyMap.get?_erase_self, KeyMap.get?_insert_self] at hr
        rcases hr with ⟨r, hr, -⟩ | hp
        · cases hr
        · cases hp
          rw [announcement, hg, hv]
      · refine .inl ⟨hr.mono (fun r hi => ?_) fun hp => ?_, fun he => absurd he hsub⟩
        · rwa [hinstalled, KeyMap.get?_erase_of_ne _ hsub] at hi
        · rwa [KeyMap.get?_insert_of_ne _ _ hsub, hpending] at hp

/-- After an event, a route leads where the event has just announced it, or where it did; and in that
case the event, if it is a word on the route's subnet, has failed or is disregarded. -/
theorem handle_routes [Bus δ] (hs : m.Sound) (event : Event) (hr : (handle event m).2.Routes s hop) :
    m.Routes s hop ∧ (event.concerns s = true → (handle event m).1 = .failed ∨ m.Disregards event) ∨
      event = announcement s hop ∧ (handle event m).1 ≠ .failed := by
  cases handle_handled Bus.tells_true hs event with
  | renamed h => exact .inl ⟨(routes_congr h.installed h.pending).mp hr, nofun⟩
  | unnamed h => exact .inl ⟨(routes_congr h.installed h.pending).mp hr, nofun⟩
  | addressed h => exact .inl ⟨h.routes hs hr, nofun⟩
  | unmade ho h hwhy => exact .inl ⟨(routes_congr h.installed h.pending).mp hr, nofun⟩
  | unaddressed hsteps h => exact .inl ⟨h.routes hr, nofun⟩
  | announced ho h =>
      rcases h.routes hr with ⟨hold, hdis⟩ | hann
      · exact .inl ⟨hold, fun hc => .inr (hdis (of_decide_eq_true hc))⟩
      · exact .inr ⟨hann, ho⟩
  | failed ho h => exact .inl ⟨(routes_congr h.installed h.pending).mp hr, fun _ => .inl ho⟩
  | removed h =>
      obtain ⟨hne, hold⟩ := h.routes hr
      exact .inl ⟨hold, fun hc => absurd (of_decide_eq_true hc) hne⟩
  | added h => exact .inl ⟨h.routes hs hr, nofun⟩
  | crowded ho h hwhy => exact .inl ⟨(routes_congr h.installed h.pending).mp hr, nofun⟩
  | gone h => exact .inl ⟨(routes_congr h.rest.2.2 h.rest.2.1).mp hr, nofun⟩

/-- What is disregarded changes nothing. -/
theorem handle_disregarded [Bus δ] (h : m.Disregards event) :
    (handle event m).1 = .ignored ∧ (handle event m).2 = m := by
  refine handle_ends (P := fun outcome m' => outcome = .ignored ∧ m' = m) ?_
  cases event with
  | route subnet change gateway via =>
      cases change with
      | added =>
          refine Ends.bind (Operation.ends_get ?_)
          cases gateway with
          | none => exact Operation.ends_pure ⟨rfl, rfl⟩
          | some gateway =>
          cases via with
          | none => exact Operation.ends_pure ⟨rfl, rfl⟩
          | some via =>
          have hport : m.ports.get? via = none := h.resolve_left (Option.some_ne_none gateway)
          dsimp only
          rw [hport]
          exact Operation.ends_pure ⟨rfl, rfl⟩
      | removed => exact h.elim
  | link => exact h.elim
  | linkRemoved => exact h.elim
  | address => exact h.elim
  | neighbor => exact h.elim

/-! ### Every run -/

/-- One more event leaves routes as last announced unless it outdates one. -/
theorem mirrors_take_succ_iff [Bus δ] (hs : m.Sound) {events : List Event} {k : Nat}
    (hk : events[k]? = some event) (h : m.Mirrors (events.take k)) :
    m.Mirrors (events.take (k + 1)) ↔ ¬ (m.run (events.take k)).Outdates event := by
  have hlatest (s : Subnet) : latest? s (m.heeded (events.take (k + 1))) =
      if event.concerns s = true ∧ (handle event (m.run (events.take k))).1 ≠ .failed then some event
      else latest? s (m.heeded (events.take k)) := by
    rw [heeded_take_succ m hk]
    split
    · rename_i hfailed
      rw [List.append_nil, if_neg fun hc => hc.2 hfailed]
    · rename_i hheeded
      rw [latest?_concat]
      simp only [hheeded, ne_eq, not_false_eq_true, and_true]
  unfold Mirrors
  rw [run_take_succ m hk]
  constructor
  · rintro hm ⟨hdis, s, hop, hc, hr, hne⟩
    obtain ⟨hignored, hsame⟩ := handle_disregarded hdis
    have hann := hm s hop (by rwa [hsame])
    rw [hlatest, hignored, if_pos ⟨hc, by decide⟩] at hann
    exact hne (Option.some.inj hann)
  · intro hnot s hop hr
    rw [hlatest]
    rcases handle_routes (run_sound hs _) event hr with ⟨hold, hwhy⟩ | ⟨rfl, hheeded⟩
    · split
      · rename_i hc
        have hdis := (hwhy hc.1).resolve_left hc.2
        by_contra hne
        exact hnot ⟨hdis, s, hop, hc.1, hold, fun he => hne (congrArg some he)⟩
      · exact h s hop hold
    · rw [if_pos ⟨decide_eq_true rfl, hheeded⟩]

/-- After every event of a run on a fresh switch, the latest word on the subnet of each route in the
books, of the events that have not failed, is that the route leads where it does, exactly if no event
outdates a route. -/
theorem routes_announced_iff [Bus δ] (board : Board) (bus : δ) (events : List Event) :
    (∀ k ≤ events.length, (fresh (.fresh board bus)).Mirrors (events.take k)) ↔
      ∀ k event, events[k]? = some event →
        ¬ ((fresh (.fresh board bus)).run (events.take k)).Outdates event := by
  have hstart : (fresh (.fresh board bus)).Mirrors [] := by
    rintro s hop (⟨r, hr, -⟩ | hp)
    · cases hr
    · cases hp
  refine @prefixes_hold_iff (fresh (.fresh board bus)).Mirrors
    (fun es => ((fresh (.fresh board bus)).run es).Outdates) events hstart fun k event hk h => ?_
  exact mirrors_take_succ_iff (sound_fresh board bus) hk h

/-- The route through the neighbour becomes one without a gateway. -/
def connected : List Event :=
  arrival ++ [.route remoteNet .added (some ⟨0x0a000001⟩) (some 5),
    .route remoteNet .added none (some 5)]

/-- A route stays where the kernel's latest word on its subnet says something else. -/
theorem route_outdated :
    (∀ k ≤ connected.length, (following (connected.take k)).switch.bus.refused = false) ∧
      (following connected).installed.get? remoteNet = some ⟨⟨⟨0x0a000001⟩, 5⟩, 2⟩ ∧
      latest? remoteNet ((following []).heeded connected) =
        some (.route remoteNet .added none (some 5)) ∧
      ¬ ∀ k ≤ connected.length, (following []).Mirrors (connected.take k) := by
  have hroute : (following connected).installed.get? remoteNet =
      some ⟨⟨⟨0x0a000001⟩, 5⟩, 2⟩ := by decide +kernel
  have hlatest : latest? remoteNet ((following []).heeded connected) =
      some (.route remoteNet .added none (some 5)) := by decide +kernel
  refine ⟨by decide +kernel, hroute, hlatest, fun h => ?_⟩
  have hlast := h connected.length (Nat.le_refl _)
  rw [List.take_length] at hlast
  have hann := hlast remoteNet ⟨⟨0x0a000001⟩, 5⟩ (.inl ⟨_, hroute, rfl⟩)
  rw [hlatest] at hann
  cases hann

end Follower

end ControlPlane
