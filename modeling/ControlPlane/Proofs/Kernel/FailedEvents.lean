import ControlPlane.Proofs.Kernel.Events

/-! # Events that fail

An event can fail half way: an egress object may have been made when the device refuses the route to it.
On books that are sound such an event leaves all that is kept as it was, on any device
(`failed_event_alters_nothing`).  What it has used up are indices that pools hand out next time, and counts
of what the station table was asked for.

An event fails exactly if what applies it does (`handle_failed_iff`), so what is to be looked at is where
each operation fails.  Only what adds something can: the news that something is gone never fails. -/

namespace ControlPlane

/-- The event tells that something is gone. -/
def Event.Withdraws : Event → Prop
  | .linkRemoved _ => True
  | .address _ change => change = .removed
  | .route _ change _ _ => change = .removed
  | .neighbor _ _ _ change => change = .removed
  | .link _ _ _ => False

namespace Follower

open Operation (Answers Ends)

variable {δ : Type} {refused : δ → Prop} {event : Event} {m m' : Follower δ}

/-- All that the follower keeps is as it was: its books, the stations, and what is routed, users
included. -/
structure Unaltered (m m' : Follower δ) : Prop where
  ports : m'.ports = m.ports
  interfaces : m'.interfaces = m.interfaces
  neighbors : m'.neighbors = m.neighbors
  pending : m'.pending = m.pending
  installed : m'.installed = m.installed
  hosts : m'.hosts = m.hosts
  stations : m'.switch.stations.slots = m.switch.stations.slots
  live_interfaces : m'.switch.routing.interfaces.get? = m.switch.routing.interfaces.get?
  egresses : m'.switch.routing.egresses.get? = m.switch.routing.egresses.get?
  routes : m'.switch.routing.routes.get? = m.switch.routing.routes.get?

/-- What is routed as before is there as before. -/
theorem Rerouted.unaltered (h : Rerouted refused m m.view m') (hp : m.switch.routing.Plain) :
    m.Unaltered m' := by
  have hview : m'.switch.routing.view = m.switch.routing.view := h.view_eq
  exact {
    ports := h.ports
    interfaces := h.interfaces
    neighbors := h.neighbors
    pending := h.pending
    installed := h.installed
    hosts := h.hosts
    stations := congrArg (·.switch.stations.slots) h.rest
    live_interfaces := by
      funext id
      exact hp.toIntact.interface_eq h.plain.toIntact (by rw [hview]) fun _ _ _ => by rw [hview]
    egresses := by
      funext id
      exact hp.egress_eq h.plain (by rw [hview]) fun _ _ _ => by rw [hview]
    routes := congrArg (·.route?) hview }

theorem Elsewhere.unaltered (h : m.Elsewhere m')
    (hs : m'.switch.stations.slots = m.switch.stations.slots) : m.Unaltered m' := by
  have hrouting : m'.switch.routing = m.switch.routing := congrArg (·.switch.routing) h
  exact {
    ports := h.still.ports
    interfaces := h.still.interfaces
    neighbors := h.still.neighbors
    pending := h.pending
    installed := h.installed
    hosts := h.hosts
    stations := hs
    live_interfaces := by rw [hrouting]
    egresses := by rw [hrouting]
    routes := by rw [hrouting] }

/-! ### When an event fails -/

variable [Bus δ]

theorem routeAdded_answers (subnet : Subnet) (gateway : Option Ipv4) (via : Option IfIndex) :
    Answers (· ≠ .failed) (routeAdded subnet gateway via : Operation (Follower δ) EventOutcome) := by
  refine .bind fun m => ?_
  cases gateway with
  | none => exact .pure (by decide)
  | some gateway =>
  cases via with
  | none => exact .pure (by decide)
  | some via =>
  dsimp only
  cases m.ports.get? via with
  | none => exact .pure (by decide)
  | some port =>
  dsimp only
  cases m.interfaces.get? port with
  | none => exact .throw _
  | some id =>
  dsimp only
  cases m.neighbors.get? ⟨gateway, via⟩ with
  | some mac => exact .bind fun _ => .pure (by decide)
  | none => exact .ite (.bind fun _ => .bind fun _ => .pure (by decide)) (.bind fun _ => .pure (by decide))

theorem routeRemoved_answers (subnet : Subnet) :
    Answers (· ≠ .failed) (routeRemoved subnet : Operation (Follower δ) EventOutcome) := by
  refine .bind fun m => .bind fun _ => .bind fun there => ?_
  refine .ite (.bind fun _ => ?_) (.ite (.pure (by decide)) (.pure (by decide)))
  exact .ite (.bind fun _ => .pure (by decide)) (.pure (by decide))

theorem link_answers (i : IfIndex) (name : String) (up : Bool) :
    Answers (· ≠ .failed) (link i name up : Operation (Follower δ) EventOutcome) := by
  intro m
  have heq := m.link_eq i name up
  cases hnamed : m.named? name with
  | none =>
      rw [hnamed] at heq
      exact Operation.ends_ok heq (by decide)
  | some port =>
      rw [hnamed] at heq
      have hset : Answers (· ≠ .failed) (setLink port up : Operation (Follower δ) EventOutcome) :=
        .bind fun _ => .bind fun _ => .pure (by decide)
      exact Ends.of_eq (hset _) heq

omit [Bus δ] in
theorem linkRemoved_answers (i : IfIndex) :
    Answers (· ≠ .failed) (linkRemoved i : Operation (Follower δ) EventOutcome) := by
  refine .bind fun m => ?_
  cases m.ports.get? i with
  | none => exact .pure (by decide)
  | some port => exact .bind fun _ => .pure (by decide)

theorem addressAdded_answers (i : IfIndex) :
    Answers (· ≠ .failed) (addressAdded i : Operation (Follower δ) EventOutcome) := by
  refine .bind fun m => ?_
  cases m.ports.get? i with
  | none => exact .pure (by decide)
  | some port =>
      exact .ite (.pure (by decide)) (.bind fun _ => .bind fun _ => .bind fun _ => .pure (by decide))

theorem addressRemoved_answers (i : IfIndex) :
    Answers (· ≠ .failed) (addressRemoved i : Operation (Follower δ) EventOutcome) := by
  refine .bind fun m => ?_
  cases m.routedPort? i with
  | none => exact .pure (by decide)
  | some rp =>
      exact .bind fun _ => .bind fun _ => .bind fun _ => .bind fun _ => .bind fun _ => .pure (by decide)

theorem neighborAdded_answers (n : Neighbor) (mac? : Option MacAddr) :
    Answers (· ≠ .failed) (neighborAdded n mac? : Operation (Follower δ) EventOutcome) := by
  refine .bind fun m => ?_
  cases m.ports.get? n.ifindex with
  | none => exact .pure (by decide)
  | some port =>
  cases mac? with
  | none => exact .pure (by decide)
  | some mac =>
  refine .bind fun _ => .bind fun _ => .bind fun m' => ?_
  extract_lets waiting rest
  have hrest (u : PUnit) : Answers (· ≠ .failed) (rest u) := by
    unfold rest
    cases m'.interfaces.get? port with
    | none => exact .pure (by decide)
    | some id => exact .bind fun _ => .bind fun _ => .pure (by decide)
  cases (m.neighbors.get? n).filter fun old => old != mac with
  | none => exact hrest ()
  | some old => exact .ite (.bind hrest) (hrest ())

theorem neighborRemoved_answers (n : Neighbor) (mac? : Option MacAddr) :
    Answers (· ≠ .failed) (neighborRemoved n mac? : Operation (Follower δ) EventOutcome) := by
  refine .bind fun m => .bind fun _ => .ite (.pure (by decide)) ?_
  extract_lets rest
  have hrest (withdrawn : Bool) : Answers (· ≠ .failed) (rest withdrawn) := by
    unfold rest
    cases mac?.or (m.neighbors.get? n) with
    | none => exact .pure (by split <;> decide)
    | some mac => exact .bind fun _ => .ite (.pure (by decide)) (.bind fun _ => .pure (by split <;> decide))
  exact .ite (.bind hrest) (.bind hrest)

theorem apply_answers (event : Event) :
    Answers (· ≠ .failed) (apply event : Operation (Follower δ) EventOutcome) := by
  cases event with
  | link i name up => exact link_answers i name up
  | linkRemoved i => exact linkRemoved_answers i
  | address i change =>
      cases change with
      | added => exact addressAdded_answers i
      | removed => exact addressRemoved_answers i
  | route subnet change gateway via =>
      cases change with
      | added => exact routeAdded_answers subnet gateway via
      | removed => exact routeRemoved_answers subnet
  | neighbor ip i mac? change =>
      cases change with
      | added => exact neighborAdded_answers ⟨ip, i⟩ mac?
      | removed => exact neighborRemoved_answers ⟨ip, i⟩ mac?

/-- An event fails exactly if what applies it does. -/
theorem handle_failed_iff :
    (handle event m).1 = .failed ↔ ∃ e, apply event m = .error e (handle event m).2 := by
  have hanswers := apply_answers event m
  unfold handle
  cases happly : apply event m with
  | ok outcome m' =>
      refine iff_of_false (hanswers.of_ok happly) ?_
      rintro ⟨e, he⟩
      cases he
  | error e m' => exact iff_of_true rfl ⟨e, rfl⟩

/-! ### What has failed -/

/-- The news that something is gone never fails. -/
theorem withdraws_not_failed (hs : m.Sound) (h : event.Withdraws) : (handle event m).1 ≠ .failed := by
  intro hf
  obtain ⟨e, he⟩ := handle_failed_iff.mp hf
  cases event with
  | link i name up => exact h
  | linkRemoved i => exact (linkRemoved_ends i).of_error he
  | address i change =>
      subst h
      obtain ⟨-, rp, hrp, hnone⟩ :=
        (addressRemoved_ends (.address i .removed) Bus.tells_true hs.toOwned i).of_error he
      exact (hs.ready hrp).has_interface hnone
  | route subnet change gateway via =>
      subst h
      exact (routeRemoved_ends Bus.tells_true hs.toOwned subnet).of_error he
  | neighbor ip i mac? change =>
      subst h
      exact (neighborRemoved_ends Bus.tells_true hs.toOwned ⟨ip, i⟩ mac?).of_error he

theorem failed_unaltered (hs : m.Sound) (hlink : ∀ i name up, event ≠ .link i name up)
    (hf : (handle event m).1 = .failed) : m.Unaltered (handle event m).2 := by
  have hgone : ¬ event.Withdraws := fun h => withdraws_not_failed hs h hf
  obtain ⟨e, he⟩ := handle_failed_iff.mp hf
  cases event with
  | link i name up => exact absurd rfl (hlink i name up)
  | linkRemoved i => exact absurd trivial hgone
  | address i change =>
      cases change with
      | added =>
          obtain ⟨hr, -⟩ := (addressAdded_ends Bus.tells_true hs.toOwned i).of_error he
          exact hr.unaltered hs.toOwned.plain
      | removed => exact absurd rfl hgone
  | route subnet change gateway via =>
      cases change with
      | added =>
          obtain ⟨hr, -⟩ :=
            (routeAdded_ends Bus.tells_true hs.toOwned subnet gateway via).of_error he
          exact hr.unaltered hs.toOwned.plain
      | removed => exact absurd rfl hgone
  | neighbor ip i mac? change =>
      cases change with
      | added =>
          obtain ⟨⟨helse, -⟩, hslots, -⟩ :=
            (neighborAdded_ends Bus.tells_true ⟨ip, i⟩ mac?).of_error he
          exact helse.unaltered hslots
      | removed => exact absurd rfl hgone

/-- After every run on a fresh switch and on any device, an event that fails leaves all that the follower
keeps as it was, unless it is a link that could not be set; and the news that something is gone never
fails. -/
theorem failed_event_alters_nothing (board : Board) (bus : δ) (events : List Event) (event : Event) :
    let m := (fresh (.fresh board bus)).run events
    ((∀ i name up, event ≠ .link i name up) → (handle event m).1 = .failed →
      m.Unaltered (handle event m).2) ∧
      (event.Withdraws → (handle event m).1 ≠ .failed) := by
  intro m
  have hs : m.Sound := run_sound (sound_fresh board bus) events
  exact ⟨failed_unaltered hs, withdraws_not_failed hs⟩

/-- The device refuses the route once both halves of its egress object are written, and all that is to be
undone or removed from then on. -/
theorem failed_event_alters_nothing_tiring :
    let event := Event.route remoteNet .added (some ⟨0x0a000001⟩) (some 5)
    (handle event (tiring 7 arrival)).1 = .failed ∧
      (handle event (tiring 7 arrival)).2.switch.bus.left = 0 ∧
      (tiring 7 arrival).Unaltered (handle event (tiring 7 arrival)).2 ∧
      (handle (.address 5 .removed) (tiring 7 (arrival ++ [event]))).1 ≠ .failed := by
  intro event
  have hfailed : (handle event (tiring 7 arrival)).1 = .failed := by decide +kernel
  exact ⟨hfailed, by decide +kernel,
    (failed_event_alters_nothing _ _ arrival event).1 nofun hfailed,
    (failed_event_alters_nothing _ _ (arrival ++ [event]) (.address 5 .removed)).2 rfl⟩

end Follower

end ControlPlane
