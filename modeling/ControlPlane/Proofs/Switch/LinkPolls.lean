import Mathlib.Data.List.Nodup
import ControlPlane.Proofs.Panel.Links
import ControlPlane.Proofs.Switch.Runs

/-! # What polls tell of links

Polls report changes, and nothing but changes.  Between two of them ports may come under watch and leave it,
links go up and down, ports be enabled and disabled, and the bus stop answering and answer again.

* `LinkRun` is what a list of events has led to, with the polls that were made.  What was last reported for a
  port (`LinkPoll.lastReported`), and what somebody knows who applies all reports and forgets the ports that
  are not watched (`LinkPoll.view`), is read off the polls alone.
* **Step.**  `LinkRun.Kept.step`: both are the states that the next poll is given.
* **Run.**  `link_changes_replay`: a poll reports what differs from what was last reported, so that after it
  every link is known as the poll has seen it. -/

namespace ControlPlane

variable {δ : Type}

/-- A poll: the switch as it was found, and what was reported. -/
structure LinkPoll (δ : Type) where
  switch : Switch δ
  changes : List LinkChange

namespace LinkPoll

variable {poll : LinkPoll δ} {polls : List (LinkPoll δ)} {p : PortId} {up : Bool}

/-- Whether a poll found a port watched. -/
def Watches (poll : LinkPoll δ) (p : PortId) : Prop := poll.switch.ports.watched.contains p = true

instance (poll : LinkPoll δ) (p : PortId) : Decidable (poll.Watches p) := inferInstanceAs (Decidable (_ = _))

/-- What a poll has seen of a port: the state of its link when the poll came to it. -/
def seen [Bus δ] (poll : LinkPoll δ) (p : PortId) : Option Bool :=
  Ports.lookAll poll.switch.board poll.switch.ports.watched.keys (poll.switch.ports, poll.switch.bus) p

/-- What a poll reported for a port. -/
def reported (poll : LinkPoll δ) (p : PortId) : Option Bool :=
  (poll.changes.find? fun c => c.port = p).map (·.up)

/-- What was last reported for a port, since a poll found it unwatched. -/
def lastReported (polls : List (LinkPoll δ)) (p : PortId) : Option Bool :=
  polls.foldl (fun known poll => if poll.Watches p then (poll.reported p).or known else none) none

/-- What is known of the links after a poll: nothing of a port that is not watched, and of the others what
was known before, with the changes made one after the other. -/
def tell (known : PortId → Option Bool) (poll : LinkPoll δ) : PortId → Option Bool :=
  poll.changes.foldl (fun known c => Function.update known c.port (some c.up))
    fun p => if poll.Watches p then known p else none

/-- What is known of the links after some polls, the first one first, if nothing was known before them. -/
def view (polls : List (LinkPoll δ)) : PortId → Option Bool := polls.foldl tell fun _ => none

theorem lastReported_concat (polls : List (LinkPoll δ)) (poll : LinkPoll δ) (p : PortId) :
    lastReported (polls ++ [poll]) p =
      if poll.Watches p then (poll.reported p).or (lastReported polls p) else none := by
  rw [lastReported, List.foldl_append]
  rfl

theorem view_concat (polls : List (LinkPoll δ)) (poll : LinkPoll δ) :
    view (polls ++ [poll]) = tell (view polls) poll := by
  rw [view, List.foldl_append]
  rfl

/-- A port's states that are reported nowhere in between stay what was last reported. -/
theorem lastReported_append_quiet {since : List (LinkPoll δ)}
    (h : ∀ poll ∈ since, poll.Watches p ∧ poll.reported p = none) :
    lastReported (polls ++ since) p = lastReported polls p := by
  induction since using List.reverseRecOn with
  | nil => rw [List.append_nil]
  | append_singleton since poll ih =>
      obtain ⟨hwatches, hnone⟩ := h poll (List.mem_append_right _ List.mem_cons_self)
      rw [← List.append_assoc, lastReported_concat, if_pos hwatches, hnone, Option.none_or]
      exact ih fun poll hmem => h poll (List.mem_append_left _ hmem)

/-- The changes go by the ports' numbers, and are about ports that were watched. -/
structure Fair (poll : LinkPoll δ) : Prop where
  ordered : poll.changes.Pairwise fun c d => c.port.num < d.port.num
  watches : ∀ c ∈ poll.changes, poll.Watches c.port

/-- Of changes to different ports, the one to a port decides it, in whatever order they are made. -/
theorem foldl_update_eq {changes : List LinkChange}
    (h : changes.Pairwise fun c d => c.port.num < d.port.num) (known : PortId → Option Bool) (p : PortId) :
    changes.foldl (fun (known : PortId → Option Bool) c => Function.update known c.port (some c.up)) known p =
      ((changes.find? fun c => c.port = p).map (·.up)).or (known p) := by
  induction changes generalizing known with
  | nil => rfl
  | cons c changes ih =>
      obtain ⟨hlt, hrest⟩ := List.pairwise_cons.mp h
      rw [List.foldl_cons, ih hrest]
      by_cases hc : c.port = p
      · have hnone : (changes.find? fun c => c.port = p) = none := by
          rw [List.find?_eq_none]
          intro d hd heq
          have := hlt d hd
          rw [hc, of_decide_eq_true heq] at this
          exact Nat.lt_irrefl _ this
        rw [hnone, List.find?_cons_of_pos (by simpa using hc), ← hc, Function.update_self]
        rfl
      · rw [List.find?_cons_of_neg (by simpa using hc), Function.update_of_ne (Ne.symm hc)]

namespace Fair

variable (h : poll.Fair)

include h

theorem reported_eq_some_iff : poll.reported p = some up ↔ ⟨p, up⟩ ∈ poll.changes := by
  unfold reported
  constructor
  · intro hsome
    obtain ⟨c, hfind, rfl⟩ := Option.map_eq_some_iff.mp hsome
    obtain rfl : c.port = p := by simpa using List.find?_some hfind
    exact List.mem_of_find?_eq_some hfind
  · intro hmem
    obtain ⟨c, hfind⟩ := Option.isSome_iff_exists.mp
      (List.find?_isSome.mpr ⟨⟨p, up⟩, hmem, decide_eq_true rfl⟩ :
        (poll.changes.find? fun c => c.port = p).isSome = true)
    have hport : c.port = p := by simpa using List.find?_some hfind
    have hports : (poll.changes.map (·.port)).Nodup := by
      refine List.pairwise_map.mpr (h.ordered.imp ?_)
      intro c d hlt heq
      rw [heq] at hlt
      exact Nat.lt_irrefl _ hlt
    have hsame : c = ⟨p, up⟩ :=
      List.inj_on_of_nodup_map hports (List.mem_of_find?_eq_some hfind) hmem hport
    rw [hfind, hsame]
    rfl

theorem reported_eq_none_iff : poll.reported p = none ↔ ∀ up, ⟨p, up⟩ ∉ poll.changes := by
  simp only [Option.eq_none_iff_forall_ne_some, ne_eq, h.reported_eq_some_iff]

theorem tell_eq (known : PortId → Option Bool) (p : PortId) :
    tell known poll p = if poll.Watches p then (poll.reported p).or (known p) else none := by
  rw [tell, foldl_update_eq h.ordered]
  by_cases hw : poll.Watches p
  · rw [if_pos hw, if_pos hw]
    rfl
  · have hnone : ((poll.changes.find? fun c => c.port = p).map (·.up)) = none :=
      h.reported_eq_none_iff.mpr fun up hmem => hw (h.watches _ hmem)
    rw [if_neg hw, if_neg hw, hnone, Option.none_or]

end Fair

end LinkPoll

/-! ### Every run -/

/-- A port that comes under watch or leaves it, any change of everything else about the switch but the board,
or a poll. -/
inductive LinkEvent (δ : Type) where
  | watch (port : PortId) (on : Bool)
  | become (sw : Switch δ)
  | poll

/-- What some events have led to: the switch, the states that the next poll is given, and the polls, the first
one first. -/
structure LinkRun (δ : Type) where
  switch : Switch δ
  last : Ports.LinkStates
  polls : List (LinkPoll δ)

namespace LinkRun

variable [Bus δ] {run : LinkRun δ} {board : Board} {p : PortId} {up : Bool}

/-- The next poll. -/
def next (run : LinkRun δ) : LinkPoll δ := ⟨run.switch, (run.switch.pollLinks run.last).1.1⟩

def step (run : LinkRun δ) : LinkEvent δ → LinkRun δ
  | .watch port on => { run with switch := run.switch.watchPort port on }
  | .become sw => { run with
      switch := { sw with
        board := run.switch.board
        ports := { sw.ports with watched := run.switch.ports.watched } } }
  | .poll => ⟨(run.switch.pollLinks run.last).2, (run.switch.pollLinks run.last).1.2,
      run.polls ++ [run.next]⟩

/-- The run of some events, on a fresh switch. -/
def of (board : Board) (bus : δ) (events : List (LinkEvent δ)) : LinkRun δ :=
  events.foldl step ⟨.fresh board bus, ∅, []⟩

/-- The state that a port's link is in. -/
def Link (run : LinkRun δ) (p : PortId) (up : Bool) : Prop :=
  Operation.answer (Switch.portLinkUp p) run.switch = .ok up

/-- The next poll tells how the links are. -/
structure Truthful (board : Board) (run : LinkRun δ) : Prop where
  seen : ∀ p, (∃ up, run.next.seen p = some up) ↔ run.next.Watches p ∧ board.Has p
  ordered : run.next.changes.Pairwise fun c d => c.port.num < d.port.num
  /-- A port is reported if its state is not the one that was last reported for it. -/
  reported : ∀ p up, ⟨p, up⟩ ∈ run.next.changes ↔
    run.next.seen p = some up ∧ LinkPoll.lastReported run.polls p ≠ some up
  /-- Whoever applies all that was reported knows what was seen. -/
  known : LinkPoll.view (run.step .poll).polls = run.next.seen
  /-- What is reported of a port that was watched all along differs from what was reported before. -/
  differs : ∀ p up up' before first between, run.polls = before ++ first :: between →
    ⟨p, up⟩ ∈ first.changes →
    (∀ poll ∈ between, poll.Watches p ∧ ∀ up, ⟨p, up⟩ ∉ poll.changes) →
    ⟨p, up'⟩ ∈ run.next.changes → up ≠ up'

theorem link_iff : run.Link p up ↔
    Ports.look run.switch.board (run.switch.ports, run.switch.bus) p = some up := by
  rw [Ports.look_eq_some_iff, Link]
  change Operation.answer (Switch.onPorts (Ports.linkUp run.switch.board p)) run.switch = _ ↔ _
  rw [Switch.onPorts, Operation.answer_focus]

theorem seen_isSome_iff : (∃ up, run.next.seen p = some up) ↔ run.next.Watches p ∧ run.switch.board.Has p := by
  rw [LinkPoll.seen, Ports.lookAll_isSome_iff, KeyMap.mem_keys_iff, ← KeyMap.contains_iff]
  rfl

/-- A poll reports the states that it has seen and was not given. -/
theorem mem_next_iff : ⟨p, up⟩ ∈ run.next.changes ↔ run.next.seen p = some up ∧ run.last.get? p ≠ some up := by
  have hchanges := (Ports.poll_eq run.switch.board run.last (run.switch.ports, run.switch.bus)).1
  change _ ∈ (Ports.poll run.switch.board run.last (run.switch.ports, run.switch.bus)).1.1 ↔ _
  rw [hchanges, List.mem_filterMap]
  simp only [Ports.changeOf_eq_some_iff, Ports.get?_stillWatched]
  constructor
  · rintro ⟨q, hq, rfl, hseen, hlast⟩
    rw [KeyMap.mem_keys_iff, ← KeyMap.contains_iff] at hq
    rw [if_pos hq] at hlast
    exact ⟨hseen, hlast⟩
  · rintro ⟨hseen, hlast⟩
    have hwatches : run.next.Watches p := (seen_isSome_iff.mp ⟨up, hseen⟩).1
    refine ⟨p, ?_, rfl, hseen, ?_⟩
    · rw [KeyMap.mem_keys_iff, ← KeyMap.contains_iff]
      exact hwatches
    · exact fun h => hlast ((if_pos hwatches).symm.trans h)

theorem fair_next (run : LinkRun δ) : run.next.Fair where
  ordered := by
    have hchanges := (Ports.poll_eq run.switch.board run.last (run.switch.ports, run.switch.bus)).1
    change (Ports.poll run.switch.board run.last (run.switch.ports, run.switch.bus)).1.1.Pairwise _
    rw [hchanges]
    refine List.Pairwise.filterMap _ ?_ (KeyMap.keys_sorted _)
    intro p q hlt c hc d hd
    rw [(Ports.changeOf_eq_some_iff.mp hc).1, (Ports.changeOf_eq_some_iff.mp hd).1]
    exact hlt
  watches c hc := (seen_isSome_iff.mp ⟨c.up, (mem_next_iff.mp hc).1⟩).1

/-- What the next poll reports is what it has seen, where it was not given that. -/
theorem reported_or (run : LinkRun δ) (p : PortId) :
    (run.next.reported p).or (run.last.get? p) = (run.next.seen p).or (run.last.get? p) := by
  cases hseen : run.next.seen p with
  | none =>
      have hnone : run.next.reported p = none := by
        refine run.fair_next.reported_eq_none_iff.mpr fun up hup => ?_
        rw [mem_next_iff, hseen] at hup
        cases hup.1
      rw [hnone]
  | some up =>
      by_cases hlast : run.last.get? p = some up
      · have hnone : run.next.reported p = none := by
          refine run.fair_next.reported_eq_none_iff.mpr fun up' hup' => ?_
          rw [mem_next_iff, hseen] at hup'
          exact hup'.2 (hlast.trans hup'.1)
        rw [hnone, hlast]
        rfl
      · rw [run.fair_next.reported_eq_some_iff.mpr (mem_next_iff.mpr ⟨hseen, hlast⟩)]

theorem last_poll (run : LinkRun δ) (p : PortId) : (run.step .poll).last.get? p =
    if run.next.Watches p then (run.next.seen p).or (run.last.get? p) else none :=
  (Ports.poll_eq run.switch.board run.last (run.switch.ports, run.switch.bus)).2 p

/-- What each event keeps: the next poll is given what was reported. -/
structure Kept (board : Board) (run : LinkRun δ) : Prop where
  board_eq : run.switch.board = board
  fair : ∀ poll ∈ run.polls, poll.Fair
  last : ∀ p, LinkPoll.lastReported run.polls p = run.last.get? p
  view : ∀ p, LinkPoll.view run.polls p = run.last.get? p
  within : ∀ p up, run.last.get? p = some up → board.Has p

omit [Bus δ] in
theorem kept_start (board : Board) (bus : δ) : Kept board ⟨.fresh board bus, ∅, []⟩ where
  board_eq := rfl
  fair := nofun
  last p := (KeyMap.get?_empty p).symm
  view p := (KeyMap.get?_empty p).symm
  within p up h := by
    rw [KeyMap.get?_empty] at h
    cases h

namespace Kept

variable (h : Kept board run)

include h

/-- A poll passes on what it was given, with what it reports. -/
theorem poll : Kept board (run.step .poll) where
  board_eq := h.board_eq
  fair poll hmem := by
    rcases List.mem_append.mp hmem with hmem | hmem
    · exact h.fair poll hmem
    · exact List.mem_singleton.mp hmem ▸ run.fair_next
  last p := by
    refine (LinkPoll.lastReported_concat run.polls run.next p).trans ?_
    rw [last_poll, h.last, reported_or]
  view p := by
    refine (congrFun (LinkPoll.view_concat run.polls run.next) p).trans ?_
    rw [run.fair_next.tell_eq, last_poll, h.view, reported_or]
  within p up hup := by
    rw [last_poll] at hup
    split at hup
    · rcases Option.or_eq_some_iff.mp hup with hseen | ⟨-, hlast⟩
      · exact h.board_eq ▸ (seen_isSome_iff.mp ⟨up, hseen⟩).2
      · exact h.within p up hlast
    · cases hup

theorem step (event : LinkEvent δ) : Kept board (run.step event) := by
  cases event with
  | watch port on => exact ⟨h.board_eq, h.fair, h.last, h.view, h.within⟩
  | become sw => exact ⟨h.board_eq, h.fair, h.last, h.view, h.within⟩
  | poll => exact h.poll

theorem truthful : Truthful board run where
  seen p := h.board_eq ▸ seen_isSome_iff
  ordered := run.fair_next.ordered
  reported p up := by rw [mem_next_iff, h.last]
  known := by
    funext p
    rw [h.poll.view, last_poll]
    by_cases hw : run.next.Watches p
    · rw [if_pos hw]
      cases hseen : run.next.seen p with
      | some up => rfl
      | none =>
          have hnot : ¬ board.Has p := by
            intro hp
            obtain ⟨up, hup⟩ := seen_isSome_iff.mpr ⟨hw, h.board_eq.symm ▸ hp⟩
            rw [hseen] at hup
            cases hup
          rw [Option.none_or, Option.eq_none_iff_forall_ne_some]
          exact fun up hup => hnot (h.within p up hup)
    · have hunseen : run.next.seen p = none := by
        rw [Option.eq_none_iff_forall_ne_some]
        exact fun up hup => hw (seen_isSome_iff.mp ⟨up, hup⟩).1
      rw [if_neg hw, hunseen]
  differs p up up' before first between hpolls hfirst hbetween hnext := by
    have hfair : ∀ poll ∈ first :: between, poll.Fair := fun poll hmem =>
      h.fair poll (hpolls ▸ List.mem_append_right before hmem)
    have hquiet : ∀ poll ∈ between, poll.Watches p ∧ poll.reported p = none := by
      intro poll hmem
      obtain ⟨hwatches, hnot⟩ := hbetween poll hmem
      exact ⟨hwatches, (hfair poll (List.mem_cons_of_mem first hmem)).reported_eq_none_iff.mpr hnot⟩
    have hfirst' := hfair first List.mem_cons_self
    have hlast : LinkPoll.lastReported run.polls p = some up := by
      rw [hpolls, List.append_cons, LinkPoll.lastReported_append_quiet hquiet, LinkPoll.lastReported_concat,
        if_pos (hfirst'.watches _ hfirst), hfirst'.reported_eq_some_iff.mpr hfirst]
      rfl
    rintro rfl
    exact (mem_next_iff.mp hnext).2 ((h.last p).symm.trans hlast)

end Kept

/-- Over an emulated chip a poll sees the links as they were before it and are after it. -/
theorem seen_iff_link {run : LinkRun Channel} (h : run.switch.bus.Sound) :
    (run.next.seen p = some up ↔ run.next.Watches p ∧ run.Link p up) ∧
      ((run.step .poll).Link p up ↔ run.Link p up) := by
  constructor
  · have hseen : run.next.seen p = if p ∈ run.switch.ports.watched.keys
        then Ports.look run.switch.board (run.switch.ports, run.switch.bus) p else none :=
      Ports.lookAll_reread h (.refl h) _
    rw [hseen, link_iff]
    have hmem : p ∈ run.switch.ports.watched.keys ↔ run.next.Watches p := by
      rw [KeyMap.mem_keys_iff, ← KeyMap.contains_iff]
      rfl
    by_cases hw : run.next.Watches p
    · rw [if_pos (hmem.mpr hw)]
      exact (and_iff_right hw).symm
    · rw [if_neg (mt hmem.mp hw)]
      simp [hw]
  · rw [link_iff, link_iff]
    change Ports.look run.switch.board
      (Ports.poll run.switch.board run.last (run.switch.ports, run.switch.bus)).2 p = some up ↔ _
    have hpoll : (Ports.poll run.switch.board run.last (run.switch.ports, run.switch.bus)).2 =
        (run.switch.ports, (Ports.poll run.switch.board run.last (run.switch.ports, run.switch.bus)).2.2) :=
      Prod.ext (Ports.poll_fst _ _ _) rfl
    rw [hpoll, Ports.look_reread h (Ports.reread_poll h _ _ _)]

end LinkRun

/-- Whatever happens between the polls of a run, and whatever the bus answers to each of their reads, each poll
reports, by the ports' numbers, one change for each watched port of the board whose link it has seen in another
state than was last reported for it, and no other change; so whoever applies the changes knows after each poll
what it has seen of every port.  Over an emulated chip that is the state of every link before and after the
poll. -/
theorem link_changes_replay (board : Board) :
    (∀ {δ : Type} [Bus δ] (bus : δ) (events : List (LinkEvent δ)),
      (LinkRun.of board bus events).Truthful board) ∧
    ∀ run : LinkRun Channel, run.switch.bus.Sound → ∀ p up,
      (run.next.seen p = some up ↔ run.next.Watches p ∧ run.Link p up) ∧
        ((run.step .poll).Link p up ↔ run.Link p up) := by
  refine ⟨fun bus events => ?_, fun run h p up => LinkRun.seen_iff_link h⟩
  refine LinkRun.Kept.truthful (List.foldlRecOn (motive := LinkRun.Kept board) events LinkRun.step
    (LinkRun.kept_start board bus) ?_)
  intro run h event _
  exact h.step event

/-- Two ports are watched, the link of the second one comes up, and then the second one is unwatched for a poll
and watched again. -/
def LinkEvent.flapping (board : Board) (first second : PortId) : List (LinkEvent Channel) :=
  let memory := Memory.clear.write second.locate.modeRegister 0x20
  let linked : Channel := { Channel.driven with device := .emulated { Chip.fresh 0 256 with memory := memory } }
  [.watch first true, .watch second true, .poll, .become (.fresh board linked), .poll, .poll,
    .watch second false, .poll, .watch second true, .become (.fresh board linked)]

/-- Both ports are down when they are first seen.  The one that came up is reported once, and again once it has
been unwatched. -/
theorem link_changes_replay_flapping :
    let board : Board := ⟨48, Board.defaultStem, Board.defaultMacBase⟩
    let first : PortId := ⟨1, by decide, by decide⟩
    let second : PortId := ⟨2, by decide, by decide⟩
    let run : LinkRun Channel := .of board Channel.driven (LinkEvent.flapping board first second)
    run.Truthful board ∧ (run.next.seen second = some true ↔ run.next.Watches second ∧ run.Link second true) ∧
      run.polls.map (·.changes) = [[⟨first, false⟩, ⟨second, false⟩], [⟨second, true⟩], [], []] ∧
      run.next.changes = [⟨second, true⟩] := by
  intro board first second run
  have hsound : run.switch.bus.Sound := ⟨_, rfl, nofun⟩
  obtain ⟨htruthful, hsteady⟩ := link_changes_replay board
  exact ⟨htruthful Channel.driven (LinkEvent.flapping board first second), (hsteady run hsound second true).1,
    by decide +kernel, by decide +kernel⟩

end ControlPlane
