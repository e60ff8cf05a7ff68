import ControlPlane.Proofs.Kernel.Neighbors

/-! # What events do

`handle_handled` says what becomes of every event, applied or failed, and whatever the device answers;
each of these things is a chain of steps (`handle_steps`).

* What the steps keep holds after every run: the books own what is routed, and no egress object is
  orphaned or shared (`egress_objects_owned`).
* What some events break, and no others, holds throughout a run exactly if none of those events comes
  (`run_holds_iff`). -/

namespace ControlPlane.Follower

open Operation (Ends)
open Routing (View)

variable {δ : Type} {refused : δ → Prop} {event : Event} {m m' m'' : Follower δ}

/-! ### Single steps -/

theorem Elsewhere.step (h : m.Elsewhere m') : Step refused event m m' := by
  have hp : m'.ports = m.ports := congrArg (·.ports) h
  refine .elsewhere (by rw [hp]; exact h) fun i p hm => .inl (hp ▸ hm)

theorem Renamed.step {i : IfIndex} {port? : Option PortId} (h : m.Renamed i port? m')
    (hp : ∀ port, port? = some port → m.switch.board.Has port) : Step refused event m m' := by
  refine .elsewhere h.rest fun k p hk => ?_
  rw [h.ports] at hk
  split at hk
  · exact .inr (hp p hk)
  · exact .inl hk

theorem Announced.steps {subnet : Subnet} {gateway : Option Ipv4} {via : Option IfIndex}
    (h : m.Announced refused subnet gateway via m') :
    Steps refused (.route subnet .added gateway via) m m' := by
  cases h with
  | ignored => exact .refl
  | installed hg hv hn hrp hf hr => exact .single (.installed hn hrp hf hr (.inr ⟨_, _, rfl⟩))
  | @pended hop m₁ hg hv hn hm =>
      have hnone : m₁.installed.get? subnet = none := by
        rw [hm.rest.2.2.2, KeyMap.get?_erase_self]
      rcases hm with ⟨rfl, -⟩ | ⟨hs, hr⟩
      · exact .single (.pended hnone ⟨_, _, rfl⟩)
      · exact .tail (.single (.withdrawn hs hr)) (.pended hnone ⟨_, _, rfl⟩)

theorem Removed.steps {subnet : Subnet} {gateway : Option Ipv4} {via : Option IfIndex}
    (h : m.Removed refused subnet m') :
    Steps refused (.route subnet .removed gateway via) m m' := by
  have hpending : Step refused (.route subnet .removed gateway via) m
      { m with pending := m.pending.erase subnet } := .unpended
  cases h with
  | nothing hv hi hr => exact .tail (.single hpending) (.tried hr)
  | @route m₁ _ hfound hr hrest =>
      have hremoved := Relation.ReflTransGen.tail (.single hpending) (.removed rfl hr)
      split at hrest
      · refine hremoved.trans ?_
        cases hrest with
        | unresolved hr => exact .refl
        | unwanted hr hw => exact .refl
        | hosted hr hw hf hr' =>
            obtain ⟨-, hn, hrp⟩ := resolved?_some hr
            exact .single (.hosted hw hn hrp hf hr')
        | failed hr hw hr' ho => exact .single (.tried hr')
      · rw [hrest]
        exact hremoved

theorem Gone.steps {n : Neighbor} {mac? : Option MacAddr} (h : m.Gone refused n m') :
    Steps refused (.neighbor n.ip n.ifindex mac? .removed) m m' := by
  have hforgot : Step refused (.neighbor n.ip n.ifindex mac? .removed) m
      { m with neighbors := m.neighbors.erase n } := .forgotten rfl
  cases h with
  | unnamed hport => exact .single hforgot
  | elsewhere hport hvia he => exact .tail (.single hforgot) he.step
  | unhosted hport hvia hr he =>
      obtain ⟨host, hhost, -⟩ := hostVia_iff.mp hvia
      have hip : m.hosts.get? n.ip ≠ none := by simp [hhost]
      exact .tail (.tail (.single hforgot) (.unhosted hip hr)) he.step

/-! ### Room -/

/-- Whether a device that is watched has refused something is told. -/
theorem not_exhausted {m : Follower (Watched δ)} (hok : m.switch.bus.refused = false)
    (hegresses : ¬ m.view.EgressesFull) (hslots : ¬ m.view.SlotsFull) :
    ¬ m.Exhausted fun w => w.refused = true := by
  rintro (hr | hfull | hfull)
  · exact Bool.false_ne_true (hok.symm.trans hr)
  · exact hegresses hfull
  · exact hslots hfull

theorem not_interfacesFull {id : InterfaceId} (hid : IndexRange.interfaces.Holds id)
    (h : m.view.interface? id = none) : ¬ m.view.InterfacesFull :=
  fun hfull => hfull id hid h

theorem not_egressesFull {id : EgressId} (hid : IndexRange.egresses.Holds id)
    (h : m.view.egress? id = none) : ¬ m.view.EgressesFull :=
  fun hfull => hfull id hid h

theorem not_slotsFull {slot : RouteSlot} (hslot : IndexRange.routes.Holds slot)
    (h : ∀ p ∈ m.switch.routing.routes.toList, p.2.slot ≠ slot) : ¬ m.view.SlotsFull := by
  intro hfull
  obtain ⟨s, route, hroute, he⟩ := hfull slot hslot
  exact h (s, route) ((m.switch.routing.routes.mem_toList_iff s route).mpr hroute) he

/-! ### Loops -/

/-- What a loop that installs routes keeps: it moves no port and no neighbour, and loses no route of the
kernel. -/
structure Onward (m m' : Follower δ) : Prop extends Still m m' where
  tracks : ∀ s, m.Tracks s → m'.Tracks s

theorem Onward.refl (m : Follower δ) : m.Onward m := ⟨.refl m, fun _ => id⟩

theorem Onward.trans (h : m.Onward m') (h' : m'.Onward m'') : m.Onward m'' :=
  ⟨h.toStill.trans h'.toStill, fun s hs => h'.tracks s (h.tracks s hs)⟩

theorem Still.onward (h : m.Still m') (hi : m'.installed = m.installed) (hp : m'.pending = m.pending) :
    m.Onward m' := by
  refine ⟨h, fun s hs => ?_⟩
  rw [Tracks, hi, hp]
  exact hs

theorem Rerouted.onward {v : View} (h : Rerouted refused m v m') : m.Onward m' :=
  h.still.onward h.installed h.pending

theorem Rerouted.onward_installing {v : View} {subnet : Subnet} {route : InstalledRoute}
    (h : Rerouted refused (m.installing subnet route) v m') : m.Onward m' := by
  refine ⟨h.still_installing, fun s hs => ?_⟩
  rw [Tracks, h.installed, h.pending, installing_installed, installing_pending, KeyMap.get?_insert,
    KeyMap.get?_erase]
  split
  · exact .inl (Option.some_ne_none route)
  · exact hs

variable [Bus δ]

theorem tryInstallHost_steps (event : Event) (ht : Bus.Tells refused) (h : m.Owned) {n : Neighbor}
    {mac : MacAddr} {rp : RoutedPort} (hn : m.neighbors.get? n = some mac)
    (hrp : m.routedPort? n.ifindex = some rp) :
    Ends (tryTo (installHost n rp mac)) m (fun _ m' => Steps refused event m m' ∧ m.Onward m')
      fun _ _ => False := by
  refine tryTo_ends ((installHost_ends ht h n rp mac).mono ?_ ?_)
  · rintro _ m' (⟨-, rfl⟩ | ⟨hw, id, slot, hf, hr⟩)
    · exact ⟨.refl, .refl _⟩
    · have hstill : m.Still m' := ⟨hr.ports, hr.interfaces, hr.neighbors⟩
      exact ⟨.single (.hosted hw hn hrp hf hr), hstill.onward hr.installed hr.pending⟩
  · rintro _ m' ⟨-, hr, -⟩
    exact ⟨.single (.tried hr), hr.onward⟩

theorem lodge_steps (event : Event) (ht : Bus.Tells refused) (h : m.Owned)
    {found : List (Neighbor × MacAddr)} {rp : RoutedPort}
    (hn : ∀ n mac, (n, mac) ∈ found →
      m.neighbors.get? n = some mac ∧ m.routedPort? n.ifindex = some rp) :
    Ends (lodge rp found) m
      (fun _ m' => Steps refused event m m' ∧ m.Onward m') fun _ _ => False := by
  refine Ends.forAll ?_ ⟨.refl, .refl m⟩
  rintro ⟨n, mac⟩ hmem m₁ ⟨hs, honward⟩
  obtain ⟨hmac, hrp⟩ := hn n mac hmem
  rw [← honward.neighbors] at hmac
  rw [← honward.routedPort?_eq] at hrp
  have howned : m₁.Owned := Steps.owned hs h
  refine (tryInstallHost_steps event ht howned hmac hrp).mono ?_ fun _ _ he => he
  rintro _ m₂ ⟨hs', honward'⟩
  exact ⟨hs.trans hs', honward.trans honward'⟩

theorem install_steps (event : Event) (ht : Bus.Tells refused) (h : m.Owned) (subnet : Subnet)
    (hop : NextHop) {mac : MacAddr} {rp : RoutedPort}
    (hn : m.neighbors.get? ⟨hop.gateway, hop.via⟩ = some mac)
    (hrp : m.routedPort? hop.via = some rp) (hs : m.Tracks subnet) :
    Ends (install subnet hop rp mac) m (fun _ m' => Steps refused event m m' ∧ m.Onward m')
      fun _ m' => Steps refused event m m' ∧ m.Onward m' := by
  refine (install_ends ht h subnet hop rp mac).mono ?_ ?_
  · rintro _ m' ⟨id, slot, hf, hr⟩
    exact ⟨.single (.installed hn hrp hf hr (.inl hs)), hr.onward_installing⟩
  · rintro _ m' ⟨hr, -⟩
    exact ⟨.single (.tried hr), hr.onward⟩

theorem settle_steps (event : Event) (ht : Bus.Tells refused) (h : m.Owned) {n : Neighbor}
    {mac : MacAddr} {rp : RoutedPort} (hn : m.neighbors.get? n = some mac)
    (hrp : m.routedPort? n.ifindex = some rp) {subnets : List Subnet}
    (hsubnets : ∀ s ∈ subnets, m.Tracks s) :
    Ends (settle n rp mac subnets) m (fun _ m' => Steps refused event m m') fun _ _ => False := by
  refine Ends.bind ((tryInstallHost_steps event ht h hn hrp).mono ?_ fun _ _ he => he)
  rintro _ m₁ ⟨hs₁, honward₁⟩
  have hloop : Ends (Operation.forAll
      (fun subnet => tryTo (install subnet ⟨n.ip, n.ifindex⟩ rp mac)) subnets) m₁
      (fun _ m' => Steps refused event m m' ∧ m.Onward m') fun _ _ => False := by
    refine Ends.forAll ?_ ⟨hs₁, honward₁⟩
    rintro subnet hmem m₂ ⟨hs, honward⟩
    rw [← honward.neighbors] at hn
    rw [← honward.routedPort?_eq] at hrp
    have howned : m₂.Owned := Steps.owned hs h
    have htracks : m₂.Tracks subnet := honward.tracks subnet (hsubnets subnet hmem)
    refine tryTo_ends ((install_steps event ht howned subnet ⟨n.ip, n.ifindex⟩ hn hrp htracks).mono
      ?_ ?_)
    · rintro _ m₃ ⟨hs', honward'⟩
      exact ⟨hs.trans hs', honward.trans honward'⟩
    · rintro _ m₃ ⟨hs', honward'⟩
      exact ⟨hs.trans hs', honward.trans honward'⟩
  exact hloop.mono (fun _ _ hs => hs.1) fun _ _ he => he

theorem Addressed.steps (ht : Bus.Tells refused) (h : m.Owned) {i : IfIndex}
    (ha : m.Addressed refused i m') : Steps refused event m m' := by
  cases ha with
  | ignored => exact .refl
  | @made port id face m₁ _ hport hnone hid hr hs hface =>
      have hone : Step refused event m m₁ := .interfaceAdded hnone hid hr hface
      refine .head hone ((lodge_steps event ht (hone.owned h) fun n mac hn => ?_).of_ok hs).1
      obtain ⟨hmac, hvia⟩ := mem_neighborsOn_iff.mp hn
      refine ⟨?_, routedPort?_eq_some_iff.mpr ⟨?_, ?_⟩⟩
      · rw [hr.neighbors, hmac]
      · rw [hr.ports, hvia]
      · rw [hr.interfaces, KeyMap.get?_insert_self]

theorem Added.steps (ht : Bus.Tells refused) (h : m.Owned) {n : Neighbor} {mac? : Option MacAddr}
    (ha : m.Added n mac? m') : Steps refused (.neighbor n.ip n.ifindex mac? .added) m m' := by
  cases ha with
  | ignored => exact .refl
  | @noted port mac _ hmac hport hroom hid helse =>
      subst hmac
      exact .tail (.single (.learned rfl)) helse.step
  | @settled port mac id m₁ _ hmac hport hroom hid helse hs =>
      subst hmac
      have hlearned : Steps refused (.neighbor n.ip n.ifindex (some mac) .added) m m₁ :=
        .tail (.single (.learned rfl)) helse.step
      have hneighbors : m₁.neighbors = m.neighbors.insert n mac := congrArg (·.neighbors) helse
      have hports : m₁.ports = m.ports := congrArg (·.ports) helse
      have hinterfaces : m₁.interfaces = m.interfaces := congrArg (·.interfaces) helse
      have hn : m₁.neighbors.get? n = some mac := by
        rw [hneighbors, KeyMap.get?_insert_self]
      have hrp : m₁.routedPort? n.ifindex = some ⟨port, id⟩ := by
        rw [routedPort?, hports, hinterfaces, hport]
        simp [hid]
      refine hlearned.trans ((settle_steps _ ht (hlearned.owned h) hn hrp fun s hmem => ?_).of_ok hs)
      rw [Tracks, show m₁.installed = m.installed from congrArg (·.installed) helse,
        show m₁.pending = m.pending from congrArg (·.pending) helse]
      rcases mem_waitingFor_iff.mp hmem with hp | ⟨-, r, hr, -⟩
      · exact .inr (by simp [hp])
      · exact .inl (by simp [hr])

/-! ### Every event -/

/-- What becomes of an event, and how the follower looks then, if its books were sound. -/
inductive Handled (refused : δ → Prop) (m : Follower δ) :
    Event → EventOutcome → Follower δ → Prop where
  | renamed {i name up outcome} {m' : Follower δ} (h : m.Renamed i (m.named? name) m') :
      Handled refused m (.link i name up) outcome m'
  | unnamed {i outcome} {m' : Follower δ} (h : m.Renamed i none m') :
      Handled refused m (.linkRemoved i) outcome m'
  | addressed {i outcome} {m' : Follower δ} (h : m.Addressed refused i m') :
      Handled refused m (.address i .added) outcome m'
  /-- No interface can be made. -/
  | unmade {i outcome} {m' : Follower δ} (ho : outcome = .failed)
      (h : Rerouted refused m m.view m') (hwhy : refused m'.switch.bus ∨ m.view.InterfacesFull) :
      Handled refused m (.address i .added) outcome m'
  | unaddressed {i outcome} {m' : Follower δ} (hs : Steps refused (.address i .removed) m m')
      (h : m.Unaddressed refused i m') : Handled refused m (.address i .removed) outcome m'
  | announced {subnet gateway via outcome} {m' : Follower δ} (ho : outcome ≠ .failed)
      (h : m.Announced refused subnet gateway via m') :
      Handled refused m (.route subnet .added gateway via) outcome m'
  /-- The route cannot be installed. -/
  | failed {subnet gateway via outcome} {m' : Follower δ} (ho : outcome = .failed)
      (h : Rerouted refused m m.view m') :
      Handled refused m (.route subnet .added gateway via) outcome m'
  | removed {subnet gateway via outcome} {m' : Follower δ} (h : m.Removed refused subnet m') :
      Handled refused m (.route subnet .removed gateway via) outcome m'
  | added {ip i mac? outcome} {m' : Follower δ} (h : m.Added ⟨ip, i⟩ mac? m') :
      Handled refused m (.neighbor ip i mac? .added) outcome m'
  /-- There is no place for the neighbour's station. -/
  | crowded {ip i mac outcome} {m' : Follower δ} (ho : outcome = .failed) (h : m.Elsewhere m')
      (hwhy : refused m'.switch.bus ∨ m.switch.stations.Crowded mac 0) :
      Handled refused m (.neighbor ip i (some mac) .added) outcome m'
  | gone {ip i mac? outcome} {m' : Follower δ} (h : m.Gone refused ⟨ip, i⟩ m') :
      Handled refused m (.neighbor ip i mac? .removed) outcome m'

/-- An event that fails leaves the follower where it has got to. -/
theorem handle_ends {P : EventOutcome → Follower δ → Prop}
    (h : Ends (apply event) m P fun _ m' => P .failed m') :
    P (handle event m).1 (handle event m).2 := by
  unfold handle
  cases hop : apply event m with
  | ok outcome m' => exact h.of_ok hop
  | error e m' => exact h.of_error hop

/-- Where an event leads if it does not end badly. -/
theorem handle_reaches {P bad : Follower δ → Prop} (hm' : (handle event m).2 = m')
    (h : Ends (apply event) m (fun _ m' => P m') fun _ m' => bad m') (hnot : ¬ bad m') : P m' := by
  subst hm'
  refine (handle_ends (P := fun _ m' => bad m' ∨ P m') ?_).resolve_left hnot
  exact h.mono (fun _ _ hp => .inr hp) fun _ _ hb => .inl hb

theorem handle_handled (ht : Bus.Tells refused) (hs : m.Sound) (event : Event) :
    m.Handled refused event (handle event m).1 (handle event m).2 := by
  refine handle_ends (P := m.Handled refused event) ?_
  cases event with
  | link i name up => exact (link_ends i name up).mono (fun _ _ => .renamed) fun _ _ => .renamed
  | linkRemoved i => exact (linkRemoved_ends i).mono (fun _ _ => .unnamed) fun _ _ he => he.elim
  | address i change =>
      cases change with
      | added =>
          exact (addressAdded_ends ht hs.toOwned i).mono (fun _ _ => .addressed)
            fun _ _ he => .unmade rfl he.1 he.2
      | removed =>
          refine (addressRemoved_ends _ ht hs.toOwned i).mono
            (fun _ _ hu => .unaddressed hu.1 hu.2) ?_
          -- the interface of a port is there
          rintro _ _ ⟨-, rp, hrp, hnone⟩
          exact absurd hnone (hs.ready hrp).has_interface
  | route subnet change gateway via =>
      cases change with
      | added =>
          exact (routeAdded_ends ht hs.toOwned subnet gateway via).mono
            (fun _ _ ha => .announced ha.1 ha.2) fun _ _ he => .failed rfl he.1
      | removed =>
          exact (routeRemoved_ends ht hs.toOwned subnet).mono (fun _ _ => .removed)
            fun _ _ he => he.elim
  | neighbor ip i mac? change =>
      cases change with
      | added =>
          refine (neighborAdded_ends ht ⟨ip, i⟩ mac?).mono (fun _ _ => .added) ?_
          rintro _ m' ⟨⟨helse, -⟩, -, port, mac, rfl, hport, hr | hboard | hcrowded⟩
          · exact .crowded rfl helse (.inl hr)
          · exact absurd (hs.on_board i port hport) hboard
          · exact .crowded rfl helse (.inr hcrowded)
      | removed =>
          exact (neighborRemoved_ends ht hs.toOwned ⟨ip, i⟩ mac?).mono (fun _ _ hg => .gone hg.1)
            fun _ _ he => he.elim

theorem Handled.steps (ht : Bus.Tells refused) (howned : m.Owned) {outcome : EventOutcome}
    (h : m.Handled refused event outcome m') : Steps refused event m m' := by
  cases h with
  | renamed h => exact .single (h.step fun _ => has_of_named?)
  | unnamed h => exact .single (h.step nofun)
  | addressed h => exact h.steps ht howned
  | unmade ho h hwhy => exact .single (.tried h)
  | unaddressed hs h => exact hs
  | announced ho h => exact h.steps
  | failed ho h => exact .single (.tried h)
  | removed h => exact h.steps
  | added h => exact h.steps ht howned
  | crowded ho h hwhy => exact .single h.step
  | gone h => exact h.steps

/-- An event is a chain of steps, whether it is applied or fails. -/
theorem handle_steps (ht : Bus.Tells refused) (hs : m.Sound) (event : Event) :
    Steps refused event m (handle event m).2 :=
  (handle_handled ht hs event).steps ht hs.toOwned

/-! ### Every run -/

theorem handle_sound (h : m.Sound) (event : Event) : (handle event m).2.Sound :=
  (handle_steps Bus.tells_true h event).sound h

/-- What each event of a run keeps holds after the run. -/
theorem run_keeps {P : Follower δ → Prop} {events : List Event}
    (hkeeps : ∀ event ∈ events, ∀ m, P m → P (handle event m).2) (h : P m) : P (m.run events) := by
  induction events generalizing m with
  | nil => exact h
  | cons event events ih =>
      exact ih (fun e he => hkeeps e (List.mem_cons_of_mem _ he))
        (hkeeps event List.mem_cons_self m h)

theorem run_sound (h : m.Sound) (events : List Event) : (m.run events).Sound :=
  run_keeps (fun event _ _ h => handle_sound h event) h

theorem run_take_succ (m : Follower δ) {events : List Event} {k : Nat}
    (hk : events[k]? = some event) :
    m.run (events.take (k + 1)) = (handle event (m.run (events.take k))).2 := by
  rw [List.take_add_one, hk, run, List.foldl_append]
  rfl

/-- A follower on a device that is watched, after some events. -/
def watchedRun (board : Board) (bus : δ) (events : List Event) : Follower (Watched δ) :=
  (fresh (.fresh board (.start bus))).run events

omit [Bus δ] in
/-- What some events break and no others holds after every event exactly if none of those comes. -/
theorem prefixes_hold_iff {holds : List Event → Prop} {breaks : List Event → Event → Prop}
    {events : List Event} (hstart : holds [])
    (hstep : ∀ k event, events[k]? = some event → holds (events.take k) →
      (holds (events.take (k + 1)) ↔ ¬ breaks (events.take k) event)) :
    (∀ k ≤ events.length, holds (events.take k)) ↔
      ∀ k event, events[k]? = some event → ¬ breaks (events.take k) event := by
  constructor
  · intro h k event hk
    obtain ⟨hlt, -⟩ := List.getElem?_eq_some_iff.mp hk
    exact (hstep k event hk (h k (Nat.le_of_lt hlt))).mp (h (k + 1) hlt)
  · intro h k hk
    induction k with
    | zero => exact hstart
    | succ k ih =>
        have hevent : events[k]? = some events[k] := List.getElem?_eq_getElem hk
        exact (hstep k _ hevent (ih (Nat.le_of_succ_le hk))).mpr (h k _ hevent)

/-- The same for what is told from the follower alone.  The run is kept within `bounds` by what its
device and its events are. -/
theorem run_holds_iff {holds : Follower δ → Prop} {breaks : Follower δ → Event → Prop}
    (bounds : Follower δ → Prop)
    (hstep : ∀ m event, m.Sound → holds m → bounds (handle event m).2 →
      (holds (handle event m).2 ↔ ¬ breaks m event))
    {events : List Event} (hs : m.Sound) (hm : holds m)
    (hb : ∀ k ≤ events.length, bounds (m.run (events.take k))) :
    (∀ k ≤ events.length, holds (m.run (events.take k))) ↔
      ∀ k event, events[k]? = some event → ¬ breaks (m.run (events.take k)) event := by
  refine @prefixes_hold_iff (fun es => holds (m.run es)) (fun es => breaks (m.run es)) events hm
    fun k event hk h => ?_
  have hbound : bounds (m.run (events.take (k + 1))) :=
    hb (k + 1) (List.getElem?_eq_some_iff.mp hk).1
  rw [run_take_succ m hk] at hbound ⊢
  exact hstep _ event (run_sound hs _) h hbound

/-- After every run on a fresh switch, the egress objects that are there are those that the books name
for an installed route or a host route, and no egress object is named twice. -/
theorem egress_objects_owned (board : Board) (bus : δ) (events : List Event) :
    let m := (fresh (.fresh board bus)).run events
    (∀ id, m.switch.routing.egresses.contains id = true ↔
      (∃ s r, m.installed.get? s = some r ∧ r.egress = id) ∨
        ∃ ip h, m.hosts.get? ip = some h ∧ h.egress = id) ∧
      (∀ s s' r r', m.installed.get? s = some r → m.installed.get? s' = some r' →
        r.egress = r'.egress → s = s') ∧
      (∀ ip ip' h h', m.hosts.get? ip = some h → m.hosts.get? ip' = some h' →
        h.egress = h'.egress → ip = ip') ∧
      ∀ s ip r h, m.installed.get? s = some r → m.hosts.get? ip = some h → r.egress ≠ h.egress := by
  intro m
  obtain ⟨-, howns⟩ : m.Owned := (run_sound (sound_fresh board bus) events).toOwned
  have hkernel (s : Subnet) (r : InstalledRoute) (hs : m.installed.get? s = some r) :
      m.record (.kernel s) = some r.egress := by simp [record, hs]
  have hneighbor (ip : Ipv4) (h : HostRoute) (hip : m.hosts.get? ip = some h) :
      m.record (.neighbor ip) = some h.egress := by simp [record, hip]
  refine ⟨fun id => ?_, fun s s' r r' hs hs' he => ?_, fun ip ip' h h' hip hip' he => ?_,
    fun s ip r h hs hip he => ?_⟩
  · rw [← Bool.not_eq_false, Routing.contains_egresses_eq_false_iff]
    refine (howns.live_iff id).trans ?_
    constructor
    · rintro ⟨o, ho⟩
      cases o with
      | kernel s => exact .inl ⟨s, Option.map_eq_some_iff.mp ho⟩
      | neighbor ip => exact .inr ⟨ip, Option.map_eq_some_iff.mp ho⟩
    · rintro (⟨s, r, hs, rfl⟩ | ⟨ip, h, hip, rfl⟩)
      · exact ⟨_, hkernel s r hs⟩
      · exact ⟨_, hneighbor ip h hip⟩
  · have ho := howns.unique _ _ _ (hkernel s r hs) (he ▸ hkernel s' r' hs')
    cases ho
    rfl
  · have ho := howns.unique _ _ _ (hneighbor ip h hip) (he ▸ hneighbor ip' h' hip')
    cases ho
    rfl
  · have ho := howns.unique _ _ _ (hkernel s r hs) (he ▸ hneighbor ip h hip)
    cases ho

/-! ### Runs on simple devices -/

/-- A follower on a device that refuses nothing, after some events. -/
def following (events : List Event) : Follower (Watched Willing) :=
  watchedRun ⟨portCount, Board.defaultStem, Board.defaultMacBase⟩ ⟨⟩ events

/-- A follower on a device that takes a number of writes, after some events. -/
def tiring (left : Nat) (events : List Event) : Follower Tiring :=
  (fresh (.fresh ⟨portCount, Board.defaultStem, Board.defaultMacBase⟩ ⟨left⟩)).run events

/-- A port comes up and is given an address, and a neighbour appears on it. -/
def arrival : List Event :=
  [.link 5 "swp12" true, .address 5 .added,
    .neighbor ⟨0x0a000001⟩ 5 (some ⟨0x52, 0x54, 0, 0, 0, 1⟩) .added]

/-- A subnet behind the neighbour. -/
def remoteNet : Subnet := ⟨⟨0x0a010000⟩, 16, by decide⟩

/-- Nothing has been refused, and an interface, an egress object and a slot are left. -/
def Spare (m : Follower (Watched Willing)) : Prop :=
  m.switch.bus.refused = false ∧ m.view.interface? 100 = none ∧ m.view.egress? 100 = none ∧
    ∀ p ∈ m.switch.routing.routes.toList, p.2.slot ≠ 100

instance (m : Follower (Watched Willing)) : Decidable m.Spare :=
  inferInstanceAs (Decidable (_ ∧ _ ∧ _ ∧ _))

namespace Spare

variable {m : Follower (Watched Willing)}

theorem not_refused (h : m.Spare) : m.switch.bus.refused = false := h.1

theorem not_interfacesFull (h : m.Spare) : ¬ m.view.InterfacesFull :=
  Follower.not_interfacesFull (by decide) h.2.1

theorem not_egressesFull (h : m.Spare) : ¬ m.view.EgressesFull :=
  Follower.not_egressesFull (by decide) h.2.2.1

theorem not_slotsFull (h : m.Spare) : ¬ m.view.SlotsFull :=
  Follower.not_slotsFull (by decide) h.2.2.2

end Spare

end ControlPlane.Follower
