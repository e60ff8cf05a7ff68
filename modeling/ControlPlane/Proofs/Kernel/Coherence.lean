import ControlPlane.Proofs.Kernel.Events

/-! # Books and tables

The books are kept beside the tables, by the same events, and each event may stop half way.  As long as the
kernel names subnets by their canonical form, they agree after every event, on any device (`books_coherent`):

* a subnet is not both installed and pending, and no host route stands beside an installed one;
* what is installed is in the tables and leads where the books say, and nothing else is in the tables but
  host routes that are in the books;
* the ports that have an interface each have one of their own, with the port's address, and there are no
  other interfaces.

Canonical forms are needed since the tables do not know the host bits of a subnet: two subnets that differ
in these alone share one route there, and the books keep them apart. -/

namespace ControlPlane

/-- What an event says of a route, it says of a canonical subnet. -/
def Event.Canonical : Event → Prop
  | .route subnet _ _ _ => subnet.canon = subnet
  | _ => True

instance (event : Event) : Decidable event.Canonical := by
  unfold Event.Canonical
  split <;> infer_instance

namespace Follower

open Routing (View)

variable {δ : Type} {refused : δ → Prop} {event : Event} {m m' : Follower δ} {s : Subnet}

/-! ### Subnets in the books -/

theorem tracks_congr (hi : m'.installed = m.installed) (hp : m'.pending = m.pending) :
    m'.Tracks s ↔ m.Tracks s := by
  rw [Tracks, Tracks, hi, hp]

/-- A route that is withdrawn brings no subnet into the books. -/
theorem tracks_of_erase {subnet : Subnet} (h : m'.Tracks s)
    (hi : m'.installed = m.installed.erase subnet) (hp : m'.pending = m.pending) : m.Tracks s := by
  rw [Tracks, hi, hp, KeyMap.get?_erase] at h
  rcases h with h | h
  · split at h
    · exact absurd rfl h
    · exact .inl h
  · exact .inr h

/-- Only the kernel's word that there is a route brings its subnet into the books. -/
theorem Step.tracks (hc : Step refused event m m') (h : m'.Tracks s) :
    m.Tracks s ∨ ∃ gateway via, event = .route s .added gateway via := by
  cases hc with
  | tried hr => exact .inl ((tracks_congr hr.installed hr.pending).mp h)
  | elsewhere rest ports =>
      exact .inl ((tracks_congr (congrArg (·.installed) rest) (congrArg (·.pending) rest)).mp h)
  | interfaceAdded hport hid hr => exact .inl ((tracks_congr hr.installed hr.pending).mp h)
  | interfaceRemoved hport hr => exact .inl ((tracks_congr hr.installed hr.pending).mp h)
  | hosted hwants hn hrp hf hr => exact .inl ((tracks_congr hr.installed hr.pending).mp h)
  | unhosted hip hr => exact .inl ((tracks_congr hr.installed hr.pending).mp h)
  | @installed subnet hop mac rp id slot _ hn hrp hf hr hknown =>
      rw [Tracks, hr.installed, hr.pending, installing_installed, installing_pending,
        KeyMap.get?_insert, KeyMap.get?_erase] at h
      split at h
      · rename_i he
        exact he ▸ hknown
      · exact .inl h
  | withdrawn hs hr => exact .inl (tracks_of_erase h hr.installed hr.pending)
  | removed he hr => exact .inl (tracks_of_erase h hr.installed hr.pending)
  | @pended subnet hop hs he =>
      rw [Tracks, KeyMap.get?_insert] at h
      split at h
      · rename_i hsame
        exact .inr (hsame ▸ he)
      · exact .inl h
  | @unpended subnet =>
      rw [Tracks, KeyMap.get?_erase] at h
      split at h
      · exact .inl (h.imp_right fun hnone => absurd rfl hnone)
      · exact .inl h
  | learned he => exact .inl h
  | forgotten he => exact .inl h

/-- The books name subnets by their canonical form. -/
def CanonicalBooks (m : Follower δ) : Prop := ∀ s, m.Tracks s → s.canon = s

theorem Step.canonicalBooks (hc : Step refused event m m') (he : event.Canonical)
    (h : m.CanonicalBooks) : m'.CanonicalBooks := by
  intro s hs
  rcases hc.tracks hs with hold | ⟨gateway, via, rfl⟩
  · exact h s hold
  · exact he

/-! ### Installed routes -/

/-- The route that the books have as installed for a subnet, if any, is in the tables. -/
def InTables (m : Follower δ) (s : Subnet) : Prop :=
  ∀ r, m.installed.get? s = some r →
    ∃ route, m.switch.routing.routes.get? s = some route ∧ route.target = .egress r.egress

theorem InTables.congr (h : m.InTables s) (hi : m'.installed.get? s = m.installed.get? s)
    (hr : m'.view.route? s = m.view.route? s) : m'.InTables s := by
  intro r hs
  obtain ⟨route, hroute, htarget⟩ := h r (hi ▸ hs)
  exact ⟨route, hr.trans hroute, htarget⟩

theorem inTables_of_none (h : m.installed.get? s = none) : m.InTables s := by
  intro r hs
  rw [h] at hs
  cases hs

/-- A route that goes leaves those of other canonical subnets. -/
theorem Rerouted.inTables_uninstalled {subnet : Subnet} {o : Option EgressId}
    (hr : Rerouted refused { m with installed := m.installed.erase subnet }
      ((m.view.setRoute subnet.canon none).drop? o) m')
    (hsubnet : subnet.canon = subnet) (h : m.InTables s) : m'.InTables s := by
  by_cases hs : subnet = s
  · subst hs
    exact inTables_of_none (by rw [hr.installed, KeyMap.get?_erase_self])
  · refine h.congr ?_ ?_
    · rw [hr.installed, KeyMap.get?_erase_of_ne _ hs]
    · rw [hr.view_eq, View.drop?_route?, hsubnet]
      exact View.setRoute_of_ne _ (Ne.symm hs)

/-- What is installed stays in the tables where subnets are named by their canonical form. -/
theorem Step.inTables (hc : Step refused event m m') (ha : m.Apart) (hcanon : m.CanonicalBooks)
    (he : event.Canonical) (h : ∀ s, m.InTables s) : ∀ s, m'.InTables s := by
  intro s
  cases hc with
  | tried hr => exact (h s).congr (by rw [hr.installed]) (by rw [hr.view_eq])
  | elsewhere rest ports =>
      rw [rest]
      exact h s
  | interfaceAdded hport hid hr => exact (h s).congr (by rw [hr.installed]) (by rw [hr.view_eq]; rfl)
  | interfaceRemoved hport hr => exact (h s).congr (by rw [hr.installed]) (by rw [hr.view_eq]; rfl)
  | @hosted n mac rp id slot _ hwants hn hrp hf hr =>
      by_cases hs : s = .host n.ip
      · -- a host route is wanted only where no route is installed for the address
        refine inTables_of_none ?_
        rw [hr.installed, hs]
        exact (wantsHost_iff.mp hwants).1
      · refine (h s).congr (by rw [hr.installed, hosting]) ?_
        rw [hr.view_eq, viewHosting, View.drop?_route?, View.provide_route?, if_neg hs]
  | @unhosted ip _ hip hr =>
      by_cases hs : s = .host ip
      · refine inTables_of_none ?_
        rw [hr.installed, hs]
        exact ha.hosts ip hip
      · refine (h s).congr (by rw [hr.installed]) ?_
        rw [hr.view_eq, View.drop?_route?]
        exact View.setRoute_of_ne _ hs
  | @installed subnet hop mac rp id slot _ hn hrp hf hr hknown =>
      have hsubnet : subnet.canon = subnet := by
        rcases hknown with hold | ⟨gateway, via, rfl⟩
        · exact hcanon subnet hold
        · exact he
      have hroute : m'.view.route? s =
          if s = subnet then some ⟨slot, .egress id⟩ else m.view.route? s := by
        rw [hr.view_eq, viewInstalling, View.drop?_route?, View.drop?_route?, View.provide_route?,
          hsubnet]
      by_cases hs : s = subnet
      · subst hs
        intro r hins
        rw [hr.installed, installing_installed, KeyMap.get?_insert_self] at hins
        cases hins
        exact ⟨_, hroute.trans (if_pos rfl), rfl⟩
      · refine (h s).congr ?_ (hroute.trans (if_neg hs))
        rw [hr.installed, installing_installed, KeyMap.get?_insert_of_ne _ _ (Ne.symm hs)]
  | @withdrawn subnet _ hs hr => exact hr.inTables_uninstalled (hcanon subnet (.inl hs)) (h s)
  | @removed subnet gateway via _ hevent hr =>
      subst hevent
      exact hr.inTables_uninstalled he (h s)
  | pended hs => exact h s
  | unpended => exact h s
  | learned he => exact h s
  | forgotten he => exact h s

/-! ### Interfaces -/

/-- The interface of each port has the port's address and no VLAN, and every interface is some port's. -/
structure Faced (m : Follower δ) : Prop where
  address : ∀ p id, m.interfaces.get? p = some id →
    m.view.interface? id = some ⟨m.switch.board.macOf p, 0⟩
  of_port : ∀ id, m.view.interface? id ≠ none → ∃ p, m.interfaces.get? p = some id

theorem Faced.congr (h : m.Faced) (hi : m'.interfaces = m.interfaces)
    (hb : m'.switch.board = m.switch.board) (hv : m'.view.interface? = m.view.interface?) :
    m'.Faced where
  address p id hp := by
    rw [hv, hb]
    exact h.address p id (hi ▸ hp)
  of_port id hid := by
    rw [hi]
    exact h.of_port id (hv ▸ hid)

theorem Step.faced (hc : Step refused event m m') (hw : m.Wired) (h : m.Faced) : m'.Faced := by
  cases hc with
  | tried hr => exact h.congr hr.interfaces hr.board (by rw [hr.view_eq])
  | elsewhere rest ports =>
      rw [rest]
      exact ⟨h.address, h.of_port⟩
  | @interfaceAdded port id face _ hport hid hr hface =>
      have hface? (a : InterfaceId) :
          m'.view.interface? a = if a = id then some face else m.view.interface? a := by
        rw [hr.view_eq, View.setInterface_interface?]
      refine ⟨fun p a hp => ?_, fun a ha => ?_⟩
      · rw [hface?, hr.board]
        rw [hr.interfaces] at hp
        obtain ⟨rfl, rfl⟩ | hold := KeyMap.eq_or_get?_of_insert hp
        · rw [if_pos rfl, hface]
        · have hne : a ≠ id := by
            rintro rfl
            exact hw.interface_live p a hold hid
          rw [if_neg hne]
          exact h.address p a hold
      · rw [hface?] at ha
        rw [hr.interfaces]
        by_cases hsame : a = id
        · exact ⟨port, hsame ▸ KeyMap.get?_insert_self _ _ _⟩
        · rw [if_neg hsame] at ha
          obtain ⟨p, hp⟩ := h.of_port a ha
          have hne : port ≠ p := by
            rintro rfl
            rw [hport] at hp
            cases hp
          exact ⟨p, by rw [KeyMap.get?_insert_of_ne _ _ hne, hp]⟩
  | @interfaceRemoved port id _ hport hr =>
      have hface? (a : InterfaceId) :
          m'.view.interface? a = if a = id then none else m.view.interface? a := by
        rw [hr.view_eq, View.setInterface_interface?]
      refine ⟨fun p a hp => ?_, fun a ha => ?_⟩
      · rw [hface?, hr.board]
        rw [hr.interfaces] at hp
        obtain ⟨hother, hold⟩ := KeyMap.get?_erase_eq_some_iff.mp hp
        have hne : a ≠ id := by
          rintro rfl
          exact hother (hw.interface_unique port p a hport hold)
        rw [if_neg hne]
        exact h.address p a hold
      · rw [hface?] at ha
        rw [hr.interfaces]
        by_cases hsame : a = id
        · exact absurd (if_pos hsame) ha
        · rw [if_neg hsame] at ha
          obtain ⟨p, hp⟩ := h.of_port a ha
          have hother : port ≠ p := by
            rintro rfl
            rw [hport] at hp
            exact hsame (Option.some.inj hp).symm
          exact ⟨p, KeyMap.get?_erase_eq_some_iff.mpr ⟨hother, hp⟩⟩
  | hosted hwants hn hrp hf hr =>
      exact h.congr hr.interfaces hr.board (by rw [hr.view_eq, viewHosting]; simp)
  | unhosted hip hr => exact h.congr hr.interfaces hr.board (by rw [hr.view_eq]; simp)
  | installed hn hrp hf hr =>
      refine h.congr ?_ ?_ (by rw [hr.view_eq, viewInstalling]; simp)
      · rw [hr.interfaces, installing_interfaces]
      · rw [hr.board, installing_switch]
  | withdrawn hs hr => exact h.congr hr.interfaces hr.board (by rw [hr.view_eq]; simp)
  | removed he hr => exact h.congr hr.interfaces hr.board (by rw [hr.view_eq]; simp)
  | pended hs => exact h.congr rfl rfl rfl
  | unpended => exact h.congr rfl rfl rfl
  | learned he => exact h.congr rfl rfl rfl
  | forgotten he => exact h.congr rfl rfl rfl

theorem Step.board_eq (hc : Step refused event m m') : m'.switch.board = m.switch.board := by
  cases hc with
  | tried hr => exact hr.board
  | elsewhere rest ports => exact congrArg (·.switch.board) rest
  | interfaceAdded hport hid hr => exact hr.board
  | interfaceRemoved hport hr => exact hr.board
  | hosted hwants hn hrp hf hr => exact hr.board
  | unhosted hip hr => exact hr.board
  | installed hn hrp hf hr => rw [hr.board, installing_switch]
  | withdrawn hs hr => exact hr.board
  | removed he hr => exact hr.board
  | pended hs => rfl
  | unpended => rfl
  | learned he => rfl
  | forgotten he => rfl

/-! ### All of it -/

/-- What every step keeps beside `Sound`, in the course of an event on a canonical subnet. -/
structure Accurate (board : Board) (m : Follower δ) : Prop where
  board_eq : m.switch.board = board
  canonical : m.CanonicalBooks
  inTables : ∀ s, m.InTables s
  faced : m.Faced

theorem accurate_fresh (board : Board) (bus : δ) : (fresh (.fresh board bus)).Accurate board where
  board_eq := rfl
  canonical s hs := by simp [Tracks, fresh] at hs
  inTables s := inTables_of_none (by simp [fresh])
  faced := by constructor <;> simp [fresh, view, Switch.fresh, Routing.view, Routing.fresh]

theorem Steps.accurate {board : Board} (hc : Steps refused event m m') (he : event.Canonical)
    (hs : m.Sound) (h : m.Accurate board) : m'.Accurate board := by
  induction hc with
  | refl => exact h
  | tail hprev hstep ih =>
      have hsound := Steps.sound hprev hs
      exact {
        board_eq := hstep.board_eq.trans ih.board_eq
        canonical := hstep.canonicalBooks he ih.canonical
        inTables := hstep.inTables hsound.toApart ih.canonical he ih.inTables
        faced := hstep.faced hsound.toWired ih.faced }

/-- The books agree with each other and with the tables. -/
structure Coherent (board : Board) (m : Follower δ) : Prop where
  /-- No subnet is both installed and pending. -/
  not_both : ∀ s, m.installed.get? s ≠ none → m.pending.get? s = none
  /-- Where an address has a host route, the kernel has none for it that is installed. -/
  not_beside : ∀ ip, m.hosts.get? ip ≠ none → m.installed.get? (.host ip) = none
  /-- What is installed is in the tables, with the egress object that the books name. -/
  programmed : ∀ s r, m.installed.get? s = some r →
    ∃ route, m.switch.routing.routes.get? s = some route ∧ route.target = .egress r.egress
  /-- Each route in the tables is an installed one or a host route. -/
  accounted : ∀ s route, m.switch.routing.routes.get? s = some route →
    m.installed.get? s ≠ none ∨ ∃ ip, s = .host ip ∧ m.hosts.get? ip ≠ none
  /-- No two ports share an interface. -/
  one_port : ∀ p p' id, m.interfaces.get? p = some id → m.interfaces.get? p' = some id → p = p'
  /-- The interface of a port is there, with the port's address and no VLAN. -/
  address : ∀ p id, m.interfaces.get? p = some id →
    m.switch.routing.interface id = .ok ⟨board.macOf p, 0⟩
  /-- Each interface that there is belongs to a port. -/
  of_port : ∀ id, m.switch.routing.interfaces.contains id = true →
    ∃ p, m.interfaces.get? p = some id

theorem Sound.coherent {board : Board} (hs : m.Sound) (h : m.Accurate board) : m.Coherent board where
  not_both s hi := by
    by_contra hp
    exact hi (hs.pending s hp)
  not_beside := hs.hosts
  programmed := h.inTables
  accounted s route hroute := by
    obtain ⟨o, id, ho, rfl, -⟩ := hs.owns.routed s route hroute
    cases o with
    | kernel subnet =>
        obtain ⟨r, hr, -⟩ := Option.map_eq_some_iff.mp ho
        have hin : m.installed.get? subnet ≠ none := by simp [hr]
        refine .inl ?_
        rwa [Owner.key, h.canonical subnet (.inl hin)]
    | neighbor ip =>
        obtain ⟨host, hhost, -⟩ := Option.map_eq_some_iff.mp ho
        exact .inr ⟨ip, rfl, by simp [hhost]⟩
  one_port := hs.interface_unique
  address p id hp := by
    obtain ⟨c, hc, hvalue⟩ := Option.map_eq_some_iff.mp (h.faced.address p id hp)
    rw [Routing.interface, hc, ← h.board_eq, ← hvalue]
  of_port id hid := by
    refine h.faced.of_port id fun hnone => ?_
    rw [Routing.contains_interfaces_eq_false_iff.mpr hnone] at hid
    cases hid

variable [Bus δ]

theorem run_accurate (board : Board) (bus : δ) {events : List Event}
    (hcanon : ∀ event ∈ events, event.Canonical) :
    ((fresh (.fresh board bus)).run events).Sound ∧
      ((fresh (.fresh board bus)).run events).Accurate board := by
  refine run_keeps (P := fun m => m.Sound ∧ m.Accurate board) ?_
    ⟨sound_fresh board bus, accurate_fresh board bus⟩
  rintro event he m ⟨hs, h⟩
  exact ⟨handle_sound hs event, (handle_steps Bus.tells_true hs event).accurate (hcanon event he) hs h⟩

/-- After every run on a fresh switch whose kernel names subnets by their canonical form, whatever the
device answers, the books agree with each other and with the tables. -/
theorem books_coherent (board : Board) (bus : δ) (events : List Event)
    (hcanon : ∀ event ∈ events, event.Canonical) :
    ((fresh (.fresh board bus)).run events).Coherent board :=
  have hrun := run_accurate board bus hcanon
  hrun.1.coherent hrun.2

/-- The kernel's own route for the neighbour's address takes the place of the host route, while another
route waits for its gateway. -/
def mingled : List Event :=
  arrival ++ [.neighbor ⟨0x0a000002⟩ 5 (some ⟨0x52, 0x54, 0, 0, 0, 2⟩) .added,
    .route (.host ⟨0x0a000001⟩) .added (some ⟨0x0a000002⟩) (some 5),
    .route remoteNet .added (some ⟨0x0a000009⟩) (some 5)]

/-- A route of each kind, and one that is pending. -/
theorem books_coherent_mingled :
    (∀ event ∈ mingled, event.Canonical) ∧
      (following mingled).installed.contains (.host ⟨0x0a000001⟩) = true ∧
      (following mingled).pending.contains remoteNet = true ∧
      (following mingled).hosts.contains ⟨0x0a000002⟩ = true ∧
      (following mingled).Coherent ⟨portCount, Board.defaultStem, Board.defaultMacBase⟩ := by
  have hcanon : ∀ event ∈ mingled, event.Canonical := by decide
  refine ⟨hcanon, by decide +kernel, by decide +kernel, by decide +kernel, ?_⟩
  unfold following watchedRun
  exact books_coherent _ _ mingled hcanon

end Follower

end ControlPlane
