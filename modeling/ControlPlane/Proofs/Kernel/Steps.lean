import ControlPlane.Proofs.Kernel.Books
import Mathlib.Logic.Relation

/-! # The steps that an event is made of

Applying an event is a chain of steps, each of one kind and taken under one condition.  `Step` lists
them, with the event in whose course they are taken: only the news of a neighbour teaches its address
and only the news that it has gone makes it forgotten, only the kernel's word brings a subnet into the
books, and only the removal of a kernel's route removes a route without asking whose it is.
`Proofs.Kernel.Events` shows that every event is such a chain, so what every step keeps, every run keeps.

Kept by every step, and proved here, are

* `Owned`, by what the operations do to owners;
* `Wired`, the ports being the board's and their interfaces being there;
* `Apart`, the kernel's routes being either installed or pending, and no host route standing beside an
  installed one for its address.

`Sound` is all of them. -/

namespace ControlPlane.Follower

open Routing (View)

variable {δ : Type} {refused : δ → Prop} {event : Event} {m m' : Follower δ}

/-- The books have a route of the kernel for a subnet, installed or pending. -/
def Tracks (m : Follower δ) (s : Subnet) : Prop :=
  m.installed.get? s ≠ none ∨ m.pending.get? s ≠ none

/-- A step taken in the course of an event. -/
inductive Step (refused : δ → Prop) (event : Event) (m : Follower δ) : Follower δ → Prop where
  /-- Something was tried and has changed nothing. -/
  | tried {m' : Follower δ} (h : Rerouted refused m m.view m') : Step refused event m m'
  /-- The names of ports, or parts of the switch that do not route. -/
  | elsewhere {m' : Follower δ}
      (rest : m' = { m with
        ports := m'.ports
        switch := { m'.switch with board := m.switch.board, routing := m.switch.routing } })
      (ports : ∀ i p, m'.ports.get? i = some p → m.ports.get? i = some p ∨ m.switch.board.Has p) :
      Step refused event m m'
  | interfaceAdded {port id i} {m' : Follower δ} (hport : m.interfaces.get? port = none)
      (hid : m.view.interface? id = none)
      (h : Rerouted refused { m with interfaces := m.interfaces.insert port id }
        (m.view.setInterface id (some i)) m')
      (hface : i = ⟨m.switch.board.macOf port, 0⟩) : Step refused event m m'
  | interfaceRemoved {port id} {m' : Follower δ} (hport : m.interfaces.get? port = some id)
      (h : Rerouted refused { m with interfaces := m.interfaces.erase port }
        (m.view.setInterface id none) m') : Step refused event m m'
  /-- A neighbour's host route is installed. -/
  | hosted {n mac rp id slot} {m' : Follower δ} (hwants : m.wantsHost n mac = true)
      (hn : m.neighbors.get? n = some mac) (hrp : m.routedPort? n.ifindex = some rp)
      (hf : m.view.Fresh (.host n.ip) id slot)
      (h : Rerouted refused (m.hosting n mac id)
        (m.viewHosting n.ip ⟨mac, rp.port, rp.interface⟩ id slot) m') : Step refused event m m'
  | unhosted {ip} {m' : Follower δ} (hip : m.hosts.get? ip ≠ none)
      (h : Rerouted refused { m with hosts := m.hosts.erase ip }
        ((m.view.setRoute (.host ip) none).drop? (m.record (.neighbor ip))) m') :
      Step refused event m m'
  /-- A route of the kernel is installed, with the address that its gateway has. -/
  | installed {subnet hop mac rp id slot} {m' : Follower δ}
      (hn : m.neighbors.get? ⟨hop.gateway, hop.via⟩ = some mac)
      (hrp : m.routedPort? hop.via = some rp) (hf : m.view.Fresh subnet.canon id slot)
      (h : Rerouted refused (m.installing subnet ⟨hop, id⟩)
        (m.viewInstalling subnet ⟨mac, rp.port, rp.interface⟩ id slot) m')
      (hknown : m.Tracks subnet ∨ ∃ gateway via, event = .route subnet .added gateway via) :
      Step refused event m m'
  /-- A route that is installed is withdrawn. -/
  | withdrawn {subnet} {m' : Follower δ} (hs : m.installed.get? subnet ≠ none)
      (h : Rerouted refused { m with installed := m.installed.erase subnet }
        ((m.view.setRoute subnet.canon none).drop? (m.record (.kernel subnet))) m') :
      Step refused event m m'
  /-- The kernel's word that a route is gone removes whatever route the subnet has. -/
  | removed {subnet gateway via} {m' : Follower δ} (he : event = .route subnet .removed gateway via)
      (h : Rerouted refused { m with installed := m.installed.erase subnet }
        ((m.view.setRoute subnet.canon none).drop? (m.record (.kernel subnet))) m') :
      Step refused event m m'
  | pended {subnet hop} (hs : m.installed.get? subnet = none)
      (he : ∃ gateway via, event = .route subnet .added gateway via) :
      Step refused event m { m with pending := m.pending.insert subnet hop }
  | unpended {subnet} : Step refused event m { m with pending := m.pending.erase subnet }
  /-- A neighbour's address is learnt. -/
  | learned {n mac} (he : event = .neighbor n.ip n.ifindex (some mac) .added) :
      Step refused event m { m with neighbors := m.neighbors.insert n mac }
  /-- A neighbour goes. -/
  | forgotten {n mac?} (he : event = .neighbor n.ip n.ifindex mac? .removed) :
      Step refused event m { m with neighbors := m.neighbors.erase n }

/-- Some steps in the course of an event, one after the other. -/
abbrev Steps (refused : δ → Prop) (event : Event) : Follower δ → Follower δ → Prop :=
  Relation.ReflTransGen (Step refused event)

/-! ### Books and tables agree -/

theorem Step.owned (hc : Step refused event m m') (h : m.Owned) : m'.Owned := by
  cases hc with
  | tried hr => exact hr.owned h.owns
  | elsewhere rest ports =>
      rw [rest]
      exact ⟨h.plain, h.owns⟩
  | interfaceAdded hport hid hr => exact hr.owned ⟨h.owns.live_iff, h.owns.unique, h.owns.routed⟩
  | interfaceRemoved hport hr => exact hr.owned ⟨h.owns.live_iff, h.owns.unique, h.owns.routed⟩
  | hosted hwants hn hrp hf hr => exact hr.owned (h.hosting hf)
  | unhosted hip hr =>
      refine hr.owned ?_
      rw [record_unhosted]
      exact h.owns.forget (.neighbor _)
  | installed hn hrp hf hr => exact hr.owned (h.installing hf)
  | withdrawn hs hr =>
      refine hr.owned ?_
      rw [record_uninstalled]
      exact h.owns.forget (.kernel _)
  | removed he hr =>
      refine hr.owned ?_
      rw [record_uninstalled]
      exact h.owns.forget (.kernel _)
  | pended hs => exact ⟨h.plain, h.owns⟩
  | unpended => exact ⟨h.plain, h.owns⟩
  | learned he => exact ⟨h.plain, h.owns⟩
  | forgotten he => exact ⟨h.plain, h.owns⟩

theorem Steps.owned (hc : Steps refused event m m') (h : m.Owned) : m'.Owned := by
  induction hc with
  | refl => exact h
  | tail _ hc ih => exact hc.owned ih

/-! ### Ports and interfaces -/

/-- Names are of ports of the board, and each port's interface is there and is no other port's. -/
structure Wired (m : Follower δ) : Prop where
  on_board : ∀ i p, m.ports.get? i = some p → m.switch.board.Has p
  interface_live : ∀ p id, m.interfaces.get? p = some id → m.view.interface? id ≠ none
  interface_unique : ∀ p p' id, m.interfaces.get? p = some id → m.interfaces.get? p' = some id → p = p'

theorem wired_fresh (board : Board) (bus : δ) : (fresh (.fresh board bus)).Wired := by
  constructor <;> simp [fresh]

/-- What leaves ports and interfaces alone leaves them wired. -/
theorem Wired.congr (h : m.Wired) (hp : m'.ports = m.ports) (hi : m'.interfaces = m.interfaces)
    (hb : m'.switch.board = m.switch.board) (hv : m'.view.interface? = m.view.interface?) :
    m'.Wired where
  on_board i p hm := by
    rw [hb]
    exact h.on_board i p (hp ▸ hm)
  interface_live p id hm := by
    rw [hv]
    exact h.interface_live p id (hi ▸ hm)
  interface_unique p p' id hm hm' := h.interface_unique p p' id (hi ▸ hm) (hi ▸ hm')

theorem Wired.ready (h : m.Wired) {i : IfIndex} {rp : RoutedPort} (hrp : m.routedPort? i = some rp) :
    m.Ready rp := by
  obtain ⟨hport, hid⟩ := routedPort?_eq_some_iff.mp hrp
  exact ⟨h.on_board i _ hport, h.interface_live _ _ hid⟩

theorem Step.wired (hc : Step refused event m m') (h : m.Wired) : m'.Wired := by
  cases hc with
  | tried hr => exact h.congr hr.ports hr.interfaces hr.board (by rw [hr.view_eq])
  | elsewhere rest ports =>
      rw [rest]
      refine ⟨fun i p hm => ?_, h.interface_live, h.interface_unique⟩
      rcases ports i p hm with hm | hb
      · exact h.on_board i p hm
      · exact hb
  | @interfaceAdded port id i _ hport hid hr =>
      refine ⟨?_, fun p a hp => ?_, fun p p' a hp hp' => ?_⟩
      · rw [hr.ports, hr.board]
        exact h.on_board
      · rw [hr.interfaces, KeyMap.get?_insert] at hp
        rw [hr.view_eq, View.setInterface_interface?]
        split
        · exact Option.some_ne_none i
        · rename_i hne
          split at hp
          · cases hp
            exact absurd rfl hne
          · exact h.interface_live p a hp
      · rw [hr.interfaces] at hp hp'
        refine KeyMap.apart_insert (P := fun id n => id = n) ?_ ?_ p p' a a a hp hp' rfl rfl
        · rintro _ q _ rfl hq rfl
          exact absurd hid (h.interface_live q _ hq)
        · rintro q q' _ _ _ hq hq' rfl rfl
          exact h.interface_unique q q' _ hq hq'
  | @interfaceRemoved port id _ hport hr =>
      have hold (p : PortId) (a : InterfaceId) (hp : m'.interfaces.get? p = some a) :
          port ≠ p ∧ m.interfaces.get? p = some a := by
        rw [hr.interfaces] at hp
        exact KeyMap.get?_erase_eq_some_iff.mp hp
      refine ⟨?_, fun p a hp => ?_, fun p p' a hp hp' => ?_⟩
      · rw [hr.ports, hr.board]
        exact h.on_board
      · obtain ⟨hne, hp⟩ := hold p a hp
        have ha : a ≠ id := by
          rintro rfl
          exact hne (h.interface_unique port p a hport hp)
        rw [hr.view_eq, View.setInterface_interface?, if_neg ha]
        exact h.interface_live p a hp
      · exact h.interface_unique p p' a (hold p a hp).2 (hold p' a hp').2
  | hosted hwants hn hrp hf hr =>
      exact h.congr hr.ports hr.interfaces hr.board (by rw [hr.view_eq, viewHosting]; simp)
  | unhosted hip hr => exact h.congr hr.ports hr.interfaces hr.board (by rw [hr.view_eq]; simp)
  | installed hn hrp hf hr =>
      refine h.congr ?_ ?_ ?_ (by rw [hr.view_eq, viewInstalling]; simp)
      · rw [hr.ports, installing_ports]
      · rw [hr.interfaces, installing_interfaces]
      · rw [hr.board, installing_switch]
  | withdrawn hs hr => exact h.congr hr.ports hr.interfaces hr.board (by rw [hr.view_eq]; simp)
  | removed he hr => exact h.congr hr.ports hr.interfaces hr.board (by rw [hr.view_eq]; simp)
  | pended hs => exact h.congr rfl rfl rfl rfl
  | unpended => exact h.congr rfl rfl rfl rfl
  | learned he => exact h.congr rfl rfl rfl rfl
  | forgotten he => exact h.congr rfl rfl rfl rfl

theorem Steps.wired (hc : Steps refused event m m') (h : m.Wired) : m'.Wired := by
  induction hc with
  | refl => exact h
  | tail _ hc ih => exact hc.wired ih

/-! ### Routes of the kernel and host routes -/

/-- A route of the kernel is not pending beside an installed one, and no host route stands beside an
installed one for its address. -/
structure Apart (m : Follower δ) : Prop where
  pending : ∀ s, m.pending.get? s ≠ none → m.installed.get? s = none
  hosts : ∀ ip, m.hosts.get? ip ≠ none → m.installed.get? (.host ip) = none

theorem apart_fresh (board : Board) (bus : δ) : (fresh (.fresh board bus)).Apart := by
  constructor <;> simp [fresh]

theorem Apart.congr (h : m.Apart) (hp : m'.pending = m.pending) (hi : m'.installed = m.installed)
    (hh : m'.hosts = m.hosts) : m'.Apart where
  pending s hs := by
    rw [hi]
    exact h.pending s (hp ▸ hs)
  hosts ip hip := by
    rw [hi]
    exact h.hosts ip (hh ▸ hip)

/-- Fewer routes of any kind are still apart. -/
theorem Apart.erase (h : m.Apart) (subnet : Subnet) (hp : m'.pending = m.pending)
    (hi : m'.installed = m.installed.erase subnet) (hh : m'.hosts = m.hosts) : m'.Apart where
  pending s hs := by
    rw [hi, KeyMap.get?_erase, h.pending s (hp ▸ hs), ite_self]
  hosts ip hip := by
    rw [hi, KeyMap.get?_erase, h.hosts ip (hh ▸ hip), ite_self]

theorem Step.apart (hc : Step refused event m m') (h : m.Apart) : m'.Apart := by
  cases hc with
  | tried hr => exact h.congr hr.pending hr.installed hr.hosts
  | elsewhere rest ports =>
      rw [rest]
      exact ⟨h.pending, h.hosts⟩
  | interfaceAdded hport hid hr => exact h.congr hr.pending hr.installed hr.hosts
  | interfaceRemoved hport hr => exact h.congr hr.pending hr.installed hr.hosts
  | @hosted n mac rp id slot _ hwants hn hrp hf hr =>
      refine ⟨?_, fun ip hip => ?_⟩
      · rw [hr.pending, hr.installed]
        exact h.pending
      · have hnot : m.installed.get? (.host n.ip) = none := (wantsHost_iff.mp hwants).1
        rw [hr.hosts, hosting, KeyMap.get?_insert] at hip
        rw [hr.installed]
        by_cases hn : n.ip = ip
        · rw [← hn]
          exact hnot
        · rw [if_neg hn] at hip
          exact h.hosts ip hip
  | @unhosted ip _ hip hr =>
      refine ⟨?_, fun a ha => ?_⟩
      · rw [hr.pending, hr.installed]
        exact h.pending
      · rw [hr.hosts, KeyMap.get?_erase] at ha
        rw [hr.installed]
        split at ha
        · exact absurd rfl ha
        · exact h.hosts a ha
  | @installed subnet hop mac rp id slot _ hn hrp hf hr =>
      refine ⟨fun s hs => ?_, fun ip hip => ?_⟩
      · rw [hr.pending, installing_pending, KeyMap.get?_erase] at hs
        rw [hr.installed, installing_installed]
        split at hs
        · exact absurd rfl hs
        · rw [KeyMap.get?_insert_of_ne _ _ ‹_›]
          exact h.pending s hs
      · rw [hr.hosts, installing_hosts] at hip
        rw [hr.installed, installing_installed]
        split at hip
        · exact absurd rfl hip
        · rw [KeyMap.get?_insert_of_ne _ _ ‹_›]
          exact h.hosts ip hip
  | @withdrawn subnet _ hs hr => exact h.erase subnet hr.pending hr.installed hr.hosts
  | @removed subnet _ _ _ he hr => exact h.erase subnet hr.pending hr.installed hr.hosts
  | @pended subnet hop hs =>
      refine ⟨fun s hp => ?_, h.hosts⟩
      simp only [KeyMap.get?_insert] at hp
      split at hp
      · rename_i he
        rw [← he]
        exact hs
      · exact h.pending s hp
  | @unpended subnet =>
      refine ⟨fun s hp => ?_, h.hosts⟩
      simp only [KeyMap.get?_erase] at hp
      split at hp
      · exact absurd rfl hp
      · exact h.pending s hp
  | learned he => exact ⟨h.pending, h.hosts⟩
  | forgotten he => exact ⟨h.pending, h.hosts⟩

theorem Steps.apart (hc : Steps refused event m m') (h : m.Apart) : m'.Apart := by
  induction hc with
  | refl => exact h
  | tail _ hc ih => exact hc.apart ih

/-! ### All of it -/

/-- All that every step keeps. -/
structure Sound (m : Follower δ) : Prop extends Owned m, Wired m, Apart m

theorem sound_fresh (board : Board) (bus : δ) : (fresh (.fresh board bus)).Sound where
  toOwned := owned_fresh board bus
  toWired := wired_fresh board bus
  toApart := apart_fresh board bus

theorem Steps.sound (hc : Steps refused event m m') (h : m.Sound) : m'.Sound where
  toOwned := hc.owned h.toOwned
  toWired := hc.wired h.toWired
  toApart := hc.apart h.toApart

end ControlPlane.Follower
