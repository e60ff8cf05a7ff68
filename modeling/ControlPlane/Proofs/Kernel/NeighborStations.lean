import ControlPlane.Proofs.Kernel.Settling
import ControlPlane.Proofs.Kernel.Stations

/-! # The stations of neighbours

Each neighbour that is known should have a station for its address, which no other event takes from it, and
each station that there is should be some neighbour's.  Neighbours may share an address, so a station goes
only if none of those that are left has it.

* `handle_heard`: only the news of a neighbour changes neighbours or stations (`Heard`), and how.
* `neighbors_stationed`: after every run, on any device, the address of every neighbour has its station.
* `stations_tidy_iff`: a station is some neighbour's throughout a run exactly if no event leaks one.  A
  neighbour is forgotten before it is known whether its station can go, so the station is left behind where
  the neighbour is at no port any more, and where the event gives another address than the neighbour had. -/

namespace ControlPlane.Follower

open Operation (Ends)

variable {δ : Type} {refused : δ → Prop} {event : Event} {m m' : Follower δ} {n : Neighbor}
  {mac : MacAddr} {mac? : Option MacAddr} {port : PortId} {slot : Nat} {station : Station}

/-! ### Neighbours and stations after an event -/

/-- Only the news of neighbours concern what is known of them. -/
theorem Step.neighbors_eq (h : Step refused event m m')
    (hnot : ∀ ip i mac? change, event ≠ .neighbor ip i mac? change) : m'.neighbors = m.neighbors := by
  cases h with
  | tried hr => exact hr.neighbors
  | elsewhere rest ports => exact congrArg (·.neighbors) rest
  | interfaceAdded hport hid hr => exact hr.neighbors
  | interfaceRemoved hport hr => exact hr.neighbors
  | hosted hwants hn hrp hf hr => exact hr.neighbors
  | unhosted hip hr => exact hr.neighbors
  | installed hn hrp hf hr => rw [hr.neighbors, installing_neighbors]
  | withdrawn hs hr => exact hr.neighbors
  | removed he hr => exact hr.neighbors
  | pended hs => rfl
  | unpended => rfl
  | learned he => exact absurd he (hnot _ _ _ _)
  | forgotten he => exact absurd he (hnot _ _ _ _)

theorem Steps.neighbors_eq (h : Steps refused event m m')
    (hnot : ∀ ip i mac? change, event ≠ .neighbor ip i mac? change) : m'.neighbors = m.neighbors := by
  induction h with
  | refl => rfl
  | tail _ hstep ih => exact (hstep.neighbors_eq hnot).trans ih

/-- What becomes of neighbours and stations in an event. -/
inductive Heard (m : Follower δ) : Event → Follower δ → Prop where
  /-- Nothing is heard of a neighbour, or its news is ignored or fails. -/
  | nothing {event : Event} {m' : Follower δ} (he : ∀ ip i mac?, event ≠ .neighbor ip i mac? .removed)
      (hn : m'.neighbors = m.neighbors)
      (hs : m'.switch.stations.slots = m.switch.stations.slots) : Heard m event m'
  | learned {n : Neighbor} {mac : MacAddr} {port : PortId} {slot : Nat} {m' : Follower δ}
      (hnew : m.switch.stations.newSlot? m.switch.board ⟨mac, 0, port, true⟩ = some slot)
      (hn : m'.neighbors = m.neighbors.insert n mac)
      (hs : m'.switch.stations.slots = m.restationed n mac port slot) :
      Heard m (.neighbor n.ip n.ifindex (some mac) .added) m'
  | forgotten {n : Neighbor} {mac? : Option MacAddr} {m' : Follower δ}
      (hn : m'.neighbors = m.neighbors.erase n)
      (hs : m'.switch.stations.slots = m.destationed n mac?) :
      Heard m (.neighbor n.ip n.ifindex mac? .removed) m'

section heard

variable [Bus δ]

theorem Added.heard (ht : Bus.Tells refused) (hs : m.Sound) (h : m.Added n mac? m') :
    m.Heard (.neighbor n.ip n.ifindex mac? .added) m' := by
  cases h with
  | ignored h => exact .nothing (by simp) rfl rfl
  | noted hmac hport hroom hid helse hst =>
      subst hmac
      obtain ⟨slot, hnew, hslots⟩ := hst.slots
      exact .learned hnew (congrArg (·.neighbors) helse) hslots
  | @settled port mac id m₁ _ hmac hport hroom hid helse hsettle hst =>
      subst hmac
      obtain ⟨slot, hnew, hslots⟩ := hst.slots
      obtain ⟨m₂, hhoused, hsettled⟩ := settled_ends ht hs hport hid helse hsettle
      have hspared : m'.switch.stations.slots = m₁.switch.stations.slots :=
        (settle_spares (R := fun a => a.stations.slots = m₁.switch.stations.slots) n _ _ _ m₁ rfl).of_ok hsettle
      refine .learned hnew ?_ (hspared.trans hslots)
      rw [hsettled.still.neighbors, hhoused.still.neighbors]
      exact congrArg (·.neighbors) helse

theorem handle_heard (hs : m.Sound) (event : Event) : m.Heard event (handle event m).2 := by
  by_cases hnot : ∀ ip i mac? change, event ≠ .neighbor ip i mac? change
  · refine .nothing (fun ip i mac? => hnot ip i mac? .removed)
      ((handle_steps Bus.tells_true hs event).neighbors_eq hnot) ?_
    exact handle_ends (P := fun _ m' => m'.switch.stations.slots = m.switch.stations.slots)
      (apply_spares (R := fun s => s.slots = m.switch.stations.slots) event hnot m rfl)
  · push Not at hnot
    obtain ⟨ip, i, mac?, change, rfl⟩ := hnot
    refine handle_ends (P := fun _ m' => m.Heard _ m') ?_
    cases change with
    | added =>
        refine (neighborAdded_ends Bus.tells_true ⟨ip, i⟩ mac?).mono
          (fun _ _ h => h.heard Bus.tells_true hs) ?_
        rintro _ m' ⟨⟨helse, -⟩, hslots, -⟩
        exact .nothing nofun helse.still.neighbors hslots
    | removed =>
        exact (neighborRemoved_ends Bus.tells_true hs.toOwned ⟨ip, i⟩ mac?).mono
          (fun _ _ h => .forgotten (n := ⟨ip, i⟩) h.1.rest.1.neighbors h.2.slots)
          fun _ _ he => he.elim

end heard

/-! ### Stations that stay -/

/-- The station of an address goes unless a neighbour has the address. -/
theorem get?_unless_hasMac_iff {s : Stations} (hd : s.Distinct) {k : Nat} :
    (if m.hasMac mac then s.slots else s.without mac).get? k = some station ↔
      s.slots.get? k = some station ∧
        ¬ (mac = station.mac ∧ station.vlan = 0 ∧ ¬ m.hasMac station.mac = true) := by
  split
  · rename_i hother
    refine (and_iff_left ?_).symm
    rintro ⟨rfl, -, hnot⟩
    exact hnot hother
  · rename_i hnot
    rw [hd.get?_without_eq_some_iff]
    refine and_congr_right fun _ => not_congr ⟨?_, ?_⟩
    · rintro ⟨rfl, hvlan⟩
      exact ⟨rfl, hvlan, hnot⟩
    · rintro ⟨rfl, hvlan, -⟩
      exact ⟨rfl, hvlan⟩

/-- With the news of a neighbour goes the station of the address that it had, if nobody has that any more. -/
theorem get?_restationed_iff (hd : m.switch.stations.Distinct)
    (hnew : m.switch.stations.newSlot? m.switch.board ⟨mac, 0, port, true⟩ = some slot) {k : Nat} :
    (m.restationed n mac port slot).get? k = some station ↔
      (m.switch.stations.slots.insert slot ⟨mac, 0, port, true⟩).get? k = some station ∧
        ¬ (m.neighbors.get? n = some station.mac ∧ station.vlan = 0 ∧
          ¬ hasMac { m with neighbors := m.neighbors.insert n mac } station.mac = true) := by
  have hadded : Stations.Distinct { m.switch.stations with
      slots := m.switch.stations.slots.insert slot ⟨mac, 0, port, true⟩ } := hd.added hnew rfl
  have hmac : hasMac { m with neighbors := m.neighbors.insert n mac } mac = true :=
    hasMac_iff.mpr ⟨n, KeyMap.get?_insert_self _ _ _⟩
  unfold restationed
  dsimp only
  cases hn : m.neighbors.get? n with
  | none => simp
  | some old =>
      rw [Option.filter_some]
      by_cases hsame : old = mac
      · subst hsame
        simp only [bne_self_eq_false, Bool.false_eq_true, if_false, Option.some.injEq, iff_self_and]
        rintro - ⟨rfl, -, hnot⟩
        exact hnot hmac
      · simp only [bne_iff_ne, ne_eq, hsame, not_false_eq_true, if_true, Option.some.injEq]
        exact get?_unless_hasMac_iff hadded

/-- With a neighbour goes the station of the address given, or else of the one that it had, if the neighbour
is at a port and nobody has the address any more. -/
theorem get?_destationed_iff (hd : m.switch.stations.Distinct) {k : Nat} :
    (m.destationed n mac?).get? k = some station ↔ m.switch.stations.slots.get? k = some station ∧
      ¬ (m.ports.get? n.ifindex ≠ none ∧ mac?.or (m.neighbors.get? n) = some station.mac ∧
        station.vlan = 0 ∧ ¬ hasMac { m with neighbors := m.neighbors.erase n } station.mac = true) := by
  unfold destationed
  cases hport : m.ports.get? n.ifindex with
  | none => simp
  | some port =>
      cases hmac : mac?.or (m.neighbors.get? n) with
      | none => simp
      | some mac =>
          simp only [ne_eq, reduceCtorEq, not_false_eq_true, true_and, Option.some.injEq]
          exact get?_unless_hasMac_iff hd

/-! ### Every neighbour has its station -/

/-- The address of every neighbour has a station. -/
def AllStationed (m : Follower δ) : Prop :=
  ∀ n mac, m.neighbors.get? n = some mac →
    ∃ slot port, m.switch.stations.slots.get? slot = some ⟨mac, 0, port, true⟩

theorem Heard.allStationed (h : m.Heard event m') (hd : m.switch.stations.Distinct)
    (hall : m.AllStationed) : m'.AllStationed := by
  cases h with
  | nothing he hn hs =>
      intro n mac hmac
      rw [hs]
      exact hall n mac (hn ▸ hmac)
  | @learned n mac port slot _ hnew hn hs =>
      intro n' mac' hmac'
      rw [hn] at hmac'
      rw [hs]
      by_cases hsame : mac' = mac
      · subst hsame
        exact ⟨slot, port, restationed_get?_self hd hnew⟩
      · obtain ⟨-, rfl⟩ | hold := KeyMap.eq_or_get?_of_insert hmac'
        · exact absurd rfl hsame
        · obtain ⟨k, port', hk⟩ := hall n' mac' hold
          -- its slot is not the one that was chosen for the other address
          have hne : slot ≠ k := fun he => hsame (Stations.key_of_newSlot? hnew (he ▸ hk)).1
          refine ⟨k, port', (get?_restationed_iff hd hnew).mpr ⟨?_, fun hgone => ?_⟩⟩
          · rw [KeyMap.get?_insert_of_ne _ _ hne, hk]
          · exact hgone.2.2 (hasMac_iff.mpr ⟨n', hmac'⟩)
  | @forgotten n mac? _ hn hs =>
      intro n' mac' hmac'
      rw [hn] at hmac'
      rw [hs]
      obtain ⟨k, port, hk⟩ := hall n' mac' (KeyMap.get?_of_get?_erase hmac')
      exact ⟨k, port, (get?_destationed_iff hd).mpr
        ⟨hk, fun hgone => hgone.2.2.2 (hasMac_iff.mpr ⟨n', hmac'⟩)⟩⟩

theorem run_allStationed [Bus δ] (board : Board) (bus : δ) (events : List Event) :
    ((fresh (.fresh board bus)).run events).AllStationed := by
  refine (run_keeps (P := fun m => m.Sound ∧ m.switch.stations.Distinct ∧ m.AllStationed) ?_
    ⟨sound_fresh board bus, Stations.distinct_fresh, by simp [AllStationed, fresh]⟩).2.2
  rintro event - m ⟨hs, hd, hall⟩
  exact ⟨handle_sound hs event, handle_distinct hd event, (handle_heard hs event).allStationed hd hall⟩

/-- After every run on a fresh switch, whatever its device answers, the address of every neighbour has a
static station outside VLANs. -/
theorem neighbors_stationed [Bus δ] (board : Board) (bus : δ) (events : List Event) (n : Neighbor)
    (mac : MacAddr) :
    let m := (fresh (.fresh board bus)).run events
    m.neighbors.get? n = some mac →
      ∃ port, m.switch.stations.lookup mac 0 = .ok ⟨mac, 0, port, true⟩ := by
  intro m hmac
  obtain ⟨slot, port, hslot⟩ := run_allStationed board bus events n mac hmac
  have hfind : m.switch.stations.find? mac 0 = some slot :=
    (stations_distinct board bus events).find?_eq_some_iff.mpr ⟨_, hslot, rfl, rfl⟩
  refine ⟨port, ?_⟩
  rw [Stations.lookup, if_pos (by decide), Stations.get?, hfind, Option.bind_some, hslot]

/-- Another neighbour has the same address, and the first one goes. -/
def halved : List Event :=
  arrival ++ [.neighbor ⟨0x0a000002⟩ 5 (some ⟨0x52, 0x54, 0, 0, 0, 1⟩) .added,
    .neighbor ⟨0x0a000001⟩ 5 none .removed]

/-- The neighbour that is left keeps the station that both have had. -/
theorem neighbors_stationed_halved :
    (following halved).neighbors.get? ⟨⟨0x0a000002⟩, 5⟩ = some ⟨0x52, 0x54, 0, 0, 0, 1⟩ ∧
      (following halved).neighbors.get? ⟨⟨0x0a000001⟩, 5⟩ = none ∧
      ∃ port, (following halved).switch.stations.lookup ⟨0x52, 0x54, 0, 0, 0, 1⟩ 0 =
        .ok ⟨⟨0x52, 0x54, 0, 0, 0, 1⟩, 0, port, true⟩ := by
  have hleft : (following halved).neighbors.get? ⟨⟨0x0a000002⟩, 5⟩ =
      some ⟨0x52, 0x54, 0, 0, 0, 1⟩ := by decide +kernel
  refine ⟨hleft, by decide +kernel, ?_⟩
  unfold following watchedRun at hleft ⊢
  exact neighbors_stationed _ _ halved _ _ hleft

/-! ### Every station is some neighbour's -/

/-- Every station outside VLANs is for the address of a neighbour. -/
def Tidy (m : Follower δ) : Prop :=
  ∀ slot station, m.switch.stations.slots.get? slot = some station → station.vlan = 0 →
    ∃ n, m.neighbors.get? n = some station.mac

/-- An event leaks a station: a neighbour that is the last one to have its address goes, and its interface
names no port, or the event gives another address. -/
def Leaks (m : Follower δ) : Event → Prop
  | .neighbor ip i mac? .removed => ∃ old, m.neighbors.get? ⟨ip, i⟩ = some old ∧
      (∀ n, m.neighbors.get? n = some old → n = ⟨ip, i⟩) ∧
      (m.ports.get? i = none ∨ ∃ mac, mac? = some mac ∧ mac ≠ old)
  | _ => False

theorem Leaks.event_eq (h : m.Leaks event) : ∃ ip i mac?, event = .neighbor ip i mac? .removed := by
  unfold Leaks at h
  split at h
  · exact ⟨_, _, _, rfl⟩
  · exact h.elim

theorem tidy_learned (hd : m.switch.stations.Distinct) (htidy : m.Tidy)
    (hnew : m.switch.stations.newSlot? m.switch.board ⟨mac, 0, port, true⟩ = some slot)
    (hn : m'.neighbors = m.neighbors.insert n mac)
    (hs : m'.switch.stations.slots = m.restationed n mac port slot) : m'.Tidy := by
  intro k station hk hvlan
  rw [hs, get?_restationed_iff hd hnew] at hk
  obtain ⟨hk, hstays⟩ := hk
  rw [hn]
  obtain ⟨-, rfl⟩ | hold := KeyMap.eq_or_get?_of_insert hk
  · exact ⟨n, KeyMap.get?_insert_self _ _ _⟩
  · obtain ⟨n', hn'⟩ := htidy k station hold hvlan
    by_cases hsame : n = n'
    · -- the neighbour has left this address, and another one has it
      subst hsame
      have hother : hasMac { m with neighbors := m.neighbors.insert n mac } station.mac = true := by
        by_contra hnone
        exact hstays ⟨hn', hvlan, hnone⟩
      exact hasMac_iff.mp hother
    · exact ⟨n', by rw [KeyMap.get?_insert_of_ne _ _ hsame, hn']⟩

theorem tidy_forgotten_iff (hd : m.switch.stations.Distinct) (hall : m.AllStationed) (htidy : m.Tidy)
    (hn : m'.neighbors = m.neighbors.erase n)
    (hs : m'.switch.stations.slots = m.destationed n mac?) :
    m'.Tidy ↔ ¬ m.Leaks (.neighbor n.ip n.ifindex mac? .removed) := by
  constructor
  · rintro htidy' ⟨old, hold, hlast, hwhy⟩
    obtain ⟨k, port, hk⟩ := hall n old hold
    have hstays : m'.switch.stations.slots.get? k = some ⟨old, 0, port, true⟩ := by
      rw [hs, get?_destationed_iff hd]
      refine ⟨hk, ?_⟩
      rintro ⟨hport, hmac, -, -⟩
      rcases hwhy with hnone | ⟨mac, rfl, hne⟩
      · exact hport hnone
      · exact hne (Option.some.inj hmac)
    obtain ⟨n', hn'⟩ := htidy' k _ hstays rfl
    rw [hn] at hn'
    have hsame : n' = n := hlast n' (KeyMap.get?_of_get?_erase hn')
    rw [hsame, KeyMap.get?_erase_self] at hn'
    cases hn'
  · intro hnot k station hk hvlan
    rw [hs, get?_destationed_iff hd] at hk
    obtain ⟨hk, hstays⟩ := hk
    rw [hn]
    by_contra hnone
    obtain ⟨n', hn'⟩ := htidy k station hk hvlan
    have hlast (a : Neighbor) (ha : m.neighbors.get? a = some station.mac) : a = n := by
      by_contra hne
      exact hnone ⟨a, by rw [KeyMap.get?_erase_of_ne _ (Ne.symm hne), ha]⟩
    have hgone : ¬ hasMac { m with neighbors := m.neighbors.erase n } station.mac = true :=
      fun hmac => hnone (hasMac_iff.mp hmac)
    obtain rfl : n' = n := hlast n' hn'
    refine hnot ⟨station.mac, hn', hlast, or_iff_not_imp_left.mpr fun hport => ?_⟩
    cases mac? with
    | none => exact absurd ⟨hport, hn', hvlan, hgone⟩ hstays
    | some mac =>
        refine ⟨mac, rfl, ?_⟩
        rintro rfl
        exact hstays ⟨hport, rfl, hvlan, hgone⟩

theorem Heard.tidy_iff (h : m.Heard event m') (hd : m.switch.stations.Distinct)
    (hall : m.AllStationed) (htidy : m.Tidy) : m'.Tidy ↔ ¬ m.Leaks event := by
  cases h with
  | nothing he hn hs =>
      refine iff_of_true ?_ fun hleaks => ?_
      · rw [Tidy, hn, hs]
        exact htidy
      · obtain ⟨ip, i, mac?, rfl⟩ := hleaks.event_eq
        exact he ip i mac? rfl
  | learned hnew hn hs => exact iff_of_true (tidy_learned hd htidy hnew hn hs) not_false
  | forgotten hn hs => exact tidy_forgotten_iff hd hall htidy hn hs

/-- On any device, every station outside VLANs is some neighbour's after every event, exactly if no event
leaks one. -/
theorem stations_tidy_iff [Bus δ] (board : Board) (bus : δ) (events : List Event) :
    (∀ k ≤ events.length, ((fresh (.fresh board bus)).run (events.take k)).Tidy) ↔
      ∀ k event, events[k]? = some event →
        ¬ ((fresh (.fresh board bus)).run (events.take k)).Leaks event := by
  refine @prefixes_hold_iff (fun es => ((fresh (.fresh board bus)).run es).Tidy)
    (fun es => ((fresh (.fresh board bus)).run es).Leaks) events ?_ fun k event hk htidy => ?_
  · simp [Tidy, fresh, run, Switch.fresh, Stations.fresh]
  · rw [run_take_succ _ hk]
    exact (handle_heard (run_sound (sound_fresh board bus) _) event).tidy_iff
      (stations_distinct board bus _) (run_allStationed board bus _) htidy

/-- A neighbour appears on a port, and goes after the port. -/
def unplugged : List Event :=
  [.link 5 "swp12" true, .neighbor ⟨0x0a000001⟩ 5 (some ⟨0x52, 0x54, 0, 0, 0, 1⟩) .added,
    .linkRemoved 5, .neighbor ⟨0x0a000001⟩ 5 none .removed]

/-- The station of a neighbour that has gone is left behind. -/
theorem station_leaked :
    (∀ k ≤ unplugged.length, (following (unplugged.take k)).switch.bus.refused = false) ∧
      (following unplugged).neighbors.toList = [] ∧
      (following unplugged).switch.stations.lookup ⟨0x52, 0x54, 0, 0, 0, 1⟩ 0 =
        .ok ⟨⟨0x52, 0x54, 0, 0, 0, 1⟩, 0, ⟨12, by decide, by decide⟩, true⟩ ∧
      ¬ ∀ k ≤ unplugged.length, (following (unplugged.take k)).Tidy := by
  have hnone : (following unplugged).neighbors.toList = [] := by decide +kernel
  have hslot : (following unplugged).switch.stations.slots.get?
      (StationEntry.home ⟨0x52, 0x54, 0, 0, 0, 1⟩ 0) =
        some ⟨⟨0x52, 0x54, 0, 0, 0, 1⟩, 0, ⟨12, by decide, by decide⟩, true⟩ := by decide +kernel
  refine ⟨by decide +kernel, hnone, by decide +kernel, fun h => ?_⟩
  have hlast := h unplugged.length (Nat.le_refl _)
  rw [List.take_length] at hlast
  obtain ⟨n, hn⟩ := hlast _ _ hslot rfl
  rw [← KeyMap.mem_toList_iff, hnone] at hn
  cases hn

end ControlPlane.Follower
