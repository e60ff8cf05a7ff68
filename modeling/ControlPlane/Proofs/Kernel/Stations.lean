import ControlPlane.Proofs.Kernel.Aside
import ControlPlane.Proofs.Kernel.Events

/-! # Stations while the kernel is followed

Only the news of a neighbour, and that it has gone, concern stations: every other event spares them
(`apply_spares`).  Stations that are added and removed stay `Distinct`, so they are after every run
(`stations_distinct`). -/

namespace ControlPlane.Follower

open Operation (Ends)

variable {δ α : Type} {R : Stations → Prop}

/-! ### What does not route -/

theorem Spares.onPorts {op : Switch δ → Operation (Ports × δ) α} :
    Spares (fun a => R a.stations) (onSwitch fun sw => Switch.onPorts (op sw) sw) :=
  fun m h => Ends.focus <| show Ends (Switch.onPorts (op m.switch)) m.switch _ _ from
    Ends.focus (Operation.ends_of_forall (fun _ _ => h) fun _ _ => h)

section events

variable [Bus δ]

omit [Bus δ] in
theorem forget_stations (m : Follower δ) (port : PortId) :
    (m.forget port).switch.stations = m.switch.stations := by
  unfold Follower.forget
  split <;> rfl

omit [Bus δ] in
theorem linkRemoved_spares (i : IfIndex) :
    Spares (fun a => R a.stations) (linkRemoved i : Operation (Follower δ) EventOutcome) := by
  refine .get_bind fun m hm => ?_
  split
  · exact .pure _
  · rename_i port _
    refine .bind (.set ?_) fun _ => .pure _
    change R (Follower.forget _ port).switch.stations
    rw [forget_stations]
    exact hm

theorem setLink_spares (port : PortId) (up : Bool) :
    Spares (fun a => R a.stations) (setLink port up : Operation (Follower δ) EventOutcome) :=
  .bind (.modify fun _ h => h) fun _ => .bind .onPorts fun _ => .pure _

omit [Bus δ] in
theorem relinked_stations (m : Follower δ) (i : IfIndex) (name : String) :
    (m.relinked i name).switch.stations = m.switch.stations := by
  have hnaming : (m.naming i (m.named? name)).switch.stations = m.switch.stations := by
    cases m.named? name <;> rfl
  unfold relinked
  split
  · exact hnaming
  · split
    · exact hnaming
    · rw [forget_stations, hnaming]

theorem link_spares (i : IfIndex) (name : String) (up : Bool) :
    Spares (fun a => R a.stations) (link i name up : Operation (Follower δ) EventOutcome) := by
  intro m hm
  have heq := m.link_eq i name up
  have hrelinked : R (m.relinked i name).switch.stations := m.relinked_stations i name ▸ hm
  cases hnamed : m.named? name with
  | none =>
      rw [hnamed] at heq
      exact Operation.ends_ok heq hrelinked
  | some port =>
      rw [hnamed] at heq
      exact Ends.of_eq (setLink_spares port up _ hrelinked) heq

/-! ### The stations of neighbours -/

omit [Bus δ] in
/-- The address that a neighbour had goes, and not the one that it has now. -/
theorem restationed_get?_self {m : Follower δ} {n : Neighbor} {mac : MacAddr} {port : PortId}
    {slot : Nat} (hd : m.switch.stations.Distinct)
    (hnew : m.switch.stations.newSlot? m.switch.board ⟨mac, 0, port, true⟩ = some slot) :
    (m.restationed n mac port slot).get? slot = some ⟨mac, 0, port, true⟩ := by
  have hadded : Stations.Distinct { m.switch.stations with
      slots := m.switch.stations.slots.insert slot ⟨mac, 0, port, true⟩ } := hd.added hnew rfl
  have hself := KeyMap.get?_insert_self m.switch.stations.slots slot ⟨mac, 0, port, true⟩
  unfold restationed
  split
  · rename_i old hold
    have hne : old ≠ mac := by simpa using (Option.filter_eq_some_iff.mp hold).2
    split
    · exact hself
    · rw [hadded.get?_without, hself]
      simp [Option.filter_some, Ne.symm hne]
  · exact hself

theorem addStation_distinct (station : Station) :
    Spares (fun a => a.stations.Distinct)
      (onSwitch (Switch.addStation station) : Operation (Follower δ) Unit) := by
  intro m hm
  refine (addStation_ends Bus.tells_true m station).mono ?_ fun _ _ he => hm.congr he.2.2
  rintro _ m' ⟨-, -, slot, hnew, hslots⟩
  have hadded : Stations.Distinct { m.switch.stations with
      slots := m.switch.stations.slots.insert slot station } := hm.added hnew rfl
  exact hadded.congr hslots

theorem removeStation_distinct (mac : MacAddr) :
    Spares (fun a => a.stations.Distinct)
      (onSwitch (Switch.removeStation mac 0) : Operation (Follower δ) Unit) :=
  fun m hm => (removeStation_ends m mac).mono (fun _ _ h => hm.without h.2) fun _ _ he => hm.without he.2.2

/-! ### Every event -/

/-- Only the news of neighbours concern stations. -/
theorem apply_spares (event : Event) (h : ∀ ip i mac? change, event ≠ .neighbor ip i mac? change) :
    Spares (fun a => R a.stations) (apply event : Operation (Follower δ) EventOutcome) := by
  cases event with
  | link i name up => exact link_spares i name up
  | linkRemoved i => exact linkRemoved_spares i
  | address i change =>
      cases change with
      | added => exact addressAdded_spares i
      | removed => exact addressRemoved_spares i
  | route subnet change gateway via =>
      cases change with
      | added => exact routeAdded_spares subnet gateway via
      | removed => exact routeRemoved_spares subnet
  | neighbor ip i mac? change => exact absurd rfl (h ip i mac? change)

theorem apply_distinct (event : Event) :
    Spares (fun a => a.stations.Distinct) (apply event : Operation (Follower δ) EventOutcome) := by
  by_cases h : ∀ ip i mac? change, event ≠ .neighbor ip i mac? change
  · exact apply_spares event h
  · push Not at h
    obtain ⟨ip, i, mac?, change, rfl⟩ := h
    cases change with
    | added => exact neighborAdded_spares addStation_distinct removeStation_distinct ⟨ip, i⟩ mac?
    | removed => exact neighborRemoved_spares removeStation_distinct ⟨ip, i⟩ mac?

theorem handle_distinct {m : Follower δ} (h : m.switch.stations.Distinct) (event : Event) :
    (handle event m).2.switch.stations.Distinct :=
  handle_ends (P := fun _ m' => m'.switch.stations.Distinct) (apply_distinct event m h)

theorem run_distinct {m : Follower δ} (h : m.switch.stations.Distinct) (events : List Event) :
    (m.run events).switch.stations.Distinct :=
  run_keeps (P := fun m => m.switch.stations.Distinct) (fun event _ _ h => handle_distinct h event) h

/-- After every run no two stations have the same key, and each is where it is looked for. -/
theorem stations_distinct (board : Board) (bus : δ) (events : List Event) :
    ((fresh (.fresh board bus)).run events).switch.stations.Distinct :=
  run_distinct Stations.distinct_fresh events

end events

end ControlPlane.Follower
