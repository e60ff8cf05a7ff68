import ControlPlane.Proofs.Forwarding.StationKeys
import ControlPlane.Proofs.Runs
import Mathlib.Data.Nat.ModEq
import Mathlib.Data.List.Nodup

/-! # The table of stations as a map

Stations are kept by their keys, as in a map: what is looked up is what was added last, unless it was removed
since.  This is so although a key may lie in any of six slots and a removal leaves a hole before others, and
whatever the device makes of each write.

* `StationCall` is what can be asked, and `StationRun` what a list of calls has led to, with the calls and
  whether they succeeded.  `Standing` reads off these alone which stations there should be.
* **Step.**  `Served.has_iff`: a call changes the stations that there are as `standing_concat_iff` says that
  it changes those that stand.
* **Run.**  `stations_refine_map`: after every run the table is that map, it is full for a new key only if
  others hold all of its slots, calls that fail change nothing, and its use is counted right. -/

namespace ControlPlane

open Operation (Ends)

variable {δ : Type} {s s' : Stations} {board : Board} {mac : MacAddr} {vlan slot : Nat}
  {station : Station}

/-! ### Calls -/

/-- Something that can be asked of the table of stations. -/
inductive StationCall where
  | add (station : Station)
  | remove (mac : MacAddr) (vlan : Nat)
  | lookup (mac : MacAddr) (vlan : Nat)

/-- A call gives a key a station, or takes it from the key. -/
def StationCall.Changes : StationCall → MacAddr → Nat → Prop
  | add station, mac, vlan => station.mac = mac ∧ station.vlan = vlan
  | remove mac' vlan', mac, vlan => mac' = mac ∧ vlan' = vlan
  | lookup _ _, _, _ => False

/-- Calls, and whether they succeeded, the first one first. -/
abbrev StationHistory := List (StationCall × Bool)

namespace StationHistory

/-- A station was added, and no later call for its key has succeeded. -/
def Standing (history : StationHistory) (station : Station) : Prop :=
  ∃ before since, history = before ++ (.add station, true) :: since ∧
    ∀ later ∈ since, later.2 = true → ¬ later.1.Changes station.mac station.vlan

theorem standing_iff {history : StationHistory} : history.Standing station ↔
    Stands (· = .add station) (·.Changes station.mac station.vlan) history := by
  constructor
  · rintro ⟨before, since, heq, hsince⟩
    exact ⟨before, .add station, since, heq, rfl, hsince⟩
  · rintro ⟨before, _, since, heq, rfl, hsince⟩
    exact ⟨before, since, heq, hsince⟩

/-- A call that succeeds makes its station stand or ends what stood for its key; others change nothing. -/
theorem standing_concat_iff {history : StationHistory} {c : StationCall} {ok : Bool} :
    Standing (history ++ [(c, ok)]) station ↔ c = .add station ∧ ok = true ∨
      history.Standing station ∧ ¬ (ok = true ∧ c.Changes station.mac station.vlan) := by
  rw [standing_iff, standing_iff]
  exact stands_concat_iff

end StationHistory

namespace Stations

/-! ### The stations that there are -/

/-- A station is in some slot. -/
def Has (s : Stations) (station : Station) : Prop := ∃ slot, s.slots.get? slot = some station

theorem has_congr (h : s'.slots = s.slots) (station : Station) : s'.Has station ↔ s.Has station := by
  rw [Has, Has, h]

/-- A new station takes the place of the one with its key, and of no other. -/
theorem Distinct.has_added_iff (h : s.Distinct) (hnew : s.newSlot? board station = some slot)
    (hs : s'.slots = s.slots.insert slot station) (a : Station) :
    s'.Has a ↔ a = station ∨ s.Has a ∧ ¬ (station.mac = a.mac ∧ station.vlan = a.vlan) := by
  rw [Has, hs]
  constructor
  · rintro ⟨k, hk⟩
    obtain ⟨-, rfl⟩ | hold := KeyMap.eq_or_get?_of_insert hk
    · exact .inl rfl
    · by_cases hsame : k = slot
      · rw [hsame, KeyMap.get?_insert_self] at hk
        exact .inl (Option.some.inj hk).symm
      · exact .inr ⟨⟨k, hold⟩, fun hkey =>
          hsame (slot_of_newSlot? h hnew hold hkey.1.symm hkey.2.symm)⟩
  · rintro (rfl | ⟨⟨k, hk⟩, hother⟩)
    · exact ⟨slot, KeyMap.get?_insert_self _ _ _⟩
    · have hne : slot ≠ k := by
        rintro rfl
        obtain ⟨hmac, hvlan⟩ := key_of_newSlot? hnew hk
        exact hother ⟨hmac.symm, hvlan.symm⟩
      exact ⟨k, by rw [KeyMap.get?_insert_of_ne _ _ hne, hk]⟩

theorem Distinct.has_removed_iff (h : s.Distinct) (hfind : s.find? mac vlan = some slot)
    (hs : s'.slots = s.slots.erase slot) (a : Station) :
    s'.Has a ↔ s.Has a ∧ ¬ (mac = a.mac ∧ vlan = a.vlan) := by
  obtain ⟨station, hslot, rfl, rfl⟩ := h.find?_eq_some_iff.mp hfind
  rw [Has, hs]
  constructor
  · rintro ⟨k, hk⟩
    have hold := KeyMap.get?_of_get?_erase hk
    refine ⟨⟨k, hold⟩, fun hkey => ?_⟩
    rw [h.unique k slot a station hold hslot hkey.1.symm hkey.2.symm, KeyMap.get?_erase_self] at hk
    cases hk
  · rintro ⟨⟨k, hk⟩, hother⟩
    have hne : slot ≠ k := by
      rintro rfl
      rw [hslot] at hk
      cases hk
      exact hother ⟨rfl, rfl⟩
    exact ⟨k, by rw [KeyMap.get?_erase_of_ne _ hne, hk]⟩

theorem Distinct.get?_eq_some_iff (h : s.Distinct) :
    s.get? mac vlan = some station ↔ s.Has station ∧ station.mac = mac ∧ station.vlan = vlan := by
  rw [Stations.get?, Option.bind_eq_some_iff]
  constructor
  · rintro ⟨slot, hfind, hslot⟩
    obtain ⟨a, ha, hkey⟩ := h.find?_eq_some_iff.mp hfind
    rw [hslot] at ha
    cases ha
    exact ⟨⟨slot, hslot⟩, hkey⟩
  · rintro ⟨⟨slot, hslot⟩, hkey⟩
    exact ⟨slot, h.find?_eq_some_iff.mpr ⟨station, hslot, hkey⟩, hslot⟩

/-- The slots that a key may lie in are six, all different. -/
theorem candidates_six (mac : MacAddr) (vlan : Nat) :
    (candidates mac vlan).Nodup ∧ (candidates mac vlan).length = 6 := by
  have hdepth : probes < Table.station.depth := by decide
  refine ⟨List.Nodup.map_on ?_ List.nodup_range, by simp [candidates, probes]⟩
  intro i hi j hj heq
  have hi := (List.mem_range.mp hi).trans hdepth
  have hj := (List.mem_range.mp hj).trans hdepth
  exact Nat.ModEq.eq_of_lt_of_lt (Nat.ModEq.add_left_cancel' _ heq) hi hj

/-! ### What becomes of the slots -/

/-- What becomes of the slots in a call: it fails and leaves them alone, or it succeeds and enters or clears
one of them, or none if it only looks. -/
inductive Served (board : Board) (s : Stations) : StationCall → Bool → Stations → Prop where
  | failed {c : StationCall} {s' : Stations} (hs : s'.slots = s.slots) : Served board s c false s'
  | added {station : Station} {slot : Nat} {s' : Stations}
      (hnew : s.newSlot? board station = some slot) (hs : s'.slots = s.slots.insert slot station) :
      Served board s (.add station) true s'
  | removed {mac : MacAddr} {vlan slot : Nat} {s' : Stations} (hfind : s.find? mac vlan = some slot)
      (hs : s'.slots = s.slots.erase slot) : Served board s (.remove mac vlan) true s'
  | found {mac : MacAddr} {vlan : Nat} {s' : Stations} (hs : s'.slots = s.slots) :
      Served board s (.lookup mac vlan) true s'

namespace Served

variable {c : StationCall} {ok : Bool}

theorem distinct (h : s.Served board c ok s') (hd : s.Distinct) : s'.Distinct := by
  cases h with
  | failed hs => exact hd.congr hs
  | added hnew hs => exact hd.added hnew hs
  | removed hfind hs => exact hd.removed hs
  | found hs => exact hd.congr hs

/-- A call changes the stations that there are as it changes those that stand. -/
theorem has_iff (h : s.Served board c ok s') (hd : s.Distinct) (a : Station) :
    s'.Has a ↔ c = .add a ∧ ok = true ∨ s.Has a ∧ ¬ (ok = true ∧ c.Changes a.mac a.vlan) := by
  cases h with
  | failed hs => simp [has_congr hs]
  | added hnew hs => simp [hd.has_added_iff hnew hs, StationCall.Changes, eq_comm]
  | removed hfind hs => simp [hd.has_removed_iff hfind hs, StationCall.Changes]
  | found hs => simp [has_congr hs, StationCall.Changes]

end Served

/-- The use of a table is counted right: as many entries are in it as are counted, and those that came and
have not gone. -/
structure Tallied (s : Stations) : Prop where
  occupancy : s.usage.occupancy = s.slots.size
  balance : s.usage.occupancy + s.usage.deletes = s.usage.inserts

theorem tallied_fresh : fresh.Tallied := ⟨Std.TreeMap.size_emptyc.symm, rfl⟩

end Stations

/-- What some calls have led to. -/
structure StationRun (δ : Type) where
  stations : Stations
  bus : δ
  history : StationHistory

namespace StationRun

/-- Nothing has been asked yet. -/
def start (bus : δ) : StationRun δ := ⟨.fresh, bus, []⟩

/-- What each call keeps: a key has one slot, what stands is there, and the entries are counted. -/
structure Kept (r : StationRun δ) : Prop where
  distinct : r.stations.Distinct
  has_iff : ∀ station, r.stations.Has station ↔ r.history.Standing station
  tallied : r.stations.Tallied

theorem kept_start (bus : δ) : (start bus).Kept where
  distinct := Stations.distinct_fresh
  has_iff station := by simp [start, Stations.Has, Stations.fresh, StationHistory.Standing]
  tallied := Stations.tallied_fresh

end StationRun

variable [Bus δ] {bus : δ}

namespace StationCall

/-- The table and the device after a call, whatever became of it. -/
def serve (board : Board) : StationCall → Stations × δ → Stations × δ
  | add station, t => Operation.after (Stations.add board station) t
  | remove mac vlan, t => Operation.after (Stations.remove mac vlan) t
  | lookup _ _, t => t

/-- Whether a call does not fail. -/
def succeeds (board : Board) : StationCall → Stations × δ → Bool
  | add station, t => (Operation.answer (Stations.add board station) t).isOk
  | remove mac vlan, t => (Operation.answer (Stations.remove mac vlan) t).isOk
  | lookup mac vlan, t => (t.1.lookup mac vlan).isOk

end StationCall

namespace StationRun

def call (board : Board) (r : StationRun δ) (c : StationCall) : StationRun δ :=
  let t := c.serve board (r.stations, r.bus)
  ⟨t.1, t.2, r.history ++ [(c, c.succeeds board (r.stations, r.bus))]⟩

/-- The run of some calls, on a fresh table. -/
def of (board : Board) (bus : δ) (calls : List StationCall) : StationRun δ :=
  calls.foldl (call board) (start bus)

end StationRun

namespace Stations

/-! ### One call -/

theorem serve_served (board : Board) (s : Stations) (bus : δ) (c : StationCall) :
    s.Served board c (c.succeeds board (s, bus)) (c.serve board (s, bus)).1 := by
  cases c with
  | add station =>
      refine Ends.isOk (P := fun ok (t : Stations × δ) => s.Served board (.add station) ok t.1)
        ((add_commands board station).mono ?_ fun _ _ h => .failed h.1)
      rintro _ t ⟨slot, hnew, -, hslots⟩
      exact .added hnew hslots
  | remove mac vlan =>
      refine Ends.isOk (P := fun ok (t : Stations × δ) => s.Served board (.remove mac vlan) ok t.1)
        ((remove_commands mac vlan).mono ?_ fun _ _ h => .failed h.1)
      rintro _ t ⟨slot, hfind, hslots, -⟩
      exact .removed hfind hslots
  | lookup mac vlan =>
      cases (StationCall.lookup mac vlan).succeeds board (s, bus) with
      | false => exact .failed rfl
      | true => exact .found rfl

theorem record_tallied {count : Usage → Usage} (h : s.Tallied)
    (hrecorded : Tallied ⟨s.slots.insert slot station, count s.usage⟩) :
    Ends (record slot station count) (s, bus) (fun _ t => t.1.Tallied) fun _ t => t.1.Tallied :=
  ends_record (fun _ _ => hrecorded) fun _ _ _ => h

theorem add_tallied (h : s.Tallied) (board : Board) (station : Station) :
    Ends (add board station) (s, bus) (fun _ t => t.1.Tallied) fun _ t => t.1.Tallied := by
  refine ends_add (fun _ _ => h) (fun slot _ hplace => ?_) (fun slot passed _ hplace => ?_)
    fun _ _ _ => ⟨h.occupancy, h.balance⟩
  · obtain ⟨old, hold, -⟩ := holds_iff.mp (place_held hplace).2
    have hsize : (s.slots.insert slot station).size = s.slots.size := by
      rw [KeyMap.size_insert, if_pos (KeyMap.contains_of_get? hold)]
    exact record_tallied h ⟨h.occupancy.trans hsize.symm, h.balance⟩
  · have hsize : (s.slots.insert slot station).size = s.slots.size + 1 := by
      rw [KeyMap.size_insert, (place_vacant hplace).2]
      rfl
    refine record_tallied ⟨h.occupancy, h.balance⟩ ⟨?_, ?_⟩
    · rw [hsize, ← h.occupancy]
      rfl
    · have hbalance := h.balance
      simp only [Usage.inserted, Usage.passed]
      omega

theorem remove_tallied (h : s.Tallied) (mac : MacAddr) (vlan : Nat) :
    Ends (remove mac vlan) (s, bus) (fun _ t => t.1.Tallied) fun _ t => t.1.Tallied := by
  refine ends_remove (fun _ _ => h) (fun _ => ⟨h.occupancy, h.balance⟩) fun slot hfind => ?_
  obtain ⟨station, hslot⟩ := get?_of_find? hfind
  -- what is found is counted, so one less can be counted
  have hpos : 0 < s.usage.occupancy := by
    rw [h.occupancy]
    exact KeyMap.size_pos_of_get? hslot
  have hsize : (s.slots.erase slot).size = s.slots.size - 1 := by
    rw [KeyMap.size_erase, if_pos (KeyMap.contains_of_get? hslot)]
  refine ⟨?_, ?_⟩
  · rw [hsize, ← h.occupancy]
    rfl
  · have hbalance := h.balance
    simp only [Usage.deleted]
    omega

theorem serve_tallied (h : s.Tallied) (board : Board) (bus : δ) (c : StationCall) :
    (c.serve board (s, bus)).1.Tallied := by
  cases c with
  | add station =>
      exact Ends.after (P := fun (t : Stations × δ) => t.1.Tallied) (add_tallied h board station)
  | remove mac vlan =>
      exact Ends.after (P := fun (t : Stations × δ) => t.1.Tallied) (remove_tallied h mac vlan)
  | lookup mac vlan => exact h

/-! ### Room for a new key -/

/-- A station whose key and port are right is refused for want of room exactly if there is none. -/
theorem add_full (hv : VlanTag.IsTag station.vlan) (hp : board.Has station.port) :
    Ends (add board station) (s, bus) (fun _ _ => ¬ s.Crowded station.mac station.vlan) fun e _ =>
      e = .full (.table Table.station.name) ↔ s.Crowded station.mac station.vlan := by
  have hrecord (t : Stations) (slot : Nat) (count : Usage → Usage)
      (hroom : ¬ s.Crowded station.mac station.vlan) :
      Ends (record slot station count) (t, bus) (fun _ _ => ¬ s.Crowded station.mac station.vlan)
        fun e _ => e = .full (.table Table.station.name) ↔ s.Crowded station.mac station.vlan := by
    refine ends_record (fun _ _ => hroom) fun e bus' hw => iff_of_false (fun hfull => ?_) hroom
    exact (Table.write_ne_full _ _ _ bus).of_error hw _ hfull
  refine ends_add (fun _ hinvalid => absurd ⟨hv, hp⟩ hinvalid) (fun slot _ hplace => ?_)
    (fun slot passed _ hplace => ?_) fun passed _ hplace => iff_of_true rfl ⟨passed, hplace⟩
  · exact hrecord _ slot _ (by simp [Crowded, hplace])
  · exact hrecord _ slot _ (by simp [Crowded, hplace])

theorem answer_full_iff (hv : VlanTag.IsTag station.vlan) (hp : board.Has station.port) :
    Operation.answer (add board station) (s, bus) = .error (.full (.table Table.station.name)) ↔
      s.Crowded station.mac station.vlan := by
  have hends : Ends (add board station) (s, bus) _ _ := add_full hv hp
  cases hanswer : Operation.answer (add board station) (s, bus) with
  | ok u => exact iff_of_false nofun (hends.of_answer hanswer)
  | error e =>
      rw [Except.error.injEq]
      exact hends.of_failure hanswer

end Stations

/-! ### Every run -/

namespace StationRun

variable {r : StationRun δ}

/-- The table is a map, the one that its calls have made of it. -/
structure Refines (board : Board) (r : StationRun δ) : Prop where
  /-- What is looked up is the station that stands for the key. -/
  found : ∀ mac vlan station, VlanTag.IsTag vlan → (r.stations.lookup mac vlan = .ok station ↔
    r.history.Standing station ∧ station.mac = mac ∧ station.vlan = vlan)
  /-- A key is missing if no station stands for it. -/
  missing : ∀ mac vlan, VlanTag.IsTag vlan →
    (r.stations.lookup mac vlan = .error (.missing (.station mac vlan)) ↔
      ¬ ∃ station, r.history.Standing station ∧ station.mac = mac ∧ station.vlan = vlan)
  /-- No key lies in two slots, and each lies in one of its candidates. -/
  distinct : r.stations.Distinct
  /-- The candidates of a key are six slots. -/
  six : ∀ mac vlan, (Stations.candidates mac vlan).Nodup ∧ (Stations.candidates mac vlan).length = 6
  /-- There is no room for a new key exactly if others hold all its candidates. -/
  full : ∀ station, VlanTag.IsTag station.vlan → board.Has station.port →
    r.stations.lookup station.mac station.vlan = .error (.missing (.station station.mac station.vlan)) →
    (Operation.answer (Stations.add board station) (r.stations, r.bus) =
        .error (.full (.table Table.station.name)) ↔
      ∀ slot ∈ Stations.candidates station.mac station.vlan,
        ∃ other, r.stations.slots.get? slot = some other ∧
          ¬ (other.mac = station.mac ∧ other.vlan = station.vlan))
  /-- A call that fails changes nothing that is stored. -/
  unchanged : ∀ c : StationCall, c.succeeds board (r.stations, r.bus) = false →
    (c.serve board (r.stations, r.bus)).1.slots = r.stations.slots
  /-- The slots that are taken are counted. -/
  occupancy : r.stations.usage.occupancy = r.stations.slots.size
  balance : r.stations.usage.occupancy + r.stations.usage.deletes = r.stations.usage.inserts
  /-- Nothing is removed from a table that is counted as empty. -/
  counted : ∀ mac vlan, (StationCall.remove mac vlan).succeeds board (r.stations, r.bus) = true →
    0 < r.stations.usage.occupancy

theorem Kept.call (h : r.Kept) (board : Board) (c : StationCall) : (r.call board c).Kept where
  distinct := (Stations.serve_served board r.stations r.bus c).distinct h.distinct
  has_iff station := by
    refine ((Stations.serve_served board r.stations r.bus c).has_iff h.distinct station).trans ?_
    rw [h.has_iff]
    exact StationHistory.standing_concat_iff.symm
  tallied := Stations.serve_tallied h.tallied board r.bus c

/-- A call that fails has left the slots alone. -/
theorem serve_slots_of_fails {c : StationCall} (hfails : c.succeeds board (r.stations, r.bus) = false) :
    (c.serve board (r.stations, r.bus)).1.slots = r.stations.slots := by
  have hserved := Stations.serve_served board r.stations r.bus c
  rw [hfails] at hserved
  cases hserved with
  | failed hs => exact hs

omit [Bus δ] in
/-- The slots of a key that is missing are other keys'. -/
theorem Kept.other_key (h : r.Kept) (hget : r.stations.get? mac vlan = none) {other : Station}
    (hslot : r.stations.slots.get? slot = some other) : ¬ (other.mac = mac ∧ other.vlan = vlan) := by
  intro hkey
  rw [h.distinct.get?_eq_some_iff.mpr ⟨⟨slot, hslot⟩, hkey⟩] at hget
  cases hget

theorem Kept.full_iff (h : r.Kept) (hv : VlanTag.IsTag station.vlan) (hp : board.Has station.port)
    (hget : r.stations.get? station.mac station.vlan = none) :
    Operation.answer (Stations.add board station) (r.stations, r.bus) =
        .error (.full (.table Table.station.name)) ↔
      ∀ slot ∈ Stations.candidates station.mac station.vlan,
        ∃ other, r.stations.slots.get? slot = some other ∧
          ¬ (other.mac = station.mac ∧ other.vlan = station.vlan) := by
  have hfind : r.stations.find? station.mac station.vlan = none := by
    by_contra hsome
    obtain ⟨slot, hslot⟩ := Option.ne_none_iff_exists'.mp hsome
    obtain ⟨other, hother, hkey⟩ := h.distinct.find?_eq_some_iff.mp hslot
    exact h.other_key hget hother hkey
  rw [Stations.answer_full_iff hv hp, Stations.crowded_iff hfind]
  refine forall₂_congr fun slot _ => ?_
  rw [KeyMap.contains_iff]
  exact exists_congr fun other => (and_iff_left_of_imp (h.other_key hget)).symm

theorem Kept.refines (h : r.Kept) (board : Board) : r.Refines board where
  found mac vlan station hv := by
    rw [← h.has_iff, ← h.distinct.get?_eq_some_iff, Stations.lookup, if_pos hv]
    cases r.stations.get? mac vlan <;> simp
  missing mac vlan hv := by
    simp only [← h.has_iff, ← h.distinct.get?_eq_some_iff, Stations.lookup, if_pos hv]
    cases r.stations.get? mac vlan <;> simp
  distinct := h.distinct
  six := Stations.candidates_six
  full station hv hp hmissing := by
    refine h.full_iff hv hp ?_
    rw [Stations.lookup, if_pos hv] at hmissing
    split at hmissing
    · cases hmissing
    · assumption
  unchanged c := serve_slots_of_fails
  occupancy := h.tallied.occupancy
  balance := h.tallied.balance
  counted mac vlan hok := by
    have hserved := Stations.serve_served board r.stations r.bus (.remove mac vlan)
    rw [hok] at hserved
    cases hserved with
    | removed hfind hs =>
        obtain ⟨station, hslot⟩ := Stations.get?_of_find? hfind
        rw [h.tallied.occupancy]
        exact KeyMap.size_pos_of_get? hslot

end StationRun

/-- After every run of calls on a fresh table, with any arguments and whatever the device answers to each
write, the table is the map that the calls have made of it. -/
theorem stations_refine_map (board : Board) (bus : δ) (calls : List StationCall) :
    (StationRun.of board bus calls).Refines board := by
  have hrun (r : StationRun δ) (h : r.Kept) : (calls.foldl (StationRun.call board) r).Kept := by
    induction calls generalizing r with
    | nil => exact h
    | cons c calls ih => exact ih _ (h.call board c)
  exact (hrun _ (StationRun.kept_start bus)).refines board

end ControlPlane
