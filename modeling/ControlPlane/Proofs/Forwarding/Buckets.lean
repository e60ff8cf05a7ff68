import ControlPlane.Proofs.Forwarding.StationMap
import Mathlib.Data.List.Find
import Mathlib.Data.Set.Card
import Mathlib.Order.Interval.Finset.Nat
import Mathlib.Tactic.NormNum

/-! # Keys that share slots

The number form of a key is cut to the table's depth, which leaves the VLAN and one bit of the MAC address.
So the keys of a VLAN fall into two buckets, and all keys of a bucket have the same six slots.  The slots
of different buckets are apart, and none go around at the end of the table.

* `Bucket.holds_inj`: a slot is in one bucket at most.
* **Step.**  `Served.elsewhere` and `Served.agrees`: a call leaves the slots of other buckets alone, and what it
  does to those of its own is told from these.  So is what it answers (`answer_eq_verdict`, `verdict_congr`),
  unless the device refuses.
* **Run.**  `answers_alone`: what the calls for one bucket are answered is what they are answered without the
  others.  `full_iff_six` and `twelve`: how many keys there is room for.
* `buckets_apart` puts these together. -/

namespace ControlPlane

open Operation (Ends)

variable {δ : Type} {s s' t t' : Stations} {board : Board} {mac : MacAddr} {vlan slot : Nat}
  {station : Station} {c : StationCall} {ok : Bool}

/-- The keys of a VLAN with the same lowest bit of the last octet. -/
structure Bucket where
  vlan : Nat
  odd : Bool
  deriving DecidableEq

namespace Bucket

variable {b b' : Bucket}

/-- The bucket of a key. -/
def of (mac : MacAddr) (vlan : Nat) : Bucket := ⟨vlan, mac.o5.toNat.testBit 0⟩

/-- The home of its keys. -/
def first (b : Bucket) : Nat := b.odd.toNat * 65536 + b.vlan * 16

/-- Whether a slot may hold its keys. -/
def Holds (b : Bucket) (slot : Nat) : Prop :=
  VlanTag.IsTag b.vlan ∧ b.first ≤ slot ∧ slot < b.first + Stations.probes

theorem home_eq (mac : MacAddr) (hv : VlanTag.IsTag vlan) :
    StationEntry.home mac vlan = (of mac vlan).first := by
  have hodd : (mac.o5.toNat.testBit 0).toNat = mac.toNat % 2 := by
    rw [Nat.toNat_testBit, MacAddr.toNat]
    omega
  rw [Stations.home_eq mac hv, of, first, hodd]

theorem mem_candidates_iff (hv : VlanTag.IsTag vlan) :
    slot ∈ Stations.candidates mac vlan ↔ (of mac vlan).Holds slot := by
  rw [Stations.mem_candidates_iff hv, home_eq mac hv]
  exact (and_iff_right hv).symm

/-- A slot is in one bucket at most. -/
theorem holds_inj (h : b.Holds slot) (h' : b'.Holds slot) : b = b' := by
  obtain ⟨hv, h1, h2⟩ := h
  obtain ⟨hv', h1', h2'⟩ := h'
  obtain ⟨vlan, odd⟩ := b
  obtain ⟨vlan', odd'⟩ := b'
  change vlan ≤ 4095 at hv
  change vlan' ≤ 4095 at hv'
  simp only [first, Stations.probes] at h1 h2 h1' h2'
  cases odd <;> cases odd' <;> simp only [Bool.toNat_true, Bool.toNat_false] at h1 h2 h1' h2' <;>
    simp only [mk.injEq, reduceCtorEq, and_true, and_false] <;> omega

end Bucket

/-- The bucket of the key that a call is for. -/
def StationCall.bucket : StationCall → Bucket
  | add station => .of station.mac station.vlan
  | remove mac vlan => .of mac vlan
  | lookup mac vlan => .of mac vlan

namespace Stations

variable {b : Bucket}

/-- Two tables have the same in the slots of a bucket. -/
def AgreeOn (b : Bucket) (s s' : Stations) : Prop :=
  ∀ slot, b.Holds slot → s.slots.get? slot = s'.slots.get? slot

/-- Every station has a VLAN that keys may have. -/
def Tagged (s : Stations) : Prop :=
  ∀ slot station, s.slots.get? slot = some station → VlanTag.IsTag station.vlan

theorem tagged_fresh : fresh.Tagged := fun slot station h => by simp [fresh] at h

theorem Tagged.of_find? (h : s.Tagged) (hfind : s.find? mac vlan = some slot) : VlanTag.IsTag vlan := by
  obtain ⟨station, hslot, -, rfl⟩ := holds_iff.mp (List.find?_some hfind)
  exact h slot station hslot

/-! ### Where a key lies -/

theorem AgreeOn.find?_eq (h : AgreeOn (.of mac vlan) s s') (hv : VlanTag.IsTag vlan) :
    s.find? mac vlan = s'.find? mac vlan := by
  refine List.find?_congr fun slot hslot => ?_
  rw [holds, holds, h slot ((Bucket.mem_candidates_iff hv).mp hslot)]

/-- A key goes where it is, or else to the first candidate that is vacant. -/
theorem newSlot?_eq (s : Stations) (board : Board) (station : Station) :
    s.newSlot? board station = if VlanTag.IsTag station.vlan ∧ board.Has station.port then
      (s.find? station.mac station.vlan).or
        ((candidates station.mac station.vlan).find? fun slot => !s.slots.contains slot)
    else none := by
  unfold newSlot? place
  split
  · cases s.find? station.mac station.vlan with
    | some slot => rfl
    | none =>
        cases (candidates station.mac station.vlan).find? fun slot => !s.slots.contains slot <;> rfl
  · rfl

theorem AgreeOn.newSlot?_eq (h : AgreeOn (.of station.mac station.vlan) s s') :
    s.newSlot? board station = s'.newSlot? board station := by
  rw [Stations.newSlot?_eq, Stations.newSlot?_eq]
  by_cases hvalid : VlanTag.IsTag station.vlan ∧ board.Has station.port
  · rw [if_pos hvalid, if_pos hvalid, h.find?_eq hvalid.1]
    congr 1
    refine List.find?_congr fun slot hslot => ?_
    rw [KeyMap.contains, KeyMap.contains, h slot ((Bucket.mem_candidates_iff hvalid.1).mp hslot)]
  · rw [if_neg hvalid, if_neg hvalid]

/-! ### What becomes of the slots of a bucket -/

namespace Served

theorem tagged (h : s.Served board c ok t) (hs : s.Tagged) : t.Tagged := by
  intro slot station hslot
  cases h with
  | failed ht => exact hs slot station (ht ▸ hslot)
  | added hnew ht =>
      rw [ht] at hslot
      obtain ⟨rfl, rfl⟩ | hold := KeyMap.eq_or_get?_of_insert hslot
      · exact isTag_of_newSlot? hnew
      · exact hs slot station hold
  | removed hfind ht => exact hs slot station (KeyMap.get?_of_get?_erase (ht ▸ hslot))
  | found ht => exact hs slot station (ht ▸ hslot)

/-- A call leaves the slots of other buckets alone. -/
theorem elsewhere (h : s.Served board c ok t) (hs : s.Tagged) (hne : c.bucket ≠ b) :
    AgreeOn b t s := by
  intro slot hslot
  cases h with
  | failed ht => rw [ht]
  | added hnew ht =>
      have hown := (Bucket.mem_candidates_iff (isTag_of_newSlot? hnew)).mp (mem_candidates_of_newSlot? hnew)
      rw [ht, KeyMap.get?_insert_of_ne]
      rintro rfl
      exact hne (Bucket.holds_inj hown hslot)
  | removed hfind ht =>
      have hown := (Bucket.mem_candidates_iff (hs.of_find? hfind)).mp (mem_candidates_of_find? hfind)
      rw [ht, KeyMap.get?_erase_of_ne]
      rintro rfl
      exact hne (Bucket.holds_inj hown hslot)
  | found ht => rw [ht]

/-- What a call does to the slots of its own bucket is told from these. -/
theorem agrees (h : s.Served board c ok t) (h' : s'.Served board c ok t') (hs : s.Tagged)
    (hag : AgreeOn c.bucket s s') : AgreeOn c.bucket t t' := by
  intro slot hslot
  cases h with
  | failed ht =>
      cases h' with
      | failed ht' => rw [ht, ht', hag slot hslot]
  | added hnew ht =>
      cases h' with
      | added hnew' ht' =>
          obtain rfl := Option.some.inj (hnew.symm.trans (hag.newSlot?_eq.trans hnew'))
          rw [ht, ht', KeyMap.get?_insert, KeyMap.get?_insert, hag slot hslot]
  | removed hfind ht =>
      cases h' with
      | removed hfind' ht' =>
          have heq := hag.find?_eq (hs.of_find? hfind)
          obtain rfl := Option.some.inj (hfind.symm.trans (heq.trans hfind'))
          rw [ht, ht', KeyMap.get?_erase, KeyMap.get?_erase, hag slot hslot]
  | found ht =>
      cases h' with
      | found ht' => rw [ht, ht', hag slot hslot]

end Served

end Stations

/-! ### What is answered -/

namespace StationCall

/-- What a call is answered by a device that does whatever it is told. -/
def verdict (board : Board) (s : Stations) : StationCall → Except Error (Option Station)
  | add station =>
    if ¬ VlanTag.IsTag station.vlan then
      .error (.invalid (.vlanTag station.vlan))
    else if ¬ board.Has station.port then
      .error (.invalid (.beyondPorts station.port board.ports))
    else if s.newSlot? board station = none then
      .error (.full (.table Table.station.name))
    else
      .ok none
  | remove mac vlan =>
    if ¬ VlanTag.IsTag vlan then
      .error (.invalid (.vlanTag vlan))
    else if s.find? mac vlan = none then
      .error (.missing (.station mac vlan))
    else
      .ok none
  | lookup mac vlan => (s.lookup mac vlan).map some

/-- It is told from the slots of the call's bucket. -/
theorem verdict_congr (hag : Stations.AgreeOn c.bucket s s') : c.verdict board s = c.verdict board s' := by
  cases c with
  | add station => rw [verdict, verdict, Stations.AgreeOn.newSlot?_eq hag]
  | remove mac vlan =>
      rw [verdict, verdict]
      by_cases hv : VlanTag.IsTag vlan
      · rw [Stations.AgreeOn.find?_eq hag hv]
      · rw [if_pos hv, if_pos hv]
  | lookup mac vlan =>
      rw [verdict, verdict, Stations.lookup, Stations.lookup]
      by_cases hv : VlanTag.IsTag vlan
      · have hget : s.get? mac vlan = s'.get? mac vlan := by
          rw [Stations.get?, Stations.get?, Stations.AgreeOn.find?_eq hag hv]
          refine Option.bind_congr fun slot hfind => hag slot ?_
          exact (Bucket.mem_candidates_iff hv).mp (Stations.mem_candidates_of_find? hfind)
        rw [hget]
      · rw [if_neg hv, if_neg hv]

variable [Bus δ] {refused : δ → Prop} {bus : δ}

/-- What a call is answered, with the station that is looked up. -/
def answer (board : Board) : StationCall → Stations × δ → Except Error (Option Station)
  | add station, t => (Operation.answer (Stations.add board station) t).map fun _ => none
  | remove mac vlan, t => (Operation.answer (Stations.remove mac vlan) t).map fun _ => none
  | lookup mac vlan, t => (t.1.lookup mac vlan).map some

theorem succeeds_eq (board : Board) (c : StationCall) (t : Stations × δ) :
    c.succeeds board t = (c.answer board t).isOk := by
  cases c <;> exact (Operation.isOk_map _ _).symm

/-- A device does not forget that it has refused a command. -/
theorem serve_refused (ht : Bus.Tells refused) (board : Board) (c : StationCall) (s : Stations)
    (h : refused bus) : refused (c.serve board (s, bus)).2 := by
  cases c with
  | add station =>
      refine Ends.after (P := fun t : Stations × δ => refused t.2)
        ((Stations.add_commands board station).mono ?_ ?_)
      · rintro _ t ⟨slot, -, hw, -⟩
        have := Table.after_write ht .station slot (Stations.entry station).encode h
        rwa [Operation.after, hw] at this
      · rintro e t ⟨-, ⟨-, hbus⟩ | ⟨slot, -, hw⟩⟩
        · exact hbus ▸ h
        · have := Table.after_write ht .station slot (Stations.entry station).encode h
          rwa [Operation.after, hw] at this
  | remove mac vlan =>
      refine Ends.after (P := fun t : Stations × δ => refused t.2)
        ((Stations.remove_commands mac vlan).mono ?_ fun e t herror => herror.2 ▸ h)
      rintro _ t ⟨slot, -, -, hbus⟩
      exact hbus ▸ Table.after_clear ht .station slot h
  | lookup mac vlan => exact h

/-- A station is added where there is room, unless the device refuses. -/
theorem answer_add (ht : Bus.Tells refused) (hv : VlanTag.IsTag station.vlan)
    (hp : board.Has station.port)
    (h : ¬ refused (Operation.after (Stations.add board station) (s, bus)).2) :
    Operation.answer (Stations.add board station) (s, bus) =
      if s.newSlot? board station = none then .error (.full (.table Table.station.name)) else .ok () := by
  by_cases hcrowded : s.Crowded station.mac station.vlan
  · rw [if_pos (Stations.newSlot?_of_crowded board station hcrowded)]
    exact (Stations.answer_full_iff hv hp).mpr hcrowded
  · have hroom : s.newSlot? board station ≠ none := by
      rw [Stations.newSlot?, if_pos ⟨hv, hp⟩]
      cases hplace : s.place station.mac station.vlan with
      | held slot => exact Option.some_ne_none slot
      | vacant slot passed => exact Option.some_ne_none slot
      | nowhere passed => exact absurd ⟨passed, hplace⟩ hcrowded
    rw [if_neg hroom]
    cases hanswer : Operation.answer (Stations.add board station) (s, bus) with
    | ok _ => rfl
    | error e =>
        have hwhy := (Stations.add_ends ht board station).of_failure hanswer
        rcases hwhy with hrefused | hv' | hp' | hcrowded'
        · exact absurd hrefused h
        · exact absurd hv hv'
        · exact absurd hp hp'
        · exact absurd hcrowded' hcrowded

/-- A device that has not refused anything has left it at the verdict. -/
theorem answer_eq_verdict (ht : Bus.Tells refused) (h : ¬ refused (c.serve board (s, bus)).2) :
    c.answer board (s, bus) = c.verdict board s := by
  cases c with
  | add station =>
      rw [answer, verdict]
      by_cases hv : VlanTag.IsTag station.vlan
      · by_cases hp : board.Has station.port
        · rw [if_neg (not_not_intro hv), if_neg (not_not_intro hp), answer_add ht hv hp h]
          split <;> rfl
        · rw [if_neg (not_not_intro hv), if_pos hp, Operation.answer, Stations.add,
            if_neg (not_not_intro hv), if_pos hp]
          rfl
      · rw [if_pos hv, Operation.answer, Stations.add, if_pos hv]
        rfl
  | remove mac vlan =>
      rw [answer, verdict, Operation.answer, Stations.remove]
      by_cases hv : VlanTag.IsTag vlan
      · rw [if_neg (not_not_intro hv), if_neg (not_not_intro hv)]
        cases s.find? mac vlan <;> rfl
      · rw [if_pos hv, if_pos hv]
        rfl
  | lookup mac vlan => rfl

end StationCall

/-! ### How many keys there is room for -/

namespace Stations

variable {b : Bucket}

/-- The addresses of a bucket whose stations are there. -/
def keys (s : Stations) (b : Bucket) : Set MacAddr :=
  {mac | Bucket.of mac b.vlan = b ∧ ∃ station, s.lookup mac b.vlan = .ok station}

/-- The slots of a bucket that are taken. -/
def taken (s : Stations) (b : Bucket) : Finset Nat :=
  (Finset.Ico b.first (b.first + probes)).filter (s.slots.contains · = true)

/-- The address of the station in a slot. -/
def macAt (s : Stations) (slot : Nat) : MacAddr := ((s.slots.get? slot).map (·.mac)).getD .zero

theorem lookup_ok_iff (hd : s.Distinct) (hv : VlanTag.IsTag vlan) :
    (∃ station, s.lookup mac vlan = .ok station) ↔
      ∃ slot station, s.slots.get? slot = some station ∧ station.mac = mac ∧ station.vlan = vlan := by
  have hlookup (station : Station) : s.lookup mac vlan = .ok station ↔ s.get? mac vlan = some station := by
    rw [lookup, if_pos hv]
    cases s.get? mac vlan <;> simp
  simp only [hlookup, hd.get?_eq_some_iff, Has]
  constructor
  · rintro ⟨station, ⟨slot, hslot⟩, hkey⟩
    exact ⟨slot, station, hslot, hkey⟩
  · rintro ⟨slot, station, hslot, hkey⟩
    exact ⟨station, ⟨slot, hslot⟩, hkey⟩

/-- What is in a slot of a bucket has a key of the bucket. -/
theorem bucket_of_taken (hd : s.Distinct) (hs : s.Tagged) (hv : VlanTag.IsTag b.vlan)
    (hslot : slot ∈ s.taken b) :
    ∃ station, s.slots.get? slot = some station ∧ Bucket.of station.mac station.vlan = b := by
  obtain ⟨hmem, hcontains⟩ := Finset.mem_filter.mp hslot
  obtain ⟨station, hstation⟩ := (KeyMap.contains_iff _ _).mp hcontains
  have hown := (Bucket.mem_candidates_iff (hs slot station hstation)).mp (hd.near slot station hstation)
  exact ⟨station, hstation, Bucket.holds_inj hown ⟨hv, Finset.mem_Ico.mp hmem⟩⟩

theorem mem_taken (hd : s.Distinct) (hs : s.Tagged) (hget : s.slots.get? slot = some station) :
    slot ∈ s.taken (.of station.mac station.vlan) := by
  have hown := (Bucket.mem_candidates_iff (hs slot station hget)).mp (hd.near slot station hget)
  exact Finset.mem_filter.mpr ⟨Finset.mem_Ico.mpr hown.2, KeyMap.contains_of_get? hget⟩

theorem keys_eq_image (hd : s.Distinct) (hs : s.Tagged) (hv : VlanTag.IsTag b.vlan) :
    s.keys b = s.macAt '' s.taken b := by
  ext mac
  constructor
  · rintro ⟨hb, hok⟩
    obtain ⟨slot, station, hslot, rfl, hvlan⟩ := (lookup_ok_iff hd hv).mp hok
    refine ⟨slot, ?_, by rw [macAt, hslot]; rfl⟩
    rw [← hb, ← hvlan]
    exact mem_taken hd hs hslot
  · rintro ⟨slot, hslot, rfl⟩
    obtain ⟨station, hstation, rfl⟩ := bucket_of_taken hd hs hv hslot
    have hmac : s.macAt slot = station.mac := by rw [macAt, hstation]; rfl
    rw [hmac]
    exact ⟨rfl, (lookup_ok_iff hd hv).mpr ⟨slot, station, hstation, rfl, rfl⟩⟩

theorem macAt_injOn (hd : s.Distinct) (hs : s.Tagged) (hv : VlanTag.IsTag b.vlan) :
    Set.InjOn s.macAt (s.taken b) := by
  intro k hk k' hk' heq
  obtain ⟨a, ha, hb⟩ := bucket_of_taken hd hs hv hk
  obtain ⟨a', ha', hb'⟩ := bucket_of_taken hd hs hv hk'
  rw [macAt, macAt, ha, ha'] at heq
  exact hd.unique k k' a a' ha ha' heq (congrArg Bucket.vlan (hb.trans hb'.symm))

/-- There are as many keys of a bucket as slots of it are taken. -/
theorem encard_keys (hd : s.Distinct) (hs : s.Tagged) (hv : VlanTag.IsTag b.vlan) :
    (s.keys b).encard = (s.taken b).card := by
  rw [keys_eq_image hd hs hv, (macAt_injOn hd hs hv).encard_image, Set.encard_coe_eq_coe_finsetCard]

theorem card_taken_le (s : Stations) (b : Bucket) : (s.taken b).card ≤ 6 :=
  (Finset.card_filter_le _ _).trans_eq (by rw [Nat.card_Ico, Nat.add_sub_cancel_left]; rfl)

/-- A key that is missing is in none of its slots. -/
theorem find?_of_missing (hv : VlanTag.IsTag vlan)
    (h : s.lookup mac vlan = .error (.missing (.station mac vlan))) : s.find? mac vlan = none := by
  by_contra hsome
  obtain ⟨slot, hfind⟩ := Option.ne_none_iff_exists'.mp hsome
  obtain ⟨station, hslot⟩ := get?_of_find? hfind
  rw [lookup, if_pos hv, get?, hfind, Option.bind_some, hslot] at h
  cases h

/-- There is no room for a new key exactly if there are six others in its bucket. -/
theorem crowded_iff_six (hd : s.Distinct) (hs : s.Tagged) (hv : VlanTag.IsTag vlan)
    (h : s.lookup mac vlan = .error (.missing (.station mac vlan))) :
    s.Crowded mac vlan ↔ (s.keys (.of mac vlan)).encard = 6 := by
  have hcard : (Finset.Ico (Bucket.of mac vlan).first ((Bucket.of mac vlan).first + probes)).card = 6 := by
    rw [Nat.card_Ico, Nat.add_sub_cancel_left]
    rfl
  have hsix : (s.keys (.of mac vlan)).encard = 6 ↔ (s.taken (.of mac vlan)).card = 6 := by
    rw [encard_keys hd hs hv]
    norm_cast
  rw [crowded_iff (find?_of_missing hv h), hsix, ← hcard, taken, Finset.card_filter_eq_iff]
  refine forall_congr' fun slot => imp_congr_left ?_
  rw [Bucket.mem_candidates_iff hv, Finset.mem_Ico]
  exact and_iff_right hv

/-- A VLAN has two buckets. -/
theorem encard_vlan_le (hd : s.Distinct) (hs : s.Tagged) (hv : VlanTag.IsTag vlan) :
    {mac | ∃ station, s.lookup mac vlan = .ok station}.encard ≤ 12 := by
  have hle (odd : Bool) : (s.keys ⟨vlan, odd⟩).encard ≤ 6 := by
    rw [encard_keys hd hs hv]
    exact_mod_cast card_taken_le s _
  have hsub : {mac | ∃ station, s.lookup mac vlan = .ok station} ⊆
      s.keys ⟨vlan, false⟩ ∪ s.keys ⟨vlan, true⟩ := by
    intro mac hmac
    cases hodd : mac.o5.toNat.testBit 0 with
    | false => exact .inl ⟨by rw [Bucket.of, hodd], hmac⟩
    | true => exact .inr ⟨by rw [Bucket.of, hodd], hmac⟩
  calc {mac | ∃ station, s.lookup mac vlan = .ok station}.encard
      ≤ (s.keys ⟨vlan, false⟩ ∪ s.keys ⟨vlan, true⟩).encard := Set.encard_le_encard hsub
    _ ≤ (s.keys ⟨vlan, false⟩).encard + (s.keys ⟨vlan, true⟩).encard := Set.encard_union_le _ _
    _ ≤ 6 + 6 := add_le_add (hle false) (hle true)
    _ = 12 := by norm_num

end Stations

/-! ### Every run -/

namespace StationRun

variable [Bus δ] {refused : δ → Prop} {r : StationRun δ} {b : Bucket}

/-- What some calls are answered, one after the other. -/
def answers (board : Board) :
    StationRun δ → List StationCall → List (StationCall × Except Error (Option Station))
  | _, [] => []
  | r, c :: calls => (c, c.answer board (r.stations, r.bus)) :: answers board (r.call board c) calls

theorem run_refused (ht : Bus.Tells refused) (calls : List StationCall) (h : refused r.bus) :
    refused (calls.foldl (call board) r).bus := by
  refine List.foldlRecOn (motive := fun r => refused r.bus) calls (call board) h ?_
  intro r hr c _
  exact c.serve_refused ht board r.stations hr

/-- What the calls for a bucket are answered is what they are answered alone, by a device that does whatever
it is told. -/
theorem answers_alone (ht : Bus.Tells refused) {r' : StationRun Willing} (hr : r.stations.Tagged)
    (hag : Stations.AgreeOn b r.stations r'.stations) (calls : List StationCall)
    (hok : ¬ refused (calls.foldl (call board) r).bus) :
    (r.answers board calls).filter (·.1.bucket = b) =
      r'.answers board (calls.filter (·.bucket = b)) := by
  induction calls generalizing r r' with
  | nil => rfl
  | cons c calls ih =>
      have hserved := Stations.serve_served board r.stations r.bus c
      have htagged : (r.call board c).stations.Tagged := hserved.tagged hr
      have hnext : ¬ refused (r.call board c).bus := mt (run_refused ht calls) hok
      by_cases hc : c.bucket = b
      · -- both runs take this call, and only one of them takes any other
        subst hc
        have hanswer : c.answer board (r.stations, r.bus) = c.answer board (r'.stations, r'.bus) := by
          rw [StationCall.answer_eq_verdict ht hnext, StationCall.verdict_congr hag,
            StationCall.answer_eq_verdict tells_willing not_false]
        have hserved' := Stations.serve_served board r'.stations r'.bus c
        rw [StationCall.succeeds_eq, ← hanswer, ← StationCall.succeeds_eq] at hserved'
        have hagree : Stations.AgreeOn c.bucket (r.call board c).stations (r'.call board c).stations :=
          hserved.agrees hserved' hr hag
        rw [answers, List.filter_cons_of_pos (by simp), List.filter_cons_of_pos (by simp), answers,
          hanswer, ih htagged hagree hok]
      · rw [answers, List.filter_cons_of_neg (by simpa using hc),
          List.filter_cons_of_neg (by simpa using hc)]
        exact ih htagged (fun slot hslot => (hserved.elsewhere hr hc slot hslot).trans (hag slot hslot)) hok

/-- How many keys there is room for, and where. -/
structure Parted (board : Board) (r : StationRun δ) : Prop where
  /-- A new key is refused for want of room exactly if six others of its bucket are there. -/
  six : ∀ station, VlanTag.IsTag station.vlan → board.Has station.port →
    r.stations.lookup station.mac station.vlan = .error (.missing (.station station.mac station.vlan)) →
    (Operation.answer (Stations.add board station) (r.stations, r.bus) =
        .error (.full (.table Table.station.name)) ↔
      {mac | Bucket.of mac station.vlan = Bucket.of station.mac station.vlan ∧
        ∃ other, r.stations.lookup mac station.vlan = .ok other}.encard = 6)
  twelve : ∀ vlan, VlanTag.IsTag vlan →
    {mac | ∃ station, r.stations.lookup mac vlan = .ok station}.encard ≤ 12
  /-- The slots of a key are the six from its home on, and do not go around at the end. -/
  straight : ∀ mac vlan, VlanTag.IsTag vlan → StationEntry.home mac vlan + 6 ≤ Table.station.depth ∧
    Stations.candidates mac vlan = List.range' (StationEntry.home mac vlan) 6

theorem of_filed (board : Board) (bus : δ) (calls : List StationCall) :
    (of board bus calls).Kept ∧ (of board bus calls).stations.Tagged := by
  refine List.foldlRecOn (motive := fun r : StationRun δ => r.Kept ∧ r.stations.Tagged) calls
    (call board) ?_ ?_
  · exact ⟨kept_start bus, Stations.tagged_fresh⟩
  · rintro r ⟨hkept, htagged⟩ c -
    exact ⟨hkept.call board c, (Stations.serve_served board r.stations r.bus c).tagged htagged⟩

theorem parted (h : r.Kept) (hs : r.stations.Tagged) (board : Board) : r.Parted board where
  six _ hv hp hmissing :=
    (Stations.answer_full_iff hv hp).trans (Stations.crowded_iff_six h.distinct hs hv hmissing)
  twelve _ hv := Stations.encard_vlan_le h.distinct hs hv
  straight mac _ hv := ⟨Stations.home_add_probes_le mac hv, Stations.candidates_eq mac hv⟩

end StationRun

/-- Keys of different buckets do not contend for slots: two runs with the same calls for a bucket, on devices
that refuse nothing, are given the same answers to these, whatever else is called.  There is room for six
keys in a bucket, so for twelve in a VLAN. -/
theorem buckets_apart {δ δ' : Type} [Bus δ] [Bus δ'] (board : Board) (device : δ) (device' : δ')
    (b : Bucket) {calls calls' : List StationCall}
    (h : (StationRun.of board (Watched.start device) calls).bus.refused = false)
    (h' : (StationRun.of board (Watched.start device') calls').bus.refused = false)
    (hsame : calls.filter (·.bucket = b) = calls'.filter (·.bucket = b)) :
    ((StationRun.start (Watched.start device)).answers board calls).filter (·.1.bucket = b) =
        ((StationRun.start (Watched.start device')).answers board calls').filter (·.1.bucket = b) ∧
      (StationRun.of board (Watched.start device) calls).Parted board := by
  have halone {ε : Type} [Bus ε] (d : ε) {cs : List StationCall}
      (hd : (StationRun.of board (Watched.start d) cs).bus.refused = false) :
      ((StationRun.start (Watched.start d)).answers board cs).filter (·.1.bucket = b) =
        (StationRun.start Willing.mk).answers board (cs.filter (·.bucket = b)) :=
    StationRun.answers_alone Watched.tells_refused Stations.tagged_fresh (fun _ _ => rfl) cs
      fun hrefused => Bool.false_ne_true (hd.symm.trans hrefused)
  refine ⟨?_, ?_⟩
  · rw [halone device h, halone device' h', hsame]
  · obtain ⟨hkept, htagged⟩ := StationRun.of_filed board (Watched.start device) calls
    exact StationRun.parted hkept htagged board

/-- Seven stations of one bucket. -/
def StationCall.crowding : List StationCall :=
  (List.range 7).map fun i => .add ⟨⟨2, 0, 0, 0, 0, UInt8.ofNat (2 * i)⟩, 1, default, true⟩

/-- The last of seven is refused for want of room, and so it is after a station of another VLAN. -/
theorem buckets_apart_crowded :
    let board : Board := ⟨48, Board.defaultStem, Board.defaultMacBase⟩
    let calls := .add ⟨⟨2, 0, 0, 0, 0, 0⟩, 2, default, true⟩ :: StationCall.crowding
    let run := StationRun.of board (Watched.start Willing.mk)
    (run calls).bus.refused = false ∧ (run StationCall.crowding).bus.refused = false ∧
      calls.filter (·.bucket = ⟨1, false⟩) = StationCall.crowding.filter (·.bucket = ⟨1, false⟩) ∧
      (((StationRun.start (Watched.start Willing.mk)).answers board calls).filter
        (·.1.bucket = ⟨1, false⟩))[6]?.map (·.2) = some (.error (.full (.table Table.station.name))) ∧
      (run calls).Parted board := by
  intro board calls run
  have h : (run calls).bus.refused = false := by decide +kernel
  have h' : (run StationCall.crowding).bus.refused = false := by decide +kernel
  have hsame : calls.filter (·.bucket = ⟨1, false⟩) =
      StationCall.crowding.filter (·.bucket = ⟨1, false⟩) := List.filter_cons_of_neg (by decide)
  obtain ⟨hequal, hparted⟩ := buckets_apart board Willing.mk Willing.mk ⟨1, false⟩ h h' hsame
  refine ⟨h, h', hsame, ?_, hparted⟩
  rw [hequal]
  decide +kernel

end ControlPlane
