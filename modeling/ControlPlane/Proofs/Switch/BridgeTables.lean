import ControlPlane.Proofs.Switch.SharedSlots

/-! # What the tables of stations and traps spell

A station whose slot is where traps are overwrites what a trap has, and the other way round.  Until a
request is taken that does so (`BridgeRequest.Collides`), the chip's tables spell exactly what is
recorded; that request makes an empty slot of the other table spell something.

* **Step.**  `Switch.Unshared.serve`: a request that does not collide keeps the tables apart.
  `Switch.Unshared.not_shown`: one that does spells something in an empty slot.
* **Run.**  `Switch.bridge_shown_iff`: during which runs the tables spell what is recorded.  Slots of
  stations that no trap shares always do, and those of traps do as long as no station runs over them. -/

namespace ControlPlane

open Operation (Ends)

/-! ### What the tables spell -/

section spelled

/-- The table of stations spells what is recorded of a slot. -/
def Switch.StationShown (sw : Switch Channel) (slot : Nat) : Prop :=
  StationEntry.decode ((Site.entry .station slot).stored sw.bus.memory) =
    some ((sw.stations.slots.get? slot).map Stations.entry)

/-- The table of traps spells what is recorded of a slot, if that fits its fields. -/
def Switch.TrapShown (sw : Switch Channel) (slot : Nat) : Prop :=
  (∀ trap, sw.traps.slots.get? slot = some trap → trap.Fits →
    TrapEntry.decode ((Site.entry .trap slot).stored sw.bus.memory) = some (some trap)) ∧
  (sw.traps.slots.get? slot = none →
    TrapEntry.decode ((Site.entry .trap slot).stored sw.bus.memory) = some none)

/-- Both tables spell what is recorded. -/
structure Switch.BridgeShown (sw : Switch Channel) : Prop where
  station : ∀ slot, slot < Table.station.depth → sw.StationShown slot
  trap : ∀ slot, slot < Table.trap.depth → sw.TrapShown slot

variable {sw : Switch Channel} {F : Site → Prop}

theorem Switch.Reflects.stationShown (h : sw.Reflects Backing.takesAll Site.Faulty F) (hp : sw.Placed)
    {slot : Nat} (hF : F (.entry .station slot)) (hs : slot < Table.station.depth) :
    sw.StationShown slot := by
  have hmemory := Channel.memory_backing sw.bus
  unfold StationShown
  cases hg : sw.stations.slots.get? slot with
  | some station =>
      have hrecord : sw.records (.entry .station slot) (Stations.entry station).encode := by
        rw [Switch.records, hg]
        rfl
      have hstored := h.reflected.stored hF hrecord
      have hfits := Stations.entry_fits (hp.isTag slot station hg)
      rw [← hmemory]
      exact (congrArg _ hstored).trans (StationEntry.decode_encode hfits)
  | none =>
      have hclean := h.reflected.clean h.reflected.not_faulty hF hs fun ws hws => by
        rw [Switch.records, hg] at hws
        cases hws
      rw [← hmemory]
      exact (congrArg _ hclean).trans StationEntry.decode_blank

theorem Switch.Reflects.trapShown (h : sw.Reflects Backing.takesAll Site.Faulty F) {slot : Nat}
    (hF : F (.entry .trap slot)) (hs : slot < Table.trap.depth) : sw.TrapShown slot := by
  have hmemory := Channel.memory_backing sw.bus
  refine ⟨fun trap hg hfits => ?_, fun hg => ?_⟩
  · have hrecord : sw.records (.entry .trap slot) trap.encode := by
      rw [Switch.records, hg]
      rfl
    have hstored := h.reflected.stored hF hrecord
    rw [← hmemory]
    exact (congrArg _ hstored).trans (TrapEntry.decode_encode hfits)
  · have hclean := h.reflected.clean h.reflected.not_faulty hF hs fun ws hws => by
      rw [Switch.records, hg] at hws
      cases hws
    rw [← hmemory]
    exact (congrArg _ hclean).trans TrapEntry.decode_blank

/-- A station is added whenever there is a slot for it. -/
theorem Switch.Reflects.answer_addStation {refused : Channel → Prop}
    (h : sw.Reflects Backing.takesAll refused F) {station : Station} {slot : Nat}
    (hnew : sw.stations.newSlot? sw.board station = some slot) :
    Operation.answer (Switch.addStation station) sw = .ok () := by
  have hs := Stations.lt_depth_of_mem_candidates (Stations.mem_candidates_of_newSlot? hnew)
  have hwrite := h.reflected.writeEntry_succeeds .station (Stations.entry station).encode hs
    (Fields.length_encode _ _)
  have hends : Ends (Switch.addStation station) sw (fun _ _ => True) fun _ _ => False := by
    change Ends (Switch.onStations (Stations.add sw.board station)) sw _ _
    refine Ends.focus ((Stations.add_commands sw.board station).mono (fun _ _ _ => trivial) ?_)
    rintro e t ⟨-, ⟨hnone, -⟩ | ⟨slot', hnew', hb⟩⟩
    · cases hnone.symm.trans hnew
    · cases hnew'.symm.trans hnew
      exact hwrite.of_error hb
  obtain ⟨a, ha, -⟩ := hends.answers
  exact ha

/-- So is a trap. -/
theorem Switch.Reflects.answer_addTrap {refused : Channel → Prop}
    (h : sw.Reflects Backing.takesAll refused F) {trap : TrapEntry} {slot : Nat}
    (hnew : sw.traps.newSlot? trap = some slot) :
    ∃ slot, Operation.answer (Switch.addTrap trap) sw = .ok slot := by
  have hwrite := h.reflected.writeEntry_succeeds .trap trap.encode (Traps.newSlot?_free hnew).1
    (Fields.length_encode _ _)
  have hends : Ends (Switch.addTrap trap) sw (fun _ _ => True) fun _ _ => False := by
    refine Ends.focus ((Traps.add_commands trap).mono (fun _ _ _ => trivial) ?_)
    rintro e t ⟨-, ⟨hnone, -⟩ | ⟨slot', hnew', hb⟩⟩
    · cases hnone.symm.trans hnew
    · cases hnew'.symm.trans hnew
      exact hwrite.of_error hb
  obtain ⟨a, ha, -⟩ := hends.answers
  exact ⟨a, ha⟩

end spelled

/-! ### Requests that make the tables collide -/

/-- A request that writes words which both tables have. -/
def BridgeRequest.Collides (sw : Switch Channel) : BridgeRequest → Prop
  | addStation station => Stations.SharesKey station.mac station.vlan ∧
      Operation.answer (Switch.addStation station) sw = .ok ()
  | addTrap trap => ∃ slot, Operation.answer (Switch.addTrap trap) sw = .ok slot
  | removeStation _ _ => False
  | removeTrap _ => False

/-- Both tables spell what is recorded, and no words that both have are in use. -/
structure Switch.Unshared (sw : Switch Channel) : Prop where
  reflects : sw.Reflects Backing.takesAll Site.Faulty Site.Bridged
  placed : sw.Placed
  station : ∀ slot station, sw.stations.slots.get? slot = some station → ¬ Stations.Shared slot
  trap : ∀ slot, sw.traps.slots.get? slot = none

section collisions

variable {sw : Switch Channel} {request : BridgeRequest}

theorem Switch.Unshared.shown (h : sw.Unshared) : sw.BridgeShown where
  station _ hs := h.reflects.stationShown h.placed (.inl rfl) hs
  trap _ hs := h.reflects.trapShown (.inr rfl) hs

/-- A station that does not collide goes to a slot that no trap shares. -/
theorem Switch.Reflects.own_slot {refused : Channel → Prop} {F : Site → Prop}
    (h : sw.Reflects Backing.takesAll refused F) {station : Station}
    (hc : ¬ (BridgeRequest.addStation station).Collides sw) {slot : Nat}
    (hnew : sw.stations.newSlot? sw.board station = some slot) : ¬ Stations.Shared slot := by
  intro hshared
  have hkey := (Stations.shared_iff (Stations.isTag_of_newSlot? hnew)
    (Stations.mem_candidates_of_newSlot? hnew)).mp hshared
  exact hc ⟨hkey, h.answer_addStation hnew⟩

theorem Switch.Unshared.serve (h : sw.Unshared) (hc : ¬ request.Collides sw) :
    (request.serve sw).Unshared := by
  have hadds := request.serve_adds sw
  refine ⟨?_, h.placed.serve request, fun slot station hs => ?_, fun slot => ?_⟩
  · cases request with
    | addStation station =>
        exact Switch.addStation_reflects Site.tells_faulty h.reflects station fun slot hnew =>
          Site.aloof_of_own (h.reflects.own_slot hc hnew)
    | removeStation mac vlan =>
        refine Switch.removeStation_reflects Site.tells_faulty h.reflects mac vlan fun slot hf => ?_
        obtain ⟨station, hs⟩ := Stations.get?_of_find? hf
        exact Site.aloof_of_own (h.station slot station hs)
    | addTrap trap =>
        exact Switch.addTrap_reflects Site.tells_faulty h.reflects trap fun slot hnew =>
          (hc (h.reflects.answer_addTrap hnew)).elim
    | removeTrap slot =>
        refine Switch.removeTrap_reflects Site.tells_faulty h.reflects slot fun _ hcontains => ?_
        obtain ⟨trap, ht⟩ := (KeyMap.contains_iff _ _).mp hcontains
        cases (h.trap slot).symm.trans ht
  · rcases hadds.station slot station hs with hold | ⟨rfl, hnew, -⟩
    · exact h.station slot station hold
    · exact h.reflects.own_slot hc hnew
  · cases hs : (request.serve sw).traps.slots.get? slot with
    | none => rfl
    | some trap =>
        rcases hadds.trap slot trap hs with hold | ⟨rfl, -, hok⟩
        · cases (h.trap slot).symm.trans hold
        · exact (hc ⟨slot, hok⟩).elim

/-- A station that was put where a trap's first words are makes the trap's empty slot spell one. -/
theorem Switch.Unshared.trap_appears (h : sw.Unshared) {station : Station}
    (hkey : Stations.SharesKey station.mac station.vlan)
    (hok : Operation.answer (Switch.addStation station) sw = .ok ()) :
    ¬ (Operation.after (Switch.addStation station) sw).BridgeShown := by
  intro hshown
  obtain ⟨slot, hnew, hslots, htraps⟩ := (Switch.addStation_slots sw station).of_answer hok
  have hv := Stations.isTag_of_newSlot? hnew
  have hslot : slot = StationEntry.home station.mac station.vlan := by
    refine Stations.newSlot?_eq_home (fun k hk => ?_) hnew
    cases hs : sw.stations.slots.get? k with
    | none => rfl
    | some other =>
        exact (h.station k other hs ((Stations.shared_iff hv hk).mpr hkey)).elim
  obtain ⟨heven, hlow, hhigh⟩ := hkey
  rw [Stations.home_eq _ hv, heven, Nat.zero_mul, Nat.zero_add] at hslot
  obtain ⟨k, hk, rfl⟩ : ∃ k < Table.trap.depth, slot = 8192 + 2 * k := by
    refine ⟨8 * station.vlan - 4096, ?_, ?_⟩
    · change _ < 512
      omega
    · omega
  have hslot : sw.Reflects Backing.takesAll Site.Faulty (· = .entry .station (8192 + 2 * k)) :=
    ⟨h.reflects.intact, h.reflects.reflected.restrict fun _ hs => hs ▸ .inl rfl⟩
  have hafter := Switch.addStation_reflects Site.tells_faulty hslot station
    fun slot' hnew' u hu _ hne => by
      cases hnew.symm.trans hnew'
      exact (hne hu).elim
  have hrecord : (Operation.after (Switch.addStation station) sw).records
      (.entry .station (8192 + 2 * k)) (Stations.entry station).encode := by
    rw [Switch.records, hslots, KeyMap.get?_insert_self]
    rfl
  have hstored := hafter.reflected.stored rfl hrecord
  have hmarked := (Stations.entry station).marked_encode
  rw [← hstored, Site.marked_shared_iff, Channel.memory_backing] at hmarked
  have hempty : (Operation.after (Switch.addStation station) sw).traps.slots.get? k = none := by
    rw [htraps]
    exact h.trap k
  exact TrapEntry.decode_ne_none hmarked ((hshown.trap k hk).2 hempty)

/-- A trap makes the empty slot of a station spell one. -/
theorem Switch.Unshared.station_appears (h : sw.Unshared) {trap : TrapEntry} {k : Nat}
    (hok : Operation.answer (Switch.addTrap trap) sw = .ok k) :
    ¬ (Operation.after (Switch.addTrap trap) sw).BridgeShown := by
  intro hshown
  obtain ⟨hnew, hslots, hstations⟩ := (Switch.addTrap_slots sw trap).of_answer hok
  have hk : k < 512 := (Traps.newSlot?_free hnew).1
  have hslot : sw.Reflects Backing.takesAll Site.Faulty (· = .entry .trap k) :=
    ⟨h.reflects.intact, h.reflects.reflected.restrict fun _ hs => hs ▸ .inr rfl⟩
  have hafter := Switch.addTrap_reflects Site.tells_faulty hslot trap
    fun slot' hnew' u hu _ hne => by
      cases hnew.symm.trans hnew'
      exact (hne hu).elim
  have hrecord : (Operation.after (Switch.addTrap trap) sw).records (.entry .trap k) trap.encode := by
    rw [Switch.records, hslots, KeyMap.get?_insert_self]
    rfl
  have hstored := hafter.reflected.stored rfl hrecord
  have hmarked := trap.marked_encode
  rw [← hstored, ← Site.marked_shared_iff, Channel.memory_backing] at hmarked
  have hdepth : 8192 + 2 * k < Table.station.depth := by
    change _ < 131072
    omega
  have hempty : (Operation.after (Switch.addTrap trap) sw).stations.slots.get? (8192 + 2 * k) =
      none := by
    rw [hstations]
    cases hs : sw.stations.slots.get? (8192 + 2 * k) with
    | none => rfl
    | some station =>
        exact (h.station _ station hs ⟨Nat.le_add_right _ _, by omega⟩).elim
  have hspelled := hshown.station _ hdepth
  rw [Switch.StationShown, hempty] at hspelled
  exact StationEntry.decode_ne_none hmarked hspelled

theorem Switch.Unshared.not_shown (h : sw.Unshared) (hc : request.Collides sw) :
    ¬ (request.serve sw).BridgeShown := by
  cases request with
  | addStation station => exact h.trap_appears hc.1 hc.2
  | removeStation mac vlan => exact hc.elim
  | addTrap trap =>
      obtain ⟨k, hok⟩ := hc
      exact h.station_appears hok
  | removeTrap slot => exact hc.elim

end collisions

/-! ### A chip that takes no write -/

/-- Nothing is recorded, nothing was written, and nothing will be. -/
structure Switch.Untouched (sw : Switch Channel) : Prop where
  reflects : sw.Reflects Backing.takesNone Site.Faulty Site.OwnStation
  memory : (MemoryBus.backing sw.bus).memory = .clear
  station : ∀ slot, sw.stations.slots.get? slot = none
  trap : ∀ slot, sw.traps.slots.get? slot = none

section untouched

variable {sw : Switch Channel}

theorem Switch.Untouched.prompt (h : sw.Untouched) : (MemoryBus.backing sw.bus).stalls = false :=
  h.reflects.reflected.prompt (s := .entry .station 0) ⟨rfl, by simp [Stations.Shared]⟩

theorem Switch.Untouched.shown (h : sw.Untouched) : sw.BridgeShown := by
  have hblank (s : Site) : s.stored sw.bus.memory = s.blank := by
    rw [← Channel.memory_backing, h.memory, Site.stored_clear]
  refine ⟨fun slot _ => ?_, fun slot _ => ⟨fun trap ht => ?_, fun _ => ?_⟩⟩
  · rw [StationShown, h.station slot, hblank]
    exact StationEntry.decode_blank
  · cases (h.trap slot).symm.trans ht
  · rw [hblank]
    exact TrapEntry.decode_blank

theorem Switch.Untouched.addStation_fails (h : sw.Untouched) (station : Station) :
    Ends (Switch.addStation station) sw (fun _ _ => False)
      fun _ sw' => MemoryBus.backing sw'.bus = MemoryBus.backing sw.bus := by
  change Ends (Switch.onStations (Stations.add sw.board station)) sw _ _
  have hwrite {slot : Nat} (hnew : sw.stations.newSlot? sw.board station = some slot) :=
    h.reflects.reflected.writeEntry_fails .station (Stations.entry station).encode
      (Stations.lt_depth_of_mem_candidates (Stations.mem_candidates_of_newSlot? hnew))
      (Fields.length_encode _ _)
  refine Ends.focus ((Stations.add_commands sw.board station).mono ?_ ?_)
  · rintro _ t ⟨slot, hnew, hb, -⟩
    exact (hwrite hnew).of_ok hb
  · rintro e t ⟨-, ⟨-, hbus⟩ | ⟨slot, hnew, hb⟩⟩
    · exact congrArg MemoryBus.backing hbus
    · exact (hwrite hnew).of_error hb h.prompt

theorem Switch.Untouched.addTrap_fails (h : sw.Untouched) (trap : TrapEntry) :
    Ends (Switch.addTrap trap) sw (fun _ _ => False)
      fun _ sw' => MemoryBus.backing sw'.bus = MemoryBus.backing sw.bus := by
  have hwrite {slot : Nat} (hnew : sw.traps.newSlot? trap = some slot) :=
    h.reflects.reflected.writeEntry_fails .trap trap.encode (Traps.newSlot?_free hnew).1
      (Fields.length_encode _ _)
  refine Ends.focus ((Traps.add_commands trap).mono ?_ ?_)
  · rintro slot t ⟨hnew, hb, -⟩
    exact (hwrite hnew).of_ok hb
  · rintro e t ⟨-, ⟨-, hbus⟩ | ⟨slot, hnew, hb⟩⟩
    · exact congrArg MemoryBus.backing hbus
    · exact (hwrite hnew).of_error hb h.prompt

theorem Switch.Untouched.not_collides (h : sw.Untouched) (request : BridgeRequest) :
    ¬ request.Collides sw := by
  cases request with
  | addStation station => exact fun hc => (h.addStation_fails station).of_answer hc.2
  | removeStation mac vlan => exact id
  | addTrap trap =>
      rintro ⟨slot, hok⟩
      exact (h.addTrap_fails trap).of_answer hok
  | removeTrap slot => exact id

theorem Switch.Untouched.removeStation_fails (h : sw.Untouched) (mac : MacAddr) (vlan : Nat) :
    Ends (Switch.removeStation mac vlan) sw (fun _ _ => False)
      fun _ sw' => MemoryBus.backing sw'.bus = MemoryBus.backing sw.bus := by
  refine Ends.focus ((Stations.remove_commands mac vlan).mono ?_ ?_)
  · rintro _ t ⟨slot, hfind, -⟩
    obtain ⟨station, hs⟩ := Stations.get?_of_find? hfind
    cases (h.station slot).symm.trans hs
  · rintro e t ⟨-, hbus⟩
    exact congrArg MemoryBus.backing hbus

theorem Switch.Untouched.removeTrap_fails (h : sw.Untouched) (slot : Nat) :
    Ends (Switch.removeTrap slot) sw (fun _ _ => False)
      fun _ sw' => MemoryBus.backing sw'.bus = MemoryBus.backing sw.bus := by
  refine Ends.focus ((Traps.remove_commands slot).mono ?_ ?_)
  · rintro _ t ⟨-, hcontains, -⟩
    obtain ⟨trap, ht⟩ := (KeyMap.contains_iff _ _).mp hcontains
    cases (h.trap slot).symm.trans ht
  · rintro e t rfl
    rfl

/-- No request changes the memory. -/
theorem Switch.Untouched.backing_eq (h : sw.Untouched) (request : BridgeRequest) :
    MemoryBus.backing (request.serve sw).bus = MemoryBus.backing sw.bus := by
  have hfailed {α : Type} {op : Operation (Switch Channel) α}
      (hends : Ends op sw (fun _ _ => False)
        fun _ sw' => MemoryBus.backing sw'.bus = MemoryBus.backing sw.bus) :
      MemoryBus.backing (Operation.after op sw).bus = MemoryBus.backing sw.bus :=
    Ends.after (hends.mono (fun _ _ hf => hf.elim) fun _ _ he => he)
  cases request with
  | addStation station => exact hfailed (h.addStation_fails station)
  | removeStation mac vlan => exact hfailed (h.removeStation_fails mac vlan)
  | addTrap trap => exact hfailed (h.addTrap_fails trap)
  | removeTrap slot => exact hfailed (h.removeTrap_fails slot)

theorem Switch.Untouched.serve (h : sw.Untouched) (request : BridgeRequest) :
    (request.serve sw).Untouched := by
  have hadds := request.serve_adds sw
  refine ⟨request.serve_reflects Site.tells_faulty h.reflects fun _ hs => hs.aloof_ownStation,
    ?_, ?_, ?_⟩
  · rw [h.backing_eq request]
    exact h.memory
  · intro slot
    cases hs : (request.serve sw).stations.slots.get? slot with
    | none => rfl
    | some station =>
        rcases hadds.station slot station hs with hold | ⟨-, -, hok⟩
        · cases (h.station slot).symm.trans hold
        · exact ((h.addStation_fails station).of_answer hok).elim
  · intro slot
    cases hs : (request.serve sw).traps.slots.get? slot with
    | none => rfl
    | some trap =>
        rcases hadds.trap slot trap hs with hold | ⟨-, -, hok⟩
        · cases (h.trap slot).symm.trans hold
        · exact ((h.addTrap_fails trap).of_answer hok).elim

end untouched

/-! ### Every run -/

section run

variable {sw : Switch Channel} {requests : List BridgeRequest}

/-- The switch after a list of requests. -/
def Switch.bridged (sw : Switch Channel) (requests : List BridgeRequest) : Switch Channel :=
  requests.foldl (fun sw request => request.serve sw) sw

/-- Where every write is taken, the tables spell what is recorded until a request collides. -/
theorem Switch.Unshared.shown_iff (h : sw.Unshared) :
    (∀ k ≤ requests.length, (sw.bridged (requests.take k)).BridgeShown) ↔
      ∀ (k : Nat) (request : BridgeRequest), requests[k]? = some request →
        ¬ request.Collides (sw.bridged (requests.take k)) := by
  constructor
  · intro hshown
    have hclash (k : Nat) (request : BridgeRequest) (hk : requests[k]? = some request)
        (hu : (sw.bridged (requests.take k)).Unshared) :
        ¬ request.Collides (sw.bridged (requests.take k)) := by
      intro hc
      have hnext := hshown (k + 1) (List.getElem?_eq_some_iff.mp hk).1
      rw [bridged, foldl_take_succ _ sw hk] at hnext
      exact hu.not_shown hc hnext
    have hunshared := foldl_take_holds h fun k request hk hu => hu.serve (hclash k request hk hu)
    intro k request hk
    have hle := Nat.le_of_lt (List.getElem?_eq_some_iff.mp hk).1
    exact hclash k request hk (hunshared k hle)
  · intro hnone k hk
    exact (foldl_take_holds h (fun k request hk hu => hu.serve (hnone k request hk)) k hk).shown

theorem Switch.Untouched.bridged (h : sw.Untouched) :
    ∀ k ≤ requests.length, (sw.bridged (requests.take k)).Untouched :=
  foldl_take_holds h fun _ request _ hu => hu.serve request

/-- The stations that no trap shares words with are spelled as they are recorded. -/
structure Switch.OwnKept (sw : Switch Channel) : Prop where
  reflects : sw.Reflects Backing.takesAll Site.Faulty Site.OwnStation
  placed : sw.Placed

theorem Switch.OwnKept.serve (h : sw.OwnKept) (request : BridgeRequest) :
    (request.serve sw).OwnKept :=
  ⟨request.serve_reflects Site.tells_faulty h.reflects fun _ hs => hs.aloof_ownStation,
    h.placed.serve request⟩

/-- The traps are spelled as they are recorded, and no station is where they are. -/
structure Switch.TrapsKept (sw : Switch Channel) : Prop where
  reflects : sw.Reflects Backing.takesAll Site.Faulty Site.OfTrap
  station : ∀ slot station, sw.stations.slots.get? slot = some station → ¬ Stations.Shared slot

theorem Switch.TrapsKept.serve (h : sw.TrapsKept) (request : BridgeRequest)
    (hc : ∀ station, request = .addStation station →
      ¬ (BridgeRequest.addStation station).Collides sw) : (request.serve sw).TrapsKept := by
  have haloof {slot : Nat} (hown : ¬ Stations.Shared slot) :
      (Site.entry .station slot).Aloof Site.OfTrap := fun u hu =>
    Site.aloof_of_own hown u (Site.bridged_of_trap hu)
  refine ⟨?_, fun slot station hs => ?_⟩
  · cases request with
    | addStation station =>
        exact Switch.addStation_reflects Site.tells_faulty h.reflects station fun slot hnew =>
          haloof (h.reflects.own_slot (hc station rfl) hnew)
    | removeStation mac vlan =>
        refine Switch.removeStation_reflects Site.tells_faulty h.reflects mac vlan fun slot hf => ?_
        obtain ⟨station, hs⟩ := Stations.get?_of_find? hf
        exact haloof (h.station slot station hs)
    | addTrap trap =>
        exact Switch.addTrap_reflects Site.tells_faulty h.reflects trap fun slot _ =>
          Site.aloof_trap slot
    | removeTrap slot =>
        exact Switch.removeTrap_reflects Site.tells_faulty h.reflects slot fun _ _ =>
          Site.aloof_trap slot
  · rcases (request.serve_adds sw).station slot station hs with hold | ⟨hr, hnew, -⟩
    · exact h.station slot station hold
    · exact h.reflects.own_slot (hc station hr) hnew

end run

/-- After every run of requests about stations and traps on a fresh chip without faults: both tables
spell what is recorded throughout exactly if no request is taken that writes words which both have;
the slots of stations that no trap shares always do; and those of traps do as long as no station is
put where traps are. -/
theorem Switch.bridge_shown_iff (board : Board) {settings : ChannelSettings} {base size : Nat}
    {ch : Channel} (hopen : Channel.open? settings (.emulated (.fresh base size)) = .ok ch)
    (requests : List BridgeRequest) :
    let sw (k : Nat) := (Switch.fresh board ch).bridged (requests.take k)
    ((∀ k ≤ requests.length, (sw k).BridgeShown) ↔
      ∀ (k : Nat) (request : BridgeRequest), requests[k]? = some request →
        ¬ request.Collides (sw k)) ∧
    (∀ k ≤ requests.length, ∀ slot, slot < Table.station.depth → ¬ Stations.Shared slot →
      (sw k).StationShown slot) ∧
    ((∀ (k : Nat) (station : Station), requests[k]? = some (.addStation station) →
        ¬ (BridgeRequest.addStation station).Collides (sw k)) →
      ∀ k ≤ requests.length, ∀ slot, slot < Table.trap.depth → (sw k).TrapShown slot) := by
  intro sw
  have hclear := Channel.clear_of_open hopen
  have hplaced := placed_fresh board ch
  have hstation (slot : Nat) : (Switch.fresh board ch).stations.slots.get? slot = none :=
    KeyMap.get?_empty slot
  have htrap (slot : Nat) : (Switch.fresh board ch).traps.slots.get? slot = none :=
    KeyMap.get?_empty slot
  have hreflects (F : Site → Prop) (hF : ∀ block, ¬ F (.enables block)) :
      (Switch.fresh board ch).Reflects (MemoryBus.backing ch).takes Site.Faulty F :=
    fresh_reflects board hclear fun block hb => (hF block hb).elim
  rcases Channel.takes_of_open hopen with htakes | htakes
  · change (MemoryBus.backing ch).takes = _ at htakes
    rw [htakes] at hreflects
    have hunshared : (Switch.fresh board ch).Unshared :=
      ⟨hreflects Site.Bridged fun _ => id, hplaced,
        (fun slot station hs => by cases (hstation slot).symm.trans hs), htrap⟩
    have hown : (Switch.fresh board ch).OwnKept := ⟨hreflects Site.OwnStation fun _ => id, hplaced⟩
    have htraps : (Switch.fresh board ch).TrapsKept :=
      ⟨hreflects Site.OfTrap fun _ => id, fun slot station hs => by
        cases (hstation slot).symm.trans hs⟩
    refine ⟨hunshared.shown_iff, fun k hk slot hs hslot => ?_, fun hnone k hk slot hs => ?_⟩
    · have hkept : (sw k).OwnKept :=
        foldl_take_holds hown (fun _ request _ ho => ho.serve request) k hk
      exact hkept.reflects.stationShown hkept.placed ⟨rfl, hslot⟩ hs
    · have hkept : (sw k).TrapsKept := foldl_take_holds htraps (fun k request hrequest ho =>
        ho.serve request fun station hr => hnone k station (hr ▸ hrequest)) k hk
      exact hkept.reflects.trapShown rfl hs
  · change (MemoryBus.backing ch).takes = _ at htakes
    rw [htakes] at hreflects
    have hstart : (Switch.fresh board ch).Untouched :=
      ⟨hreflects Site.OwnStation fun _ => id, hclear.memory, hstation, htrap⟩
    refine ⟨⟨fun _ k request hk => ?_, fun _ k hk => ?_⟩, fun k hk slot hs _ => ?_,
      fun _ k hk slot hs => ?_⟩
    · exact (hstart.bridged k (Nat.le_of_lt (List.getElem?_eq_some_iff.mp hk).1)).not_collides request
    · exact (hstart.bridged k hk).shown
    · exact (hstart.bridged k hk).shown.station slot hs
    · exact (hstart.bridged k hk).shown.trap slot hs

/-- The trap for a protocol of bridges, and a station of VLAN 5, far from the traps. -/
def BridgeRequest.separated : List BridgeRequest :=
  [.addTrap Traps.bridgeProtocol, .addStation ⟨⟨0, 0, 0, 0, 0, 2⟩, 5, default, true⟩]

theorem Switch.bridge_shown_separated :
    let sw := (Switch.fresh ⟨48, Board.defaultStem, Board.defaultMacBase⟩ Channel.driven).bridged
      BridgeRequest.separated
    sw.traps.slots.get? 0 = some Traps.bridgeProtocol ∧
      (sw.stations.slots.get? 80).isSome ∧ sw.TrapShown 0 ∧ sw.StationShown 80 := by
  have hopen : Channel.open? ⟨.driver, 500, 1000, true⟩ (.emulated (.fresh 0 256)) =
      .ok Channel.driven := rfl
  obtain ⟨-, hstation, htrap⟩ := bridge_shown_iff
    ⟨48, Board.defaultStem, Board.defaultMacBase⟩ hopen BridgeRequest.separated
  have hapart (k : Nat) (station : Station)
      (hk : BridgeRequest.separated[k]? = some (.addStation station)) : station.vlan = 5 := by
    rcases k with _ | _ | k
    · cases hk
    · cases hk
      rfl
    · cases hk
  have hshown := htrap fun k station hk hc => by
    have hlow : 512 ≤ station.vlan := hc.1.2.1
    rw [hapart k station hk] at hlow
    exact absurd hlow (by decide)
  refine ⟨by decide +kernel, by decide +kernel, hshown 2 (by decide) 0 (by decide), ?_⟩
  exact hstation 2 (by decide) 80 (by decide) (by simp [Stations.Shared])

/-- The same trap, and a station whose key leads to the words that the trap has. -/
def BridgeRequest.trampled : List BridgeRequest :=
  [.addTrap Traps.bridgeProtocol, .addStation ⟨⟨0, 0, 0, 0, 0, 2⟩, 512, default, true⟩]

/-- A station overwrites a trap. -/
theorem Switch.trap_trampled :
    let sw (k : Nat) := (Switch.fresh ⟨48, Board.defaultStem, Board.defaultMacBase⟩
      Channel.driven).bridged (BridgeRequest.trampled.take k)
    (sw 2).traps.slots.get? 0 = some Traps.bridgeProtocol ∧ Traps.bridgeProtocol.Fits ∧
      TrapEntry.decode ((Site.entry .trap 0).stored (sw 2).bus.memory) ≠
        some (some Traps.bridgeProtocol) ∧
      ¬ ∀ k ≤ BridgeRequest.trampled.length, (sw k).BridgeShown := by
  intro sw
  have htrap : (sw 2).traps.slots.get? 0 = some Traps.bridgeProtocol := by decide +kernel
  have hfits : Traps.bridgeProtocol.Fits := by decide
  have hspelled : TrapEntry.decode ((Site.entry .trap 0).stored (sw 2).bus.memory) ≠
      some (some Traps.bridgeProtocol) := by decide +kernel
  exact ⟨htrap, hfits, hspelled, fun h =>
    hspelled (((h 2 (Nat.le_refl 2)).trap 0 (by decide)).1 _ htrap hfits)⟩

end ControlPlane
