import ControlPlane.Proofs.Switch.Runs
import ControlPlane.Proofs.Table.Residue

/-! # What a failed creation leaves in the chip

Whatever is created, the chip is told of it entry by entry, and a creation that fails takes back what the
chip has reported to have taken.  A group takes back everything, also what nothing was heard of.  So an
entry that was all zero is not any more exactly if it is another creation, and its first write was made by
a chip that is stalled (`Creation.Strays`).

* **Step.**  `Creation.attempt_leaves`, on any switch whose record is intact.
* **Run.**  `Switch.sprouts_iff`: after every run of requests, on a chip with any faults. -/

namespace ControlPlane

open Operation (Ends)

/-! ### Groups -/

namespace Routing

variable {δ : Type} [Bus δ] [MemoryBus δ] {bus bus' bus'' : δ}

/-- Writes to places have changed nothing but these places, and those only if they are not refused. -/
structure WroteMembers (place count : Nat) (bus bus' : δ) : Prop where
  sound : MemoryBus.Sound bus'
  refuses_eq : (MemoryBus.backing bus').refuses = (MemoryBus.backing bus).refuses
  stalls_eq : (MemoryBus.backing bus').stalls = (MemoryBus.backing bus).stalls
  read_eq : ∀ a, (MemoryBus.backing bus').memory.read a = (MemoryBus.backing bus).memory.read a ∨
    ∃ n, place ≤ n ∧ n < place + count ∧
      a ∈ wordAddresses (Site.entry .member n).address (Site.entry .member n).words ∧
      (MemoryBus.backing bus).refuses (Site.entry .member n).address (Site.entry .member n).words = false

theorem wroteMembers_of_wrote {place : Nat} (count : Nat) {words : List UInt32} (hpos : 0 < count)
    (hl : words.length = Table.member.words) (h : (Site.entry .member place).Wrote words bus bus') :
    WroteMembers place count bus bus' where
  sound := h.sound
  refuses_eq := by rw [h.backing_eq, Backing.write_refuses]
  stalls_eq := h.stalls_eq
  read_eq a := by
    by_cases ha : a ∈ wordAddresses (Site.entry .member place).address (Site.entry .member place).words
    · cases hr : (MemoryBus.backing bus).refuses (Site.entry .member place).address
          (Site.entry .member place).words with
      | true => exact .inl (by rw [h.backing_of_refused hl hr])
      | false => exact .inr ⟨place, Nat.le_refl _, Nat.lt_add_of_pos_right hpos, ha, hr⟩
    · exact .inl (h.read_eq hl ha)

theorem WroteMembers.cons {place count : Nat} {words : List UInt32}
    (hl : words.length = Table.member.words) (h : (Site.entry .member place).Wrote words bus bus')
    (h' : WroteMembers (place + 1) count bus' bus'') : WroteMembers place (count + 1) bus bus'' := by
  have hfirst := wroteMembers_of_wrote (count + 1) (Nat.succ_pos _) hl h
  refine ⟨h'.sound, h'.refuses_eq.trans hfirst.refuses_eq, h'.stalls_eq.trans hfirst.stalls_eq,
    fun a => ?_⟩
  rcases h'.read_eq a with heq | ⟨n, h1, h2, ha, hr⟩
  · rw [heq]
    exact hfirst.read_eq a
  · rw [hfirst.refuses_eq] at hr
    exact .inr ⟨n, by omega, by omega, ha, hr⟩

theorem writeMembers_leaves (members : List EgressId) (place : Nat) (h : MemoryBus.Sound bus)
    (hp : place + members.length ≤ Table.member.depth) :
    Ends (writeMembers place members) bus
      (fun _ bus' => WroteMembers place members.length bus bus' ∧
        (members ≠ [] → (MemoryBus.backing bus).stalls = false))
      fun _ bus' => WroteMembers place members.length bus bus' := by
  induction members generalizing place bus with
  | nil =>
      exact Operation.ends_ok rfl ⟨⟨h, rfl, rfl, fun _ => .inl rfl⟩, fun hne => absurd rfl hne⟩
  | cons m ms ih =>
      rw [List.length_cons] at hp ⊢
      have hlt : place < Table.member.depth := by omega
      have hs : (Site.entry .member place).OnChip := hlt
      have hl : (MemberEntry.mk m).encode.length = Table.member.words := Fields.length_encode _ _
      have hfirst := Site.write_ends hs hl h
      rw [← Table.write_eq .member hlt hl] at hfirst
      cases hb : Table.member.write place (MemberEntry.mk m).encode bus with
      | error e bus' =>
          exact Operation.ends_error (by simp only [writeMembers, hb]; rfl)
            (wroteMembers_of_wrote _ (Nat.succ_pos _) hl (hfirst.of_error hb).1)
      | ok u bus' =>
          obtain ⟨hwrote, htaken⟩ := hfirst.of_ok hb
          refine Ends.of_eq ((ih (place + 1) hwrote.sound (by omega)).mono ?_ ?_)
            (by simp only [writeMembers, hb])
          · exact fun _ _ hq => ⟨hq.1.cons hl hwrote, fun _ => htaken.not_stalled⟩
          · exact fun _ _ he => he.cons hl hwrote

/-- Places that were cleared have faded, and those that are not refused are zero. -/
theorem clearMembers_leaves {count : Nat} (place : Nat) (h : MemoryBus.Sound bus)
    (hp : place + count ≤ Table.member.depth) :
    (MemoryBus.backing bus).memory.Fades (MemoryBus.backing (clearMembers place count bus)).memory ∧
      ∀ n, place ≤ n → n < place + count →
        (MemoryBus.backing bus).refuses (Site.entry .member n).address (Site.entry .member n).words =
          false →
        ∀ a ∈ wordAddresses (Site.entry .member n).address (Site.entry .member n).words,
          (MemoryBus.backing (clearMembers place count bus)).memory.read a = 0 := by
  induction count generalizing place bus with
  | zero => exact ⟨Memory.Fades.refl _, fun n h1 h2 => absurd h2 (by omega)⟩
  | succ count ih =>
      have hlt : place < Table.member.depth := by omega
      have hs : (Site.entry .member place).OnChip := hlt
      have hclear := Site.wrote_of_clear hs h
      rw [← Table.clear_eq .member hlt] at hclear
      obtain ⟨hfades, hzero⟩ := ih (place + 1) hclear.sound (by omega)
      refine ⟨(hclear.fades hs).trans hfades, fun n h1 h2 hr a ha => ?_⟩
      by_cases hn : n = place
      · subst hn
        have hblank := Site.stored_eq_blank_iff.mp
          (hclear.stored_self hs List.length_replicate hr) a ha
        rcases hfades a with heq | hz
        · exact heq.trans hblank
        · exact hz
      · refine hzero n (by omega) (by omega) ?_ a ha
        rw [hclear.backing_eq, Backing.write_refuses]
        exact hr

/-- A group that could not be written has been cleared again. -/
theorem clearGroup_leaves {id : GroupId} {g : Group} (h : MemoryBus.Sound bus)
    (hn : IndexRange.groups.Holds id) (hpos : 0 < g.members.length)
    (hg : g.base + g.members.length ≤ Table.member.depth) :
    Ends (writeGroup id g) bus (fun _ _ => True) fun _ bus' =>
      (MemoryBus.backing bus).memory.Fades
        (MemoryBus.backing (clearGroup id g.base g.members.length bus')).memory := by
  have hs : (Site.entry .group id).OnChip := hn.2
  -- What was written are places, which are cleared now unless they had been refused.
  have hfaded {bus' : δ} (hwrote : WroteMembers g.base g.members.length bus bus') :
      (MemoryBus.backing bus).memory.Fades
        (MemoryBus.backing (clearGroup id g.base g.members.length bus')).memory := by
    have hclear := Site.wrote_of_clear hs hwrote.sound
    rw [← Table.clear_eq .group hn.2] at hclear
    obtain ⟨hfades, hzero⟩ := clearMembers_leaves g.base hclear.sound hg
    intro a
    rcases hwrote.read_eq a with heq | ⟨n, h1, h2, ha, hr⟩
    · have hall := ((hclear.fades hs).trans hfades) a
      rw [heq] at hall
      exact hall
    · refine .inr (hzero n h1 h2 ?_ a ha)
      rw [hclear.backing_eq, Backing.write_refuses, hwrote.refuses_eq]
      exact hr
  have hmembers := writeMembers_leaves g.members g.base h hg
  cases hb : writeMembers g.base g.members bus with
  | error e bus' =>
      exact Operation.ends_error (by simp only [writeGroup, hb]; rfl) (hfaded (hmembers.of_error hb))
  | ok u bus' =>
      obtain ⟨hwrote, hstalls⟩ := hmembers.of_ok hb
      have hl : (GroupEntry.ofMembers g.base g.members).encode.length = Table.group.words :=
        Fields.length_encode _ _
      have hlast := Site.write_ends hs hl hwrote.sound
      rw [← Table.write_eq .group hn.2 hl] at hlast
      refine Ends.of_eq (hlast.mono (fun _ _ _ => trivial) ?_) (by simp only [writeGroup, hb])
      rintro e bus'' ⟨hdescriptor, hnot⟩
      have hprompt := hwrote.stalls_eq.trans (hstalls (List.ne_nil_of_length_pos hpos))
      have hsame := hdescriptor.backing_of_refused hl (Site.refused_of_not_taken hprompt hnot)
      refine hfaded ⟨hdescriptor.sound, ?_, ?_, ?_⟩
      · rw [hsame]
        exact hwrote.refuses_eq
      · rw [hsame]
        exact hwrote.stalls_eq
      · rw [hsame]
        exact hwrote.read_eq

end Routing

/-! ### Creations -/

/-- Something that a switch can be asked to create. -/
inductive Creation where
  | interface (mac : MacAddr) (tag : Nat)
  | egress (e : Egress)
  | route (subnet : Subnet) (target : RouteTarget)
  | group (members : List EgressId)
  | vlan (tag : Nat)
  | station (s : Station)
  | trap (e : TrapEntry)

namespace Creation

section attempt

variable {δ : Type} [Bus δ]

/-- A creation, whatever it answers if it succeeds. -/
def attempt : Creation → Operation (Switch δ) Unit
  | interface mac tag => do let _ ← Switch.createInterface mac tag
  | egress e => do let _ ← Switch.createEgress e
  | route subnet target => do let _ ← Switch.addRoute subnet target
  | group members => do let _ ← Switch.createGroup members
  | vlan tag => Switch.createVlan tag
  | station s => Switch.addStation s
  | trap e => do let _ ← Switch.addTrap e

/-- The entry that the chip is told of first, unless it is a place of a group. -/
def first? (sw : Switch δ) : Creation → Option (Table × Nat × List UInt32)
  | interface mac tag => (sw.routing.newInterface? tag).map fun id =>
      (.interface, id, (InterfaceEntry.mk mac tag).encode)
  | egress e => (sw.routing.newEgress? sw.board e).map fun id =>
      (.ingressHop, id, (Routing.ingressHop e).encode)
  | route subnet target => (sw.routing.newSlot? subnet target).map fun slot =>
      (.route, slot, Routing.routeWords subnet.canon target)
  | group _ => none
  | vlan tag => if sw.vlans.IsNew tag then some (.vlan, tag, VlanPorts.none.ingress.encode) else none
  | station s => (sw.stations.newSlot? sw.board s).map fun slot =>
      (.station, slot, (Stations.entry s).encode)
  | trap e => (sw.traps.newSlot? e).map fun slot => (.trap, slot, e.encode)

variable [MemoryBus δ]

/-- The first write is made by a chip that is stalled, and makes an entry sprout. -/
def Strays (sw : Switch δ) (creation : Creation) : Prop :=
  ∃ t i words, creation.first? sw = some (t, i, words) ∧ t.Strays i words sw.bus

/-- Entries sprout exactly if the creation strays. -/
def Leaves (creation : Creation) (sw sw' : Switch δ) : Prop :=
  (MemoryBus.backing sw.bus).memory.Sprouts (MemoryBus.backing sw'.bus).memory ↔ creation.Strays sw

end attempt

section leaves

variable {δ : Type} [Bus δ] [MemoryBus δ] {T : Nat → Nat → Bool} {sw sw' : Switch δ}
  {creation : Creation} {t : Table} {i : Nat} {words : List UInt32}

/-- A creation that does not tell the chip of an entry that stays leaves nothing. -/
theorem leaves_of_fades (h : creation.first? sw = none)
    (hbus : (MemoryBus.backing sw.bus).memory.Fades (MemoryBus.backing sw'.bus).memory) :
    creation.Leaves sw sw' := by
  refine iff_of_false hbus.not_sprouts ?_
  rintro ⟨t, i, words, hfirst, -⟩
  cases h.symm.trans hfirst

/-- Another leaves what its first write leaves. -/
theorem leaves_of_first (h : creation.first? sw = some (t, i, words))
    (hbus : (MemoryBus.backing sw.bus).memory.Sprouts (MemoryBus.backing sw'.bus).memory ↔
      t.Strays i words sw.bus) : creation.Leaves sw sw' := by
  refine hbus.trans ⟨fun hstray => ⟨t, i, words, h, hstray⟩, ?_⟩
  rintro ⟨t', i', words', hfirst, hstray⟩
  cases h.symm.trans hfirst
  exact hstray

/-- The first entry may have an index that the record chooses; without one, nothing is written. -/
theorem leaves_of_choice {choice : Option Nat} {made : Nat → Table × Nat × List UInt32}
    (h : creation.first? sw = choice.map made)
    (hbus : choice = none ∧ sw'.bus = sw.bus ∨ ∃ n, choice = some n ∧
      ((MemoryBus.backing sw.bus).memory.Sprouts (MemoryBus.backing sw'.bus).memory ↔
        (made n).1.Strays (made n).2.1 (made n).2.2 sw.bus)) : creation.Leaves sw sw' := by
  rcases hbus with ⟨rfl, hb⟩ | ⟨n, rfl, hstray⟩
  · exact leaves_of_fades h (hb ▸ Memory.Fades.refl _)
  · exact leaves_of_first h hstray

theorem attempt_leaves (creation : Creation)
    (h : sw.Reflects T (fun _ => True) fun _ => False) :
    Ends creation.attempt sw (fun _ _ => True) fun _ sw' => creation.Leaves sw sw' := by
  have hsound := h.reflected.sound
  cases creation with
  | interface mac tag =>
      refine Ends.discard (Ends.focus ((Routing.createInterface_commands mac tag).mono
        (fun _ _ _ => trivial) fun _ _ he => leaves_of_choice rfl (he.imp_right ?_)))
      rintro ⟨id, hnew, hb⟩
      exact ⟨id, hnew, (Table.write_leaves (h.intact.newInterface? hnew).1.2
        (Fields.length_encode _ _) hsound).of_error hb⟩
  | egress e =>
      change Ends ((Switch.onRouting (Routing.createEgress sw.board e)) >>= fun _ => pure ()) sw _ _
      refine Ends.discard (Ends.focus ((Routing.createEgress_commands sw.board e).mono
        (fun _ _ _ => trivial) fun _ _ he => leaves_of_choice rfl (he.imp_right ?_)))
      rintro ⟨id, hnew, hb⟩
      have hid := (h.intact.newEgress? hnew).1.2
      exact ⟨id, hnew, (Table.writePair_leaves (Routing.writeHop id e) rfl hid
        (Fields.length_encode _ _) hid (Fields.length_encode _ _) hsound).of_error hb⟩
  | route subnet target =>
      refine Ends.discard (Ends.focus ((Routing.addRoute_commands subnet target).mono
        (fun _ _ _ => trivial) fun _ _ he => leaves_of_choice rfl (he.imp_right ?_)))
      rintro ⟨slot, hnew, hb⟩
      exact ⟨slot, hnew, (Table.write_leaves (h.intact.newSlot? hnew).2 (Fields.length_encode _ _)
        hsound).of_error hb⟩
  | group members =>
      -- What a group has told the chip of is cleared again, place by place.
      refine Ends.discard (Ends.focus ((Routing.createGroup_commands members).mono
        (fun _ _ _ => trivial) fun _ _ he => leaves_of_fades rfl ?_))
      rcases he with ⟨-, hb⟩ | ⟨id, base, bus', hnew, hb, hcleared⟩
      · exact hb ▸ Memory.Fades.refl _
      · obtain ⟨hid, -, hle, -⟩ := h.intact.newGroup? hnew
        have hpos := (Routing.length_of_newGroup? hnew).1
        have hfades := (Routing.clearGroup_leaves hsound hid hpos hle).of_error hb
        rw [← hcleared] at hfades
        exact hfades
  | vlan tag =>
      refine Ends.focus ((Vlans.create_commands tag).mono (fun _ _ _ => trivial) ?_)
      rintro e t (⟨hnot, hb⟩ | ⟨hnew, hb⟩)
      · exact leaves_of_fades (if_neg hnot) (hb ▸ Memory.Fades.refl _)
      · refine leaves_of_first (if_pos hnew) ?_
        have htag := Vlans.lt_depth hnew.1
        exact (Table.writePair_leaves (Vlans.program tag VlanPorts.none none) rfl htag
          (Fields.length_encode _ _) htag (Fields.length_encode _ _) hsound).of_error hb
  | station s =>
      change Ends (Switch.onStations (Stations.add sw.board s)) sw _ _
      refine Ends.focus ((Stations.add_commands sw.board s).mono
        (fun _ _ _ => trivial) fun _ _ he => leaves_of_choice rfl (he.2.imp_right ?_))
      rintro ⟨slot, hnew, hb⟩
      have hslot := Stations.lt_depth_of_mem_candidates (Stations.mem_candidates_of_newSlot? hnew)
      exact ⟨slot, hnew,
        (Table.write_leaves hslot (Fields.length_encode _ _) hsound).of_error hb⟩
  | trap e =>
      refine Ends.discard (Ends.focus ((Traps.add_commands e).mono
        (fun _ _ _ => trivial) fun _ _ he => leaves_of_choice rfl (he.2.imp_right ?_)))
      rintro ⟨slot, hnew, hb⟩
      exact ⟨slot, hnew, (Table.write_leaves (Traps.newSlot?_free hnew).1 (Fields.length_encode _ _)
        hsound).of_error hb⟩

end leaves

end Creation

/-! ### Every run -/

/-- Whatever happens, the record stays intact and the chip in reach. -/
theorem Switch.after_reaches (events : List SwitchEvent) {sw : Switch (Watched Channel)}
    (h : ∃ T, sw.Reflects T (fun _ => True) fun _ => False) :
    ∃ T, (sw.after events).Reflects T (fun _ => True) fun _ => False := by
  induction events generalizing sw with
  | nil => exact h
  | cons event events ih =>
      refine ih ?_
      obtain ⟨T, h⟩ := h
      cases event with
      | request r => exact ⟨T, r.serve_reflects Bus.tells_true h fun _ _ _ hu => hu.elim⟩
      | faults stalled failing =>
          have hsound := (Channel.Sound.setFaults h.reflected.sound stalled failing).1
          exact ⟨_, h.intact, hsound, rfl, fun hs => hs.elim, fun hs => hs.elim, fun hs => hs.elim,
            fun _ _ hs => hs.elim⟩

/-- After every run of requests over a chip whose faults change in any way: a creation that fails makes
an entry that was all zero anything else exactly if it is not of a group and its first write is made by
a chip that is stalled and makes an entry so. -/
theorem Switch.sprouts_iff (board : Board) {settings : ChannelSettings} {base size : Nat}
    {ch : Channel} (hopen : Channel.open? settings (.emulated (.fresh base size)) = .ok ch)
    (events : List SwitchEvent) (creation : Creation) {e : Error} :
    let sw := (Switch.fresh board (Watched.start ch)).after events
    Operation.answer creation.attempt sw = .error e →
      (sw.bus.device.memory.Sprouts (Operation.after creation.attempt sw).bus.device.memory ↔
        creation.Strays sw) := by
  intro sw he
  have hclear := Channel.clear_of_open hopen
  have hstart : Clear (Watched.start ch) := ⟨hclear.sound, hclear.prompt, hclear.memory⟩
  obtain ⟨T, h⟩ : ∃ T, sw.Reflects T (fun _ => True) fun _ => False :=
    after_reaches events ⟨_, fresh_reflects board hstart fun _ => False.elim⟩
  have hleaves := (creation.attempt_leaves h).of_failure he
  rw [← Channel.memory_backing, ← Channel.memory_backing]
  exact hleaves

/-- An interface and an egress object, and then the chip stalls. -/
def SwitchEvent.stalling : List SwitchEvent := [
  .request (.routing (.createInterface ⟨2, 0, 0, 0, 0, 1⟩ 7)),
  .request (.routing (.createEgress ⟨⟨2, 0, 0, 0, 0, 9⟩, default, 1⟩)),
  .faults true []]

/-- A group of which nothing was heard is taken back. -/
theorem Switch.group_not_sprouts :
    let sw := (Switch.fresh ⟨48, Board.defaultStem, Board.defaultMacBase⟩
      (Watched.start Channel.pooled)).after SwitchEvent.stalling
    (∃ e, Operation.answer (Creation.group [1]).attempt sw = .error e) ∧
      ¬ sw.bus.device.memory.Sprouts
        (Operation.after (Creation.group [1]).attempt sw).bus.device.memory := by
  have hopen : Channel.open? ⟨.pool, 500, 1000, true⟩ (.emulated (.fresh 0x1000000 4096)) =
      .ok Channel.pooled := rfl
  have hfails : (Operation.answer (Creation.group [1]).attempt
      ((Switch.fresh ⟨48, Board.defaultStem, Board.defaultMacBase⟩ (Watched.start Channel.pooled)).after
        SwitchEvent.stalling)).isOk = false := by decide +kernel
  obtain ⟨e, he⟩ := Operation.exists_error_of_isOk hfails
  have hiff := sprouts_iff ⟨48, Board.defaultStem, Board.defaultMacBase⟩ hopen SwitchEvent.stalling
    (.group [1]) (e := e)
  dsimp only at hiff ⊢
  refine ⟨⟨e, he⟩, fun hsprouts => ?_⟩
  obtain ⟨t, i, words, hfirst, -⟩ := (hiff he).mp hsprouts
  cases hfirst

/-- A switch whose chip stalls at once. -/
def Switch.stalled : Switch (Watched Channel) :=
  (Switch.fresh ⟨48, Board.defaultStem, Board.defaultMacBase⟩ (Watched.start Channel.pooled)).after
    [.faults true []]

/-- An interface that the stalled chip has not reported stays in the chip. -/
theorem Switch.interface_sprouts :
    let creation := Creation.interface ⟨2, 0, 0, 0, 0, 1⟩ 7
    let left := Operation.after creation.attempt stalled
    (∃ e, Operation.answer creation.attempt stalled = .error e) ∧
      left.routing.interfaces.contains 1 = false ∧
      (Site.entry .interface 1).stored left.bus.device.memory = [0xe000, 2, 0x400, 0] ∧
      stalled.bus.device.memory.Sprouts left.bus.device.memory := by
  intro creation left
  have hblank : (Site.entry .interface 1).stored stalled.bus.device.memory =
      (Site.entry .interface 1).blank := by decide +kernel
  have hstored : (Site.entry .interface 1).stored left.bus.device.memory = [0xe000, 2, 0x400, 0] := by
    decide +kernel
  have hfails : (Operation.answer creation.attempt stalled).isOk = false := by decide +kernel
  have hgone : left.routing.interfaces.contains 1 = false := by decide +kernel
  have hnot : (Site.entry .interface 1).stored left.bus.device.memory ≠
      (Site.entry .interface 1).blank := fun h => absurd (hstored.symm.trans h) (by decide)
  exact ⟨Operation.exists_error_of_isOk hfails, hgone, hstored, .interface, 1, by decide, hblank, hnot⟩
end ControlPlane
