import ControlPlane.Proofs.Switch.Mirror

/-! # Which ports are enabled

A port is enabled or disabled by writing the word of its block, with the lanes of up to three other ports in
it.  Whatever a switch is asked, and whatever its chip makes of each write, a port is as the last call for it
that succeeded has left it.

* `PortRun` is what a list of events has led to, with the calls that enable or disable a port and whether they
  succeeded.  The history alone tells how each port should be (`PortRun.lastSet`).
* **Step.**  `PortRun.Kept.step`: a call that succeeds changes its own port alone, and nothing else changes
  any.
* **Run.**  `enables_kept`: after every run the ports are as the history says.  The word that a successful
  call has written has the lanes of the enabled ports of its block, also on a chip that was stalled before:
  whatever an earlier write has left there is overwritten. -/

namespace ControlPlane

open Operation (Ends)

/-- The word of a block's enabled lanes in the chip's memory. -/
def Channel.lanes (ch : Channel) (block : Nat) : UInt32 :=
  ch.memory.read (Location.ofBlock block 0).enableWord

theorem Channel.stored_enables (ch : Channel) {block : Nat} (hb : block < Location.blockBases.length) :
    (Site.enables block).stored (MemoryBus.backing ch).memory = [ch.lanes block] := by
  have hlt : (Site.enables block).address + 4 * 1 < 2 ^ 32 :=
    Site.OnChip.address_lt (s := .enables block) hb
  have haddress : (Site.enables block).address % 2 ^ 32 = (Site.enables block).address :=
    Nat.mod_eq_of_lt (by omega)
  change [(MemoryBus.backing ch).memory.read ((Site.enables block).address % 2 ^ 32)] = _
  rw [haddress, Channel.memory_backing]
  rfl

/-! ### One request -/

section request

variable {δ : Type} [Bus δ] {sw : Switch δ}

/-- The port that a request enables or disables, and whether it succeeds. -/
def SwitchRequest.portCalls (sw : Switch δ) : SwitchRequest → List ((PortId × Bool) × Bool)
  | setPortEnabled port on => [((port, on), (Operation.answer (Switch.setPortEnabled port on) sw).isOk)]
  | routing _ | bridge _ | createVlan _ | addVlanPort _ _ _ | removeVlanPort _ _ | destroyVlan _ => []

/-- A switch with the same ports. -/
structure Switch.Beside (sw sw' : Switch δ) : Prop where
  board : sw'.board = sw.board
  ports : sw'.ports = sw.ports

namespace Switch

variable {α : Type}

omit [Bus δ] in
theorem beside_onRouting (op : Operation (Routing × δ) α) : sw.Beside (Operation.after (onRouting op) sw) := by
  rw [onRouting, Operation.after_focus]
  exact ⟨rfl, rfl⟩

omit [Bus δ] in
theorem beside_onStations (op : Operation (Stations × δ) α) :
    sw.Beside (Operation.after (onStations op) sw) := by
  rw [onStations, Operation.after_focus]
  exact ⟨rfl, rfl⟩

omit [Bus δ] in
theorem beside_onTraps (op : Operation (Traps × δ) α) : sw.Beside (Operation.after (onTraps op) sw) := by
  rw [onTraps, Operation.after_focus]
  exact ⟨rfl, rfl⟩

omit [Bus δ] in
theorem beside_onVlans (op : Operation (Vlans × δ) α) : sw.Beside (Operation.after (onVlans op) sw) := by
  rw [onVlans, Operation.after_focus]
  exact ⟨rfl, rfl⟩

end Switch

theorem RoutingRequest.serve_beside (request : RoutingRequest) : sw.Beside (request.serve sw) := by
  cases request with
  | createEgress egress => exact Switch.beside_onRouting (Routing.createEgress sw.board egress)
  | createInterface _ _ | destroyInterface _ | destroyEgress _ | addRoute _ _ | addHost _ _
  | removeRoute _ | createGroup _ | destroyGroup _ => exact Switch.beside_onRouting _

theorem BridgeRequest.serve_beside (request : BridgeRequest) : sw.Beside (request.serve sw) := by
  cases request with
  | addStation station => exact Switch.beside_onStations (Stations.add sw.board station)
  | removeStation _ _ => exact Switch.beside_onStations _
  | addTrap _ | removeTrap _ => exact Switch.beside_onTraps _

/-- A request that neither enables nor disables a port leaves all ports alone. -/
theorem SwitchRequest.serve_beside (request : SwitchRequest) (h : request.portCalls sw = []) :
    sw.Beside (request.serve sw) := by
  cases request with
  | routing request => exact request.serve_beside
  | bridge request => exact request.serve_beside
  | addVlanPort vlan port untagged =>
      exact Switch.beside_onVlans (Vlans.addPort sw.board vlan port untagged)
  | createVlan _ | removeVlanPort _ _ | destroyVlan _ => exact Switch.beside_onVlans _
  | setPortEnabled _ _ => cases h

/-- A port is enabled or disabled by the write of its block's word. -/
theorem Switch.setPortEnabled_ends [MemoryBus δ] (h : MemoryBus.Sound sw.bus) (p : PortId) (on : Bool) :
    Ends (Switch.setPortEnabled p on) sw
      (fun _ sw' => sw'.board = sw.board ∧ sw'.ports = sw.ports.enabling p on ∧
        (Site.enables p.block).Wrote [UInt32.ofNat ((sw.ports.enabling p on).enables.read p.block)]
          sw.bus sw'.bus ∧ (Site.enables p.block).Taken sw.bus)
      fun _ sw' => sw.Beside sw' := by
  change Ends (Switch.onPorts (Ports.setEnabled sw.board p on)) sw _ _
  refine Ends.focus ?_
  by_cases hp : sw.board.Has p
  · have hword : (sw.ports.enabling p on).enables.read p.block =
        Bits.putFlag (sw.ports.enables.read p.block) p.lane on :=
      (Memory.read_write _ _ _ _).trans (if_pos rfl)
    rw [hword]
    have hwrite : Ends ((Site.enables p.block).write
        [UInt32.ofNat (Bits.putFlag (sw.ports.enables.read p.block) p.lane on)]) sw.bus _ _ :=
      Site.write_ends p.block_lt rfl h
    exact Ports.ends_setEnabled hp (hwrite.mono (fun _ _ hq => ⟨rfl, rfl, hq⟩) fun _ _ _ => ⟨rfl, rfl⟩)
  · exact Operation.ends_error (Ports.setEnabled_beyond hp on _) ⟨rfl, rfl⟩

end request

/-! ### Every run -/

/-- What some events have led to, with the calls that enable or disable a port and whether they succeeded,
the first one first. -/
structure PortRun where
  switch : Switch Channel
  history : List ((PortId × Bool) × Bool)

namespace PortRun

variable {run : PortRun} {board : Board} {F : Site → Prop}

def step (run : PortRun) : SwitchEvent → PortRun
  | .request request => ⟨request.serve run.switch, run.history ++ request.portCalls run.switch⟩
  | .faults stalled failing => { run with
      switch := { run.switch with bus := run.switch.bus.setFaults stalled failing } }

/-- The run of some events, on a fresh switch. -/
def of (board : Board) (ch : Channel) (events : List SwitchEvent) : PortRun :=
  events.foldl step ⟨.fresh board ch, []⟩

/-- What the last call for a port that succeeded has asked for.  Ports are disabled at first. -/
def lastSet (run : PortRun) (p : PortId) : Bool :=
  ((run.history.filter fun call => call.2 ∧ call.1.1 = p).getLast?.map (·.1.2)).getD false

/-- The word of a block in the chip's memory has the lanes of those of its ports that are enabled. -/
def Shows (run : PortRun) (block : Nat) : Prop :=
  ∀ i, (run.switch.bus.lanes block).toNat.testBit i = true ↔
    ∃ p : PortId, p.block = block ∧ p.lane = i ∧ run.lastSet p = true

/-- Ports are enabled as the history says, and a call that succeeds shows in the chip. -/
structure Refines (board : Board) (run : PortRun) : Prop where
  answers : ∀ p, Operation.answer (Switch.portEnabled p) run.switch =
    if board.Has p then .ok (run.lastSet p) else .error (.invalid (.beyondPorts p board.ports))
  written : ∀ p on, (Operation.answer (Switch.setPortEnabled p on) run.switch).isOk = true →
    (run.step (.request (.setPortEnabled p on))).Shows p.block

/-- One more call that succeeds is the last one for its port. -/
theorem lastSet_concat (sw : Switch Channel) (history : List ((PortId × Bool) × Bool)) (p q : PortId)
    (on ok : Bool) : (PortRun.mk sw (history ++ [((p, on), ok)])).lastSet q =
      if ok = true ∧ p = q then on else (PortRun.mk sw history).lastSet q := by
  unfold lastSet
  rw [List.filter_append]
  by_cases h : ok = true ∧ p = q
  · rw [if_pos h, List.filter_cons_of_pos (by simpa using h), List.filter_nil, List.getLast?_concat]
    rfl
  · rw [if_neg h, List.filter_cons_of_neg (by simpa using h), List.filter_nil, List.append_nil]

/-- What each event keeps, with any family of sites on which the memory shows the record. -/
structure Kept (board : Board) (F : Site → Prop) (run : PortRun) : Prop where
  reflects : ∃ takes, run.switch.Reflects takes (fun _ => True) F
  board_eq : run.switch.board = board
  wired : run.switch.ports.Wired
  enabled : ∀ p, run.switch.ports.isEnabled p = run.lastSet p

namespace Kept

theorem sound (h : Kept board F run) : MemoryBus.Sound run.switch.bus := by
  obtain ⟨takes, hr⟩ := h.reflects
  exact hr.reflected.sound

/-- Words with the lanes of enabled ports are those that the history says. -/
theorem shows_of_lanes (h : Kept board F run) {block : Nat}
    (hb : run.switch.bus.lanes block = UInt32.ofNat (run.switch.ports.enables.read block)) :
    run.Shows block := by
  intro i
  rw [hb, h.wired.testBit_iff]
  simp only [h.enabled]

section step

variable (h : Kept board F run) (hF : ∀ s : Site, s.OnChip → s.Aloof F)

include h hF

/-- A call changes its own port if it succeeds, and no other. -/
theorem set (p : PortId) (on : Bool) : Kept board F (run.step (.request (.setPortEnabled p on))) := by
  obtain ⟨takes, hr⟩ := h.reflects
  have hreflects := (SwitchRequest.setPortEnabled p on).serve_reflects Bus.tells_true hr hF
  have hends := Ends.isOk (P := fun ok sw' => sw'.board = run.switch.board ∧
      (ok = true ∧ sw'.ports = run.switch.ports.enabling p on ∨ ok = false ∧ sw'.ports = run.switch.ports))
    ((Switch.setPortEnabled_ends h.sound p on).mono (fun _ _ hq => ⟨hq.1, .inl ⟨rfl, hq.2.1⟩⟩)
      fun _ _ he => ⟨he.board, .inr ⟨rfl, he.ports⟩⟩)
  obtain ⟨hboard, hports⟩ := hends
  refine ⟨⟨takes, hreflects⟩, hboard.trans h.board_eq, ?_, fun q => ?_⟩
  · change (Operation.after (Switch.setPortEnabled p on) run.switch).ports.Wired
    rcases hports with ⟨-, hports⟩ | ⟨-, hports⟩
    · exact hports ▸ h.wired.enabling p on
    · exact hports ▸ h.wired
  · refine Eq.trans ?_ (lastSet_concat _ run.history p q on _).symm
    change (Operation.after (Switch.setPortEnabled p on) run.switch).ports.isEnabled q = _
    rcases hports with ⟨hok, hports⟩ | ⟨hok, hports⟩
    · rw [hports, hok, Ports.isEnabled_enabling, h.enabled q]
      simp only [true_and]
      rfl
    · rw [hports, hok, h.enabled q]
      simp only [Bool.false_eq_true, false_and, if_false]
      rfl

/-- The word that a successful call has written is what the memory holds, whatever was there before. -/
theorem written {p : PortId} {on : Bool}
    (hok : (Operation.answer (Switch.setPortEnabled p on) run.switch).isOk = true) :
    (run.step (.request (.setPortEnabled p on))).Shows p.block := by
  refine (h.set hF p on).shows_of_lanes ?_
  obtain ⟨-, hports, hwrote, htaken⟩ :=
    (Switch.setPortEnabled_ends h.sound p on).of_ok (Operation.eq_ok_of_isOk hok)
  have hstored := hwrote.stored_self p.block_lt rfl htaken.not_refused
  rw [Channel.stored_enables _ p.block_lt, ← hports] at hstored
  exact List.singleton_inj.mp hstored

theorem step (event : SwitchEvent) (he : event.Prompt ∨ ∀ s, ¬ F s) : Kept board F (run.step event) := by
  cases event with
  | faults stalled failing =>
      obtain ⟨takes, hr⟩ := h.reflects
      obtain ⟨hsound, hmemory, hstalls⟩ := Channel.Sound.setFaults h.sound stalled failing
      have hprompt {s : Site} (hs : F s) : stalled = false := he.resolve_right fun hnone => hnone s hs
      exact ⟨⟨_, hr.intact, hr.reflected.of_memory hsound hmemory (fun hs => hstalls (hprompt hs)) id⟩,
        h.board_eq, h.wired, h.enabled⟩
  | request request =>
      by_cases hcalls : request.portCalls run.switch = []
      · obtain ⟨takes, hr⟩ := h.reflects
        have hbeside := request.serve_beside hcalls
        have hhistory : (run.step (.request request)).history = run.history := by
          change run.history ++ request.portCalls run.switch = run.history
          rw [hcalls, List.append_nil]
        refine ⟨⟨takes, request.serve_reflects Bus.tells_true hr hF⟩, hbeside.board.trans h.board_eq, ?_,
          fun q => ?_⟩
        · change (request.serve run.switch).ports.Wired
          exact hbeside.ports ▸ h.wired
        · change (request.serve run.switch).ports.isEnabled q = _
          rw [hbeside.ports, h.enabled, lastSet, lastSet, hhistory]
      · cases request with
        | setPortEnabled p on => exact h.set hF p on
        | routing _ | bridge _ | createVlan _ | addVlanPort _ _ _ | removeVlanPort _ _ | destroyVlan _ =>
            exact absurd rfl hcalls

end step

theorem refines (h : Kept board F run) (hF : ∀ s : Site, s.OnChip → s.Aloof F) : Refines board run where
  answers p := by
    change Operation.answer (Switch.onPorts (Ports.enabled run.switch.board p)) run.switch = _
    rw [Switch.onPorts, Operation.answer_focus, Ports.answer_enabled, h.board_eq, h.enabled p]
  written p on hok := h.written hF hok

/-- Where the memory shows the record, it shows every block. -/
theorem shows (h : Kept board Site.Exclusive run) {block : Nat} (hb : block < Location.blockBases.length) :
    run.Shows block := by
  obtain ⟨takes, hr⟩ := h.reflects
  have hexclusive : (Site.enables block).Exclusive := hb
  have hstored := hr.reflected.stored hexclusive (rfl : run.switch.records (.enables block) _)
  rw [Channel.stored_enables _ hb] at hstored
  exact h.shows_of_lanes (List.singleton_inj.mp hstored)

end Kept

theorem kept_start {ch : Channel} {takes : Nat → Nat → Bool}
    (h : (Switch.fresh board ch).Reflects takes (fun _ => True) F) : Kept board F ⟨.fresh board ch, []⟩ where
  reflects := ⟨takes, h⟩
  board_eq := rfl
  wired := Ports.wired_fresh
  enabled p := by
    rw [Ports.isEnabled_eq]
    change (Ports.fresh.enables.read p.block).testBit p.lane = false
    rw [show Ports.fresh.enables.read p.block = 0 from Memory.read_clear _, Nat.zero_testBit]

end PortRun

/-- After every run of requests over an emulated chip whose faults change in any way, each port is enabled or
disabled as the last call for it that succeeded asked, and the word that such a call has written has the lanes
of those ports of its block that are enabled, and no others.  If the chip was clear and was never stalled, the
words of all blocks do, at all times. -/
theorem enables_kept (board : Board) {settings : ChannelSettings} {c : Chip} {ch : Channel}
    (hopen : Channel.open? settings (.emulated c) = .ok ch) (events : List SwitchEvent) :
    (PortRun.of board ch events).Refines board ∧
      (c.memory = .clear → c.stalled = false → (∀ event ∈ events, event.Prompt) →
        ∀ block < Location.blockBases.length, (PortRun.of board ch events).Shows block) := by
  obtain ⟨hdevice, hsettings, hstaging⟩ := Channel.opened hopen
  have hsound : ch.Sound := ⟨c, hdevice, fun hp => hstaging (hsettings ▸ hp)⟩
  constructor
  · -- of no site is anything said, so that the chip may be stalled
    have hstart : PortRun.Kept board (fun _ => False) ⟨.fresh board ch, []⟩ :=
      PortRun.kept_start ⟨Routing.intact_fresh, hsound, rfl, nofun, nofun, nofun, fun _ _ hs => hs.elim⟩
    have haloof : ∀ s : Site, s.OnChip → s.Aloof fun _ => False := fun _ _ _ hu => hu.elim
    refine PortRun.Kept.refines (List.foldlRecOn (motive := PortRun.Kept board fun _ => False) events
      PortRun.step hstart ?_) haloof
    intro run h event _
    exact h.step haloof event (.inr fun _ => id)
  · intro hmemory hstalled hprompt block hb
    have hback : ch.backing = Channel.backingOf ch.settings.mode c := by
      rw [Channel.backing, hdevice]
      rfl
    have hclear : Clear ch := by
      refine ⟨hsound, (congrArg (·.stalls) hback).trans (Channel.stalls_backingOf _ hstalled),
        (congrArg (·.memory) hback).trans ((Channel.memory_backingOf _ _).trans hmemory)⟩
    have hstart : PortRun.Kept board Site.Exclusive ⟨.fresh board ch, []⟩ :=
      PortRun.kept_start (Switch.fresh_reflects board hclear fun _ hblock => hblock)
    refine PortRun.Kept.shows (List.foldlRecOn (motive := PortRun.Kept board Site.Exclusive) events
      PortRun.step hstart ?_) hb
    intro run h event hmem
    exact h.step (fun _ hs => hs.aloof) event (.inl (hprompt event hmem))

/-- Two ports that share a block, the second of them refused, and then a third one. -/
def SwitchEvent.sharing (first second third : PortId) : List SwitchEvent := [
  .request (.setPortEnabled first true),
  .faults false [(first.locate.enableWord, first.locate.enableWord + 4)],
  .request (.setPortEnabled second true),
  .faults false [],
  .request (.setPortEnabled third true)]

/-- The port that was refused is not enabled, and the word has the lanes of the other two. -/
theorem enables_kept_sharing :
    let board : Board := ⟨48, Board.defaultStem, Board.defaultMacBase⟩
    let run : PortRun := .of board Channel.driven
      (SwitchEvent.sharing ⟨21, by decide, by decide⟩ ⟨22, by decide, by decide⟩ ⟨23, by decide, by decide⟩)
    run.Refines board ∧ run.Shows 5 ∧ run.lastSet ⟨21, by decide, by decide⟩ = true ∧
      run.lastSet ⟨22, by decide, by decide⟩ = false ∧ run.switch.bus.lanes 5 = 0b1010 := by
  intro board run
  have hopen : Channel.open? ⟨.driver, 500, 1000, true⟩ (.emulated (.fresh 0 256)) =
      .ok Channel.driven := rfl
  obtain ⟨hrefines, hshows⟩ := enables_kept board hopen
    (SwitchEvent.sharing ⟨21, by decide, by decide⟩ ⟨22, by decide, by decide⟩ ⟨23, by decide, by decide⟩)
  refine ⟨hrefines, hshows rfl rfl ?_ 5 (by decide), by decide +kernel, by decide +kernel, by decide +kernel⟩
  simp [SwitchEvent.sharing, SwitchEvent.Prompt]

end ControlPlane
