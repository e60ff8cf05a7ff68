import ControlPlane.Agent
import ControlPlane.Proofs.Device.Transfers
import ControlPlane.Proofs.Packet.Receiving
import ControlPlane.Proofs.Packet.Sending

/-! # Commands and frames in one pool

Commands, frames on their way out and frames on their way in go through one pool and share the chip's
registers.  They may come in any order, and what becomes of those of one kind depends on those of that
kind alone.

* **Calls.**  A `PoolCall` is a command, a frame that is sent, a frame that comes in or a poll.
  `alone`, `sent` and `waiting` say what some calls come to, each from the calls of one kind.
* **Steps.**  `Reached` ties an agent to the calls that led to it.  `Reached.command`, `Reached.send`,
  `Reached.arrive` and `Reached.poll` say what each kind of call answers and that it keeps this.
* **Runs.**  `calls_unmixed`: whatever the calls have been, the next is answered as if all others had
  been of its own kind (`Unmixed`). -/

namespace ControlPlane

open Operation (focus_ok answer_focus after_focus)
open PacketBuffers (Received Named contents)

/-! ### The chip of an agent -/

namespace Agent

variable {ε α : Type} {s : Agent} {c : Chip}

/-- The channel to the chip's memory. -/
def channel (s : Agent) : Channel := s.follower.switch.bus

def setChannel (s : Agent) (ch : Channel) : Agent :=
  { s with follower := { s.follower with switch := { s.follower.switch with bus := ch } } }

/-- The chip that an agent drives. -/
def chip (s : Agent) : Chip := s.device.chip?.getD default

/-- A frame comes in from outside. -/
def arrive (a : Arrival) : Operation Agent Unit := do
  let b ← buffers
  onDevice (Device.onChip (fun _ => false) "receive" (.ok ()) "receive"
    (Chip.step (Chip.receive b.ring.offset a))).lift

theorem answer_onChannel (op : EStateM ε Channel α) (s : Agent) :
    Operation.answer (onChannel op) s = Operation.answer op s.channel :=
  (answer_focus _ _ _ _).trans ((answer_focus _ _ _ _).trans (answer_focus _ _ _ _))

theorem after_onChannel (op : EStateM ε Channel α) (s : Agent) :
    Operation.after (onChannel op) s = s.setChannel (Operation.after op s.channel) := by
  unfold onChannel onSwitch onFollower
  rw [after_focus, after_focus, after_focus]
  rfl

theorem onChannel_ok {op : EStateM ε Channel α} {a : α} {ch : Channel} (h : op s.channel = .ok a ch) :
    onChannel op s = .ok a (s.setChannel ch) := by
  unfold onChannel onSwitch onFollower
  exact focus_ok (focus_ok (focus_ok h))

theorem onDevice_ok {op : EStateM ε Device α} {a : α} {d : Device}
    (h : op s.channel.device = .ok a d) :
    onDevice op s = .ok a (s.setChannel { s.channel with device := d }) :=
  onChannel_ok (focus_ok h)

theorem answer_onDevice (op : EStateM ε Device α) (s : Agent) :
    Operation.answer (onDevice op) s = Operation.answer op s.channel.device :=
  (answer_onChannel _ s).trans (answer_focus _ _ _ _)

theorem after_onDevice (op : EStateM ε Device α) (s : Agent) :
    Operation.after (onDevice op) s =
      s.setChannel { s.channel with device := Operation.after op s.channel.device } := by
  unfold onDevice
  rw [after_onChannel, after_focus]

theorem buffers_ok {b : PacketBuffers} (h : s.packets = some b) : buffers s = .ok b s := by
  rw [buffers, h]
  rfl

theorem chip_eq (h : s.channel.Serves c) : s.chip = c := by
  rw [chip, device, ← channel, h.device]
  rfl

end Agent

/-! ### Calls -/

/-- What is asked of an agent that sends and receives frames, and what comes in from outside. -/
inductive PoolCall where
  | command (t : Transfer)
  | send (port : PortId) (frame : List UInt8)
  | arrive (a : Arrival)
  /-- A poll, and whether anyone takes the frames. -/
  | poll (accepting : Bool)

namespace PoolCall

/-- Frames go out of a port of the board and fill no more than a buffer. -/
def Valid (board : Board) : PoolCall → Prop
  | send port frame => board.Has port ∧ 1 ≤ frame.length ∧ frame.length ≤ frameBytesMax
  | command _ | arrive _ | poll _ => True

instance (board : Board) : DecidablePred (Valid board)
  | send _ _ => inferInstanceAs (Decidable (_ ∧ _))
  | command _ | arrive _ | poll _ => isTrue trivial

/-- The agent after a call, whatever it answered. -/
def after : PoolCall → Agent → Agent
  | command t => Operation.after (Agent.onChannel t.run)
  | send port frame => Operation.after (Agent.transmit port frame)
  | arrive a => Operation.after (Agent.arrive a)
  | poll accepting => Operation.after (Agent.receive accepting)

def afterAll (calls : List PoolCall) (s : Agent) : Agent := calls.foldl (fun s call => call.after s) s

/-- The chip's channel that a call runs. -/
def channel? : PoolCall → Option Nat
  | command _ => some Registers.commandChannel
  | send _ _ => some Registers.transmitChannel
  | arrive _ | poll _ => none

def transfer? : PoolCall → Option Transfer
  | command t => some t
  | send _ _ | arrive _ | poll _ => none

/-- The frame that goes out. -/
def frame? : PoolCall → Option Frame
  | send port frame => some ⟨UInt8.ofNat port.num, frame⟩
  | command _ | arrive _ | poll _ => none

/-- A channel after the commands among some calls, and nothing else. -/
def alone (ch : Channel) (calls : List PoolCall) : Channel :=
  (Transfer.runAll (calls.filterMap transfer?) ch).2

/-- The frames among some calls that go out, in order. -/
def sent (calls : List PoolCall) : List Frame := calls.filterMap frame?

/-- What a call makes of the frames that wait in the descriptors of the ring. -/
def hold (frames : List (Option Frame)) : PoolCall → List (Option Frame)
  | arrive a => frames.set a.slot (some a.frame)
  | poll true => frames.map fun _ => none
  | poll false | command _ | send _ _ => frames

/-- The frames that wait in the descriptors of the ring, told from what came in and what was polled. -/
def waiting (calls : List PoolCall) : List (Option Frame) :=
  calls.foldl hold (List.replicate PacketBuffers.ringSize none)

/-- What a poll answers. -/
def handed (accepting : Bool) (frames : List (Option Frame)) : Except Error (List Frame) :=
  if accepting ∨ frames.reduceOption = [] then
    .ok frames.reduceOption
  else
    .error (.other .receiverClosed)

/-- What a call leaves as it is: a call that runs a channel changes nothing in the receive ring or in
its buffers, and no call changes the completion bit of a channel that it does not run. -/
structure Spares (call : PoolCall) (b : PacketBuffers) (c c' : Chip) : Prop where
  ring : call.channel? ≠ none → ∀ a, b.ring.offset ≤ a → c'.pool.bytes.read a = c.pool.bytes.read a
  done : ∀ k, call.channel? ≠ some k → c'.done k = c.done k

/-! ### Lists of calls -/

variable {board : Board} {b : PacketBuffers} {c c' start : Chip} {ch : Channel} {calls : List PoolCall}
  {s : Agent}

theorem alone_concat (ch : Channel) (calls : List PoolCall) (call : PoolCall) :
    alone ch (calls ++ [call]) = match call.transfer? with
      | some t => Operation.after t.run (alone ch calls)
      | none => alone ch calls := by
  rw [alone, List.filterMap_append]
  cases h : call.transfer? with
  | some t =>
      rw [List.filterMap_cons_some h]
      exact Transfer.runAll_concat _ _ _
  | none => rw [List.filterMap_cons_none h, List.filterMap_nil, List.append_nil, alone]

theorem sent_concat (calls : List PoolCall) (call : PoolCall) :
    sent (calls ++ [call]) = sent calls ++ call.frame?.toList := by
  rw [sent, List.filterMap_append]
  cases h : call.frame? with
  | some f => rw [List.filterMap_cons_some h, List.filterMap_nil, sent, Option.toList_some]
  | none => rw [List.filterMap_cons_none h, List.filterMap_nil, sent, Option.toList_none]

theorem waiting_concat (calls : List PoolCall) (call : PoolCall) :
    waiting (calls ++ [call]) = hold (waiting calls) call := by
  rw [waiting, List.foldl_append]
  rfl

/-! ### Steps -/

/-- What a descriptor holds in which a frame waits or none. -/
def received : Option Frame → Received
  | some f => .frame f
  | none => .nothing

theorem frame?_received (f : Option Frame) : (received f).frame? = f := by
  cases f <;> rfl

/-- An agent that was opened over the chip `start` and has been through some calls, and its chip `c`.
The commands alone would have led from `ch` to the same memory. -/
structure Reached (board : Board) (b : PacketBuffers) (start : Chip) (ch : Channel)
    (calls : List PoolCall) (s : Agent) (c : Chip) : Prop where
  board : s.settings.board = board
  packets : s.packets = some b
  serves : s.channel.Serves c
  placed : b.Placed ⟨c.poolBase, c.pool.size⟩
  named : Named c.pool b.ring.offset b.slots
  held : contents c.pool b.ring.offset b.slots = (waiting calls).map received
  sent : c.sent = start.sent ++ PoolCall.sent calls
  alone : ∃ d, (PoolCall.alone ch calls).Serves d ∧ d.memory = c.memory ∧ d.failing = c.failing

/-- The ring holds what it held if no byte from its start on changes. -/
theorem contents_of_ring {pool pool' : DmaRegion} {info : DmaInfo} (hb : b.Placed info)
    (h : ∀ a, b.ring.offset ≤ a → pool'.bytes.read a = pool.bytes.read a) :
    contents pool' b.ring.offset b.slots = contents pool b.ring.offset b.slots := by
  refine PacketBuffers.contents_congr (fun a ha _ => h a ha) fun slot hslot a ha _ => h a ?_
  have := hb.slots_le slot hslot
  omega

theorem named_of_ring {pool pool' : DmaRegion}
    (h : ∀ a, b.ring.offset ≤ a → pool'.bytes.read a = pool.bytes.read a)
    (hn : Named pool b.ring.offset b.slots) : Named pool' b.ring.offset b.slots := by
  intro i slot hi
  rw [← hn i slot hi]
  exact DmaRegion.wordAt_congr fun a _ _ => h a (by omega)

/-- What one channel does below the receive ring spares the ring and the other channels. -/
theorem Spares.of_confined {call : PoolCall} {channel first stop : Nat}
    (h : c.Confined channel first stop c') (hc : call.channel? = some channel)
    (hs : stop ≤ b.ring.offset) : call.Spares b c c' where
  ring _ a ha := h.bytes a (.inr (Nat.le_trans hs ha))
  done k hk := by
    refine h.done k fun hkc => hk ?_
    rw [hc, hkc]

/-- What no channel does spares the channels. -/
theorem Spares.of_setPool {call : PoolCall} (pool : DmaRegion) (hc : call.channel? = none) :
    call.Spares b c (c.setPool pool) where
  ring h := (h hc).elim
  done _ _ := rfl

namespace Reached

/-- Exchanges are staged below the receive ring. -/
theorem staged_le (h : Reached board b start ch calls s c) : 4 * stagedWords ≤ b.ring.offset := by
  have hstaged : 4 * stagedWords ≤ Channel.reservedBytes := by decide
  have hdescriptor := h.placed.descriptor_le
  have hframe := h.placed.frame_le
  have hring := h.placed.ring_le
  omega

/-- One more call, which has put another chip in the place of `c`. -/
theorem concat (h : Reached board b start ch calls s c) {call : PoolCall}
    (hs : call.after s = s.setChannel { s.channel with device := .emulated c' }) (hl : c.Alike c')
    (hn : Named c'.pool b.ring.offset b.slots)
    (hh : contents c'.pool b.ring.offset b.slots = (hold (waiting calls) call).map received)
    (hsent : c'.sent = c.sent ++ call.frame?.toList)
    (ha : ∃ d, (PoolCall.alone ch (calls ++ [call])).Serves d ∧ d.memory = c'.memory ∧
      d.failing = c'.failing) :
    Reached board b start ch (calls ++ [call]) (call.after s) c' where
  board := by
    rw [hs]
    exact h.board
  packets := by
    rw [hs]
    exact h.packets
  serves := by
    rw [hs]
    exact h.serves.of_alike hl
  placed := by
    rw [hl.poolBase, hl.poolSize]
    exact h.placed
  named := hn
  held := by rw [hh, waiting_concat]
  sent := by rw [hsent, h.sent, sent_concat, List.append_assoc]
  alone := ha

/-- A call that is no command leaves what the commands alone lead to. -/
theorem alone_concat (h : Reached board b start ch calls s c) {call : PoolCall}
    (hc : call.transfer? = none) (hm : c'.memory = c.memory) (hf : c'.failing = c.failing) :
    ∃ d, (PoolCall.alone ch (calls ++ [call])).Serves d ∧ d.memory = c'.memory ∧
      d.failing = c'.failing := by
  rw [PoolCall.alone_concat, hc, hm, hf]
  exact h.alone

theorem command (h : Reached board b start ch calls s c) (t : Transfer) :
    ∃ c', Operation.answer (Agent.onChannel t.run) s =
        Operation.answer t.run (PoolCall.alone ch calls) ∧
      Reached board b start ch (calls ++ [.command t]) ((PoolCall.command t).after s) c' ∧
      (PoolCall.command t).Spares b c c' := by
  obtain ⟨d, hserves, hmemory, hfailing⟩ := h.alone
  obtain ⟨hreply, hleaves⟩ := t.reply_congr hmemory hfailing
  obtain ⟨c', hanswer, hafter, hc'⟩ := t.run_served h.serves
  obtain ⟨d', hanswer', hafter', hd'⟩ := t.run_served hserves
  have hspares : (PoolCall.command t).Spares b c c' := .of_confined hc'.toConfined rfl h.staged_le
  have hring := hspares.ring nofun
  refine ⟨c', ?_, h.concat ?_ hc'.toAlike (named_of_ring hring h.named) ?_ ?_ ⟨d', ?_, ?_, ?_⟩,
    hspares⟩
  · rw [Agent.answer_onChannel, hanswer, hanswer', hreply]
  · rw [PoolCall.after, Agent.after_onChannel, hafter]
  · rw [contents_of_ring h.placed hring, h.held, hold]
  · rw [hc'.sent, frame?, Option.toList_none, List.append_nil]
  · rw [PoolCall.alone_concat]
    dsimp only [transfer?]
    rw [hafter']
    exact hserves.of_alike hd'.toAlike
  · rw [hd'.memory, hc'.memory, hleaves]
  · rw [hd'.failing, hc'.failing, hfailing]

theorem send (h : Reached board b start ch calls s c) {port : PortId} {frame : List UInt8}
    (hv : (PoolCall.send port frame).Valid board) :
    ∃ c', Operation.answer (Agent.transmit port frame) s = .ok () ∧
      Reached board b start ch (calls ++ [.send port frame]) ((PoolCall.send port frame).after s) c' ∧
      (PoolCall.send port frame).Spares b c c' := by
  obtain ⟨hport, hlength⟩ := hv
  obtain ⟨c', hsend, hc'⟩ := PacketBuffers.send_ok h.placed h.serves.unstalled port hlength.2
    s.channel.settings s.channel.staging
  have hspares : (PoolCall.send port frame).Spares b c c' :=
    .of_confined hc'.toConfined rfl h.placed.ring_le
  have hring := hspares.ring nofun
  have hchannel : s.channel = ⟨.emulated c, s.channel.settings, s.channel.staging⟩ := by
    rw [← h.serves.device]
  rw [← hchannel] at hsend
  have hcheck : s.settings.board.check port s = .ok () s := by
    rw [h.board]
    exact Operation.require_ok hport
  have hget : (get : Operation Agent Agent) s = .ok s s := rfl
  have htransmit : Agent.transmit port frame s =
      .ok () (s.setChannel { s.channel with device := .emulated c' }) := by
    unfold Agent.transmit
    rw [Operation.bind_ok hget, Operation.bind_ok hcheck,
      Operation.bind_ok (Operation.require_ok hlength), Operation.bind_ok (Agent.buffers_ok h.packets)]
    exact Agent.onChannel_ok hsend
  refine ⟨c', ?_, h.concat ?_ hc'.toAlike (named_of_ring hring h.named) ?_ hc'.sent
    (h.alone_concat rfl hc'.memory hc'.failing), hspares⟩
  · rw [Operation.answer, htransmit]
  · rw [PoolCall.after, Operation.after, htransmit]
  · rw [contents_of_ring h.placed hring, h.held, hold]

theorem arrive (h : Reached board b start ch calls s c) (a : Arrival) :
    ∃ c', Operation.answer (Agent.arrive a) s = .ok () ∧
      Reached board b start ch (calls ++ [.arrive a]) ((PoolCall.arrive a).after s) c' ∧
      (PoolCall.arrive a).Spares b c c' := by
  obtain ⟨pool', hreceive, hsize, hnamed, hcontents⟩ := Chip.receive_ok (a := a) h.placed h.named
  have hdevice : (Device.onChip (fun _ => false) "receive" (.ok ()) "receive"
      (Chip.step (Chip.receive b.ring.offset a))).lift s.channel.device =
      .ok () (.emulated (c.setPool pool')) := by
    rw [h.serves.device]
    refine Operation.lift_ok ?_
    simp only [Device.onChip, Chip.step, hreceive]
  have harrive : Agent.arrive a s =
      .ok () (s.setChannel { s.channel with device := .emulated (c.setPool pool') }) :=
    (Operation.bind_ok (Agent.buffers_ok h.packets)).trans (Agent.onDevice_ok hdevice)
  refine ⟨c.setPool pool', ?_, h.concat ?_ ⟨rfl, hsize, rfl, rfl⟩ hnamed ?_ ?_
    (h.alone_concat rfl rfl rfl), .of_setPool pool' rfl⟩
  · rw [Operation.answer, harrive]
  · rw [PoolCall.after, Operation.after, harrive]
  · exact hcontents.trans (by rw [h.held, hold, List.map_set, received])
  · exact (List.append_nil _).symm

theorem frames_eq (h : Reached board b start ch calls s c) :
    b.frames c.pool = (waiting calls).reduceOption := by
  have hframe : Received.frame? ∘ received = id := funext frame?_received
  rw [PacketBuffers.frames, h.held, List.filterMap_map, hframe]
  rfl

theorem length_waiting (h : Reached board b start ch calls s c) :
    (waiting calls).length = b.slots.length := by
  rw [← PacketBuffers.length_contents c.pool b.ring.offset b.slots, h.held, List.length_map]

/-- What a poll answers, and what the ring holds after it. -/
theorem polled (h : Reached board b start ch calls s c) (accepting : Bool) :
    ∃ pool', Operation.answer (b.poll accepting) (.emulated c) = handed accepting (waiting calls) ∧
      Operation.after (b.poll accepting) (.emulated c) = .emulated (c.setPool pool') ∧
      pool'.size = c.pool.size ∧ Named pool' b.ring.offset b.slots ∧
      contents pool' b.ring.offset b.slots =
        (hold (waiting calls) (.poll accepting)).map received := by
  obtain ⟨pool', hanswer, hafter, hwiped⟩ := h.placed.handsOn rfl accepting
  rw [h.frames_eq] at hanswer
  refine ⟨pool', hanswer, hafter, hwiped.size, hwiped.named h.named, ?_⟩
  cases accepting with
  | true =>
      rw [hwiped.contents_of_accepting h.placed.ringFits, hold, List.map_map, List.map_const',
        ← h.length_waiting]
      exact (List.map_const' ..).symm
  | false =>
      -- Nothing in the ring is malformed, so nothing is cleared.
      have hwell : .malformed ∉ contents c.pool b.ring.offset b.slots := by
        rw [h.held, List.mem_map]
        rintro ⟨_ | _, -, hf⟩ <;> cases hf
      have hkept (a : Nat) : pool'.bytes.read a = c.pool.bytes.read a :=
        hwiped.kept a fun _ hi => (PacketBuffers.not_clears_of_notMem hwell hi).elim
      rw [PacketBuffers.contents_congr (fun a _ _ => hkept a) fun _ _ a _ _ => hkept a]
      exact h.held

theorem poll (h : Reached board b start ch calls s c) (accepting : Bool) :
    ∃ c', Operation.answer (Agent.receive accepting) s = handed accepting (waiting calls) ∧
      Reached board b start ch (calls ++ [.poll accepting]) ((PoolCall.poll accepting).after s) c' ∧
      (PoolCall.poll accepting).Spares b c c' := by
  obtain ⟨pool', hanswer, hafter, hsize, hnamed, hheld⟩ := h.polled accepting
  have hreceive : Agent.receive accepting s = Agent.onDevice (b.poll accepting) s :=
    Operation.bind_ok (Agent.buffers_ok h.packets)
  refine ⟨c.setPool pool', ?_, h.concat ?_ ⟨rfl, hsize, rfl, rfl⟩ hnamed hheld
    (List.append_nil _).symm (h.alone_concat rfl rfl rfl), .of_setPool pool' rfl⟩
  · rw [Operation.answer, hreceive, ← Operation.answer, Agent.answer_onDevice, h.serves.device,
      hanswer]
  · rw [PoolCall.after, Operation.after, hreceive, ← Operation.after, Agent.after_onDevice,
      h.serves.device, hafter]

/-- Every call keeps the tie to the calls so far. -/
theorem step (h : Reached board b start ch calls s c) {call : PoolCall} (hv : call.Valid board) :
    ∃ c', Reached board b start ch (calls ++ [call]) (call.after s) c' ∧ call.Spares b c c' := by
  cases call with
  | command t =>
      obtain ⟨c', -, hstep⟩ := h.command t
      exact ⟨c', hstep⟩
  | send port frame =>
      obtain ⟨c', -, hstep⟩ := h.send hv
      exact ⟨c', hstep⟩
  | arrive a =>
      obtain ⟨c', -, hstep⟩ := h.arrive a
      exact ⟨c', hstep⟩
  | poll accepting =>
      obtain ⟨c', -, hstep⟩ := h.poll accepting
      exact ⟨c', hstep⟩

/-- A run of calls. -/
theorem run (h : Reached board b start ch calls s c) {more : List PoolCall}
    (hv : ∀ call ∈ more, call.Valid board) :
    ∃ c', Reached board b start ch (calls ++ more) (afterAll more s) c' := by
  induction more generalizing calls s c with
  | nil => exact ⟨c, by rwa [List.append_nil]⟩
  | cons call more ih =>
      obtain ⟨c', hc', -⟩ := h.step (hv call List.mem_cons_self)
      have hrest := ih hc' fun other hother => hv other (List.mem_cons_of_mem _ hother)
      rwa [List.append_assoc] at hrest

end Reached

/-! ### Opening -/

/-- An agent that sends and receives frames has a channel and buffers in the pool. -/
theorem reached_of_open {settings : Settings} (ho : Agent.overDevice settings (.emulated c) = .ok s)
    (hp : settings.packets = true) (hst : c.stalled = false) :
    ∃ b ch c', Channel.open? settings.channel (.emulated c) = .ok ch ∧
      b.Placed ⟨c.poolBase, c.pool.size⟩ ∧ Reached settings.board b c ch [] s c' := by
  have hwaiting : (waiting []).map received = List.replicate PacketBuffers.ringSize .nothing :=
    List.map_replicate
  unfold Agent.overDevice at ho
  cases hopen : Channel.open? settings.channel (.emulated c) with
  | error e =>
      rw [hopen] at ho
      cases ho
  | ok ch =>
      obtain ⟨hdevice, -⟩ := Channel.opened hopen
      have hchannel : (Except.ok ch).mapError Error.ofDevice = .ok ch := rfl
      simp only [hopen, hchannel, bind, Except.bind, if_pos hp, hdevice] at ho
      cases hbuffers : PacketBuffers.open? (.emulated c) with
      | error e d =>
          rw [hbuffers] at ho
          cases ho
      | ok b d =>
          rw [hbuffers] at ho
          cases ho
          obtain ⟨hplaced, pool', rfl, hsize, harmed⟩ := (PacketBuffers.open?_ends c).of_ok hbuffers
          have hserves := Channel.serves_of_open hopen hst hplaced.base_lt
          have halike : c.Alike (c.setPool pool') := ⟨rfl, hsize, rfl, rfl⟩
          refine ⟨b, ch, c.setPool pool', rfl, hplaced, rfl, rfl, hserves.of_alike halike, ?_,
            harmed.named, ?_, (List.append_nil _).symm, c, hserves, rfl, rfl⟩
          · rwa [halike.poolBase, halike.poolSize]
          · refine (PacketBuffers.contents_of_clear harmed.clear).trans ?_
            rw [List.map_const', hplaced.length, hwaiting]

/-! ### Runs -/

/-- What becomes of the next call after some calls, of an agent that was opened over the chip `start`:
it depends on those calls alone that are of its own kind.  `ch` is a channel over the same chip that
was left alone. -/
structure Unmixed (board : Board) (b : PacketBuffers) (start : Chip) (ch : Channel)
    (calls : List PoolCall) (s : Agent) : Prop where
  command : ∀ t : Transfer,
    Operation.answer (Agent.onChannel t.run) s = Operation.answer t.run (alone ch calls)
  memory : s.chip.memory = (alone ch calls).memory
  send : ∀ port frame, (PoolCall.send port frame).Valid board →
    Operation.answer (Agent.transmit port frame) s = .ok ()
  sent : s.chip.sent = start.sent ++ PoolCall.sent calls
  arrive : ∀ a, Operation.answer (Agent.arrive a) s = .ok ()
  poll : ∀ accepting,
    Operation.answer (Agent.receive accepting) s = handed accepting (waiting calls)
  spares : ∀ call : PoolCall, call.Valid board → call.Spares b s.chip (call.after s).chip

theorem Reached.unmixed (h : Reached board b start ch calls s c) :
    Unmixed board b start ch calls s where
  command t := by
    obtain ⟨_, hanswer, -⟩ := h.command t
    exact hanswer
  memory := by
    obtain ⟨d, hserves, hmemory, -⟩ := h.alone
    rw [Agent.chip_eq h.serves, hserves.memory_eq, hmemory]
  send port frame hv := by
    obtain ⟨_, hanswer, -⟩ := h.send hv
    exact hanswer
  sent := by rw [Agent.chip_eq h.serves, h.sent]
  arrive a := by
    obtain ⟨_, hanswer, -⟩ := h.arrive a
    exact hanswer
  poll accepting := by
    obtain ⟨_, hanswer, -⟩ := h.poll accepting
    exact hanswer
  spares call hv := by
    obtain ⟨c', hc', hspares⟩ := h.step hv
    rwa [Agent.chip_eq h.serves, Agent.chip_eq hc'.serves]

/-- Commands, frames that are sent and frames that come in do not get into each other's way: after any
calls, of an agent that was opened over a chip that answers, the next call is answered as if all others
had been of its own kind. -/
theorem calls_unmixed {settings : Settings} (ho : Agent.overDevice settings (.emulated c) = .ok s)
    (hp : settings.packets = true) (hst : c.stalled = false) :
    ∃ b ch, s.packets = some b ∧ b.Placed ⟨c.poolBase, c.pool.size⟩ ∧
      Channel.open? settings.channel (.emulated c) = .ok ch ∧
      ∀ calls : List PoolCall, (∀ call ∈ calls, call.Valid settings.board) →
        Unmixed settings.board b c ch calls (afterAll calls s) := by
  obtain ⟨b, ch, _, hopen, hplaced, hreached⟩ := reached_of_open ho hp hst
  refine ⟨b, ch, hreached.packets, hplaced, hopen, fun calls hv => ?_⟩
  obtain ⟨_, hcalls⟩ := hreached.run hv
  exact hcalls.unmixed

theorem calls_unmixed_crossed :
    let settings : Settings := { Settings.defaults with packets := true }
    let c : Chip := .fresh 0x10000000 262144
    let calls : List PoolCall := [.send ⟨1, by decide, by decide⟩ [1, 2, 3, 4],
      .arrive ⟨5, 7, 0x80000002, [8, 9], by decide, by decide, by decide, by decide, by decide⟩,
      .command ⟨.write, 0x7120000, [10, 11], 0⟩, .send ⟨2, by decide, by decide⟩ [5, 6], .poll false]
    ∃ s, Agent.overDevice settings (.emulated c) = .ok s ∧ settings.packets = true ∧
      c.stalled = false ∧ (∀ call ∈ calls, call.Valid settings.board) ∧
      (∃ b ch, Unmixed settings.board b c ch calls (afterAll calls s)) ∧
      (afterAll calls s).chip.sent = [⟨1, [1, 2, 3, 4]⟩, ⟨2, [5, 6]⟩] ∧
      Operation.answer (Agent.receive true) (afterAll calls s) = .ok [⟨7, [8, 9]⟩] := by
  intro settings c calls
  have hopened : (Agent.overDevice settings (.emulated c)).isOk = true := by decide +kernel
  cases ho : Agent.overDevice settings (.emulated c) with
  | error e =>
      rw [ho] at hopened
      cases hopened
  | ok s =>
      have hv : ∀ call ∈ calls, call.Valid settings.board := by decide
      obtain ⟨b, ch, -, -, -, hrun⟩ := calls_unmixed ho rfl rfl
      have hunmixed := hrun calls hv
      exact ⟨s, rfl, rfl, rfl, hv, ⟨b, ch, hunmixed⟩, hunmixed.sent, hunmixed.poll true⟩

end PoolCall

end ControlPlane
