import ControlPlane.Bringup
import ControlPlane.Config.Load
import ControlPlane.Kernel.Follower
import ControlPlane.Kernel.Netlink.Datagram
import ControlPlane.Packet.Ring
import ControlPlane.Taps

/-! # The agent

An `Agent` is a switch that follows the kernel, run with given settings, together with what it sends
and receives frames through.  Links are polled by one task and frames are received by one task, each
of which can be started only once.

A `Host` is what the operating system answers to the requests that a run makes of it. -/

namespace ControlPlane

/-- The answers of the operating system. -/
structure Host where
  /-- The text of a file. -/
  read : Settings.Reader
  /-- Opening a file to add to it. -/
  append : String → Except OsError Unit
  /-- Opening the node of a device. -/
  node : String → Except OsError Unit
  /-- Opening the tunnel device, which makes interfaces. -/
  tunnel : Except OsError Unit
  /-- Listening for kernel events, and what each read from the listener then gives. -/
  listen : Except OsError (List Netlink.Read)

structure Agent where
  settings : Settings
  follower : Follower Channel
  packets : Option PacketBuffers
  /-- Whether links are being polled. -/
  polling : Bool
  /-- Whether frames are being received. -/
  receiving : Bool

namespace Agent

variable {ε α : Type}

def device (s : Agent) : Device := s.follower.switch.bus.device

/-! ### Opening -/

/-- An agent over a device that is open. -/
def overDevice (settings : Settings) (d : Device) : Except Error Agent := do
  let channel ← (Channel.open? settings.channel d).mapError .ofDevice
  let agent (channel : Channel) (packets : Option PacketBuffers) : Agent :=
    ⟨settings, .fresh (.fresh settings.board channel), packets, false, false⟩
  if settings.packets then
    match PacketBuffers.open? channel.device with
    | .ok buffers d => return agent { channel with device := d } (some buffers)
    | .error e _ => throw e
  else
    return agent channel none

/-- Opens the device that settings choose, and an agent over it. -/
def openDevice (node : String → Except OsError Unit) (settings : Settings) :
    Except Error Agent := do
  let d ← (settings.device.openDevice node).mapError .ofDevice
  overDevice settings d

/-- A new agent over the same device, which keeps what the chip was told. -/
def reopen (s : Agent) : Except Error Agent := overDevice s.settings s.device

/-! ### Operations of one part -/

def onFollower (op : EStateM ε (Follower Channel) α) : EStateM ε Agent α :=
  Operation.focus follower (fun s follower => { s with follower := follower }) op

def onSwitch (op : EStateM ε (Switch Channel) α) : EStateM ε Agent α :=
  onFollower (Operation.focus Follower.switch (fun m sw => { m with switch := sw }) op)

def onChannel (op : EStateM ε Channel α) : EStateM ε Agent α :=
  onSwitch (Operation.focus Switch.bus (fun sw bus => { sw with bus := bus }) op)

def onDevice (op : EStateM ε Device α) : EStateM ε Agent α :=
  onChannel (Operation.focus Channel.device (fun ch d => { ch with device := d }) op)

/-! ### Events -/

/-- The agent with nothing known of the kernel, over the same switch. -/
def forget (s : Agent) : Agent := { s with follower := .fresh s.follower.switch }

/-- Handles an event and tells what became of it. -/
def handle (event : Event) (s : Agent) : EventOutcome × Agent :=
  let (outcome, follower) := Follower.handle event s.follower
  (outcome, { s with follower := follower })

/-- Handles a list of events; the answer holds the agent after each of them. -/
def follow (s : Agent) : List Event → List Agent
  | [] => []
  | event :: events =>
    let s := (s.handle event).2
    s :: s.follow events

/-! ### Frames -/

/-- The buffers that frames go through. -/
def buffers : Operation Agent PacketBuffers := fun s =>
  Operation.demand (.unsupported .packets) s.packets s

/-- Sends a frame out of a port. -/
def transmit (port : PortId) (frame : List UInt8) : Operation Agent Unit := do
  let s ← get
  s.settings.board.check port
  Operation.require (1 ≤ frame.length ∧ frame.length ≤ frameBytesMax)
    (.invalid (.frameLength frame.length))
  let b ← buffers
  onChannel (b.send port frame)

/-- Hands on every frame that was received; `accepting` tells whether anyone takes them. -/
def receive (accepting : Bool) : Operation Agent (List Frame) := do
  let b ← buffers
  onDevice (b.poll accepting)

/-- Starts receiving.  It counts as started even if the chip cannot be told. -/
def startReceiving : Operation Agent Unit := do
  let b ← buffers
  let s ← get
  Operation.require (s.receiving = false) (.other .receiverRunning)
  set { s with receiving := true }
  onChannel b.startReceiving

/-- Sends what the kernel puts on a tap.  Empty frames, and frames that cannot be sent, are
dropped. -/
def transmitAll (port : PortId) (frames : List (List UInt8)) : Operation Agent Unit :=
  Operation.forAll (fun frame => Operation.quietly (transmit port frame))
    (frames.filter fun frame => !frame.isEmpty)

/-! ### Links -/

/-- Reports changed links, given the states last reported. -/
def pollLinks (s : Agent) (last : Ports.LinkStates) :
    (List LinkChange × Ports.LinkStates) × Agent :=
  let (answer, sw) := s.follower.switch.pollLinks last
  (answer, { s with follower := { s.follower with switch := sw } })

/-- Starts polling links. -/
def startPolling : Operation Agent Unit := do
  let s ← get
  Operation.require (s.polling = false) (.other .pollerRunning)
  set { s with polling := true }

/-- Starts polling links and polls them for the first time. -/
def firstPoll : Operation Agent (List LinkChange) := do
  startPolling
  modifyGet fun s =>
    let ((changes, _), s) := s.pollLinks ∅
    (changes, s)

/-! ### Bring-up -/

/-- The files that settings name, as they read. -/
def files (read : Settings.Reader) (settings : Settings) : BringupFiles where
  script := settings.scriptFile.map fun path => (path, read path)
  speeds := settings.speedsFile.map fun path => (path, read path)

/-- Brings the switch up. -/
def bringUp (read : Settings.Reader) : EStateM StartFailure Agent Unit := fun s =>
  onSwitch (Switch.bringUp (files read s.settings)) s

end Agent

end ControlPlane
