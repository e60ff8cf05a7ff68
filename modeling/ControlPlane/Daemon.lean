import ControlPlane.Agent

/-! # The daemon

The daemon brings a switch up and then follows the kernel until a signal stops it.

* **Start.**  `Daemon.start` brings the switch up, begins to listen with nothing known of the
  kernel, makes the taps, and starts the tasks that poll links and receive frames, in this order.
  The first failure ends it.
* **Run.**  `Daemon.run` is a start and then one event after another; it answers the states that the
  agent goes through.
* **Program.**  `Program.start` is a whole start of the program from its command line, and an `Exit`
  is how a run of it ends. -/

namespace ControlPlane

namespace Daemon

/-- Makes the taps, if there are to be any. -/
def createTaps (host : Host) : Operation Agent Unit := fun s =>
  if s.settings.taps then
    match Taps.create host.tunnel s.settings.board with
    | .ok _ => .ok () s
    | .error e => .error e s
  else
    .ok () s

/-- Starts to receive frames, if there are to be any. -/
def startReceiving : Operation Agent Unit := do
  let s ← get
  if s.settings.packets then
    Agent.startReceiving

/-- Starts the daemon; the answer holds the reads that its listener will give. -/
def start (host : Host) : EStateM StartFailure Agent (List Netlink.Read) := do
  Agent.bringUp host.read
  let reads ←
    match host.listen with
    | .ok reads => pure reads
    | .error e => throw (.listener (.io e))
  modify Agent.forget
  Operation.mapError .taps (createTaps host)
  Operation.mapError .poller Agent.startPolling
  Operation.mapError .receiver startReceiving
  return reads

/-- Hands on the frames received so far. -/
def receive (s : Agent) : Agent := Operation.after (Agent.receive true) s

/-- The states that the agent goes through from its start on. -/
def run (host : Host) : EStateM StartFailure Agent (List Agent) := fun s =>
  match start host s with
  | .error e s => .error e s
  | .ok reads s =>
    let polled := receive s
    let later := polled.follow (Netlink.eventsOfReads reads)
    .ok (s :: polled :: later) ((polled :: later).getLast?.getD polled)

/-- For each condition, whether it holds in a state at or after the one where the condition before
it was found to hold. -/
def holdInTurn {σ : Type} : List (σ → Bool) → List σ → List Bool
  | [], _ => []
  | p :: ps, states =>
    match states.dropWhile fun s => !p s with
    | [] => false :: holdInTurn ps states.getLast?.toList
    | rest => true :: holdInTurn ps rest

end Daemon

/-! ### The program -/

/-- How a run of the program ends. -/
inductive Exit where
  /-- A signal stopped it. -/
  | stopped
  | help
  | usage (why : UsageError)
  | failed (message : String) (cause : Option String)

namespace Exit

/-- The failure that a list of messages tells of, the outermost first. -/
def ofMessages : List String → Exit
  | [] => failed "" none
  | message :: causes => failed message causes.head?

/-- The exit status. -/
def status : Exit → UInt8
  | stopped => 0
  | help => 0
  | usage _ => 1
  | failed _ _ => 1

/-- What is said on standard error, if anything is. -/
def report? : Exit → Option String
  | stopped => none
  | help => none
  | usage why => some why.message
  | failed message none => some s!"Error: {message}"
  | failed message (some cause) => some s!"Error: {message}\n\nCaused by:\n    {cause}"

end Exit

namespace Program

/-- Opens the log, if it goes to a file. -/
def openLog (host : Host) (path? : Option String) : Except LogFailure Unit :=
  match path? with
  | none => .ok ()
  | some path => (host.append path).mapError fun e => ⟨path, e⟩

/-- Opens the agent that options ask for. -/
def openAgent (host : Host) (o : Options) : Except Exit Agent := do
  let settings ← (Settings.load host.read o).mapError fun e => .ofMessages [e.message]
  (openLog host settings.logFile).mapError fun e => .ofMessages e.messages
  (Agent.openDevice host.node settings).mapError fun e => .ofMessages [e.message]

/-- Starts the program; the answer is the agent that follows the kernel from then on. -/
def start (host : Host) (words : List String) : Except Exit Agent := do
  match ← (Options.parse words).mapError .usage with
  | .help => throw .help
  | .run options =>
    let agent ← openAgent host options
    match Daemon.run host agent with
    | .ok _ agent => return agent
    | .error e _ => throw (.ofMessages e.messages)

/-- How a run ends that is stopped by a signal once it has started. -/
def run (host : Host) (words : List String) : Exit :=
  match start host words with
  | .ok _ => .stopped
  | .error exit => exit

end Program

end ControlPlane
