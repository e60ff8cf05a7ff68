import ControlPlane.Bits
import ControlPlane.Board
import ControlPlane.Device.Channel
import ControlPlane.Panel.Location

/-! # Port state

Ports are enabled lane by lane in a word that the ports of a block share, so the word of each block
is kept here and written whole.  A word is recorded once the chip has taken it.

The state of a port's link is read from the chip; where it cannot be read, a port counts as up when
it is enabled.  `poll` looks at every watched port and reports those whose link has changed since it
was last reported, and those that were never reported. -/

namespace ControlPlane

/-- The link of a port went up or down. -/
structure LinkChange where
  port : PortId
  up : Bool
  deriving DecidableEq

structure Ports where
  /-- The enabled lanes of each block, as bits. -/
  enables : Memory Nat
  speeds : KeyMap PortId PortSpeed
  watched : KeyMap PortId Unit

namespace Ports

variable {δ : Type} [Bus δ]

def fresh : Ports := ⟨.clear, ∅, ∅⟩

def isEnabled (ports : Ports) (p : PortId) : Bool :=
  Bits.flag (ports.enables.read p.locate.block) p.locate.lane

/-- Enables or disables a port. -/
def setEnabled (board : Board) (p : PortId) (on : Bool) : Operation (Ports × δ) Unit :=
  fun (ports, bus) =>
    if board.Has p then
      let l := p.locate
      let word := Bits.putFlag (ports.enables.read l.block) l.lane on
      match (Bus.write l.enableWord [UInt32.ofNat word] : DeviceOperation δ Unit).lift bus with
      | .ok _ bus => .ok () ({ ports with enables := ports.enables.write l.block word }, bus)
      | .error e bus => .error e (ports, bus)
    else
      .error (.invalid (.beyondPorts p board.ports)) (ports, bus)

/-- Whether a port is enabled. -/
def enabled (board : Board) (p : PortId) : Operation (Ports × δ) Bool := do
  board.check p
  let (ports, _) ← get
  return ports.isEnabled p

/-- Whether a port's link is up. -/
def linkUp (board : Board) (p : PortId) : Operation (Ports × δ) Bool := fun (ports, bus) =>
  if board.Has p then
    match (Bus.read p.locate.modeRegister 1 : DeviceOperation δ _) bus with
    | .ok words bus =>
      .ok (words.head?.any fun w => Bits.flag w.toNat Location.linkBit) (ports, bus)
    | .error _ bus => .ok (ports.isEnabled p) (ports, bus)
  else
    .error (.invalid (.beyondPorts p board.ports)) (ports, bus)

/-- Sets a port's speed, which can only be that of its lane. -/
def setSpeed (board : Board) (p : PortId) (speed : PortSpeed) : Operation (Ports × δ) Unit := do
  board.check p
  Operation.require (speed = .gigabit10) (.unsupported (.speed p speed))
  modify fun (ports, bus) => ({ ports with speeds := ports.speeds.insert p speed }, bus)

def speed (board : Board) (p : PortId) : Operation (Ports × δ) PortSpeed := do
  board.check p
  let (ports, _) ← get
  return (ports.speeds.get? p).getD .gigabit10

/-- Starts or stops watching a port's link. -/
def watch (ports : Ports) (p : PortId) (on : Bool) : Ports :=
  { ports with watched := if on then ports.watched.insert p () else ports.watched.erase p }

/-! ### Link changes -/

/-- The link states last reported. -/
abbrev LinkStates := KeyMap PortId Bool

/-- Looks at ports in turn, given the states last reported. -/
def pollAll (board : Board) : List PortId → LinkStates →
    Ports × δ → (List LinkChange × LinkStates) × (Ports × δ)
  | [], last, s => (([], last), s)
  | p :: ps, last, s =>
    match linkUp board p s with
    | .error _ s => pollAll board ps last s
    | .ok up s =>
      let (rest, s) := pollAll board ps (last.insert p up) s
      if last.get? p = some up then (rest, s) else ((⟨p, up⟩ :: rest.1, rest.2), s)

/-- The states of ports that are still watched. -/
def stillWatched (ports : Ports) (last : LinkStates) : LinkStates :=
  last.keys.foldl (fun m p => if ports.watched.contains p then m else m.erase p) last

/-- Looks at every watched port, in order; the answer holds the changes and the states now
reported. -/
def poll (board : Board) (last : LinkStates) (s : Ports × δ) :
    (List LinkChange × LinkStates) × (Ports × δ) :=
  pollAll board s.1.watched.keys (s.1.stillWatched last) s

/-! ### Counters -/

/-- Reads a counter, whose first word is the high one. -/
def counter (board : Board) (p : PortId) (c : Counter) : Operation (Ports × δ) Nat :=
  fun (ports, bus) =>
    if ¬ board.Has p then
      .error (.invalid (.beyondPorts p board.ports)) (ports, bus)
    else if ¬ Bus.readable bus then
      .error (.unsupported (.counter c p)) (ports, bus)
    else
      match (Bus.read (p.locate.counterWords c) 2 : DeviceOperation δ _).lift bus with
      | .error e bus => .error e (ports, bus)
      | .ok [high, low] bus => .ok (high.toNat * 2 ^ 32 + low.toNat) (ports, bus)
      | .ok _ bus => .error (.other (.shortCounter c p)) (ports, bus)

end Ports

end ControlPlane
