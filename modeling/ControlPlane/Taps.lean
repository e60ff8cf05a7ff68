import ControlPlane.Panel.Ports

/-! # Interfaces that carry a port's frames

A tap is a kernel interface that stands for a front-panel port: frames that the chip hands to the
processor go to the tap of the port they came in by, and frames that the kernel sends on a tap go
out of its port.  The state of the port's link is shown as the carrier of the tap.

A tap is made by asking the kernel's tunnel device, and the name asked for must be one that the
kernel takes. -/

namespace ControlPlane

structure Tap where
  port : PortId
  name : String
  deriving DecidableEq

namespace Tap

/-- The node of the kernel's tunnel device. -/
def tunnelPath : String := "/dev/net/tun"

/-- An interface's name is shorter than this, in bytes. -/
def nameLimit : Nat := 16

/-- Whether a character may stand in an interface's name. -/
def isNameChar (c : Char) : Bool :=
  c != '\x00' && c != '/' && c != ' ' && c != '\t' && c != '\n' && c != '\x0c' && c != '\r'

def isName (name : String) : Bool :=
  !name.isEmpty && name.utf8ByteSize < nameLimit && name.toList.all isNameChar

/-- Makes a tap; `tunnel` is what the system answers when the tunnel device is opened. -/
def create (tunnel : Except OsError Unit) (name : String) (port : PortId) : Except Error Tap :=
  if isName name then
    match tunnel with
    | .ok _ => .ok ⟨port, name⟩
    | .error e => .error (.io (.during tunnelPath e))
  else
    .error (.invalid (.ifname name))

/-- The frames that go to a tap, in order. -/
def delivered (tap : Tap) (frames : List Frame) : List (List UInt8) :=
  (frames.filter fun f => f.port.toNat == tap.port.num).map Frame.data

end Tap

/-- Taps by port. -/
abbrev Taps := KeyMap PortId Tap

namespace Taps

/-- A list of taps, of which the last one for a port counts. -/
def ofList (taps : List Tap) : Taps := taps.foldl (fun m tap => m.insert tap.port tap) ∅

/-- The taps of ports named by the board, which need not be made. -/
def attached (board : Board) (ports : List PortId) : Taps :=
  ofList (ports.map fun p => ⟨p, p.ifname board.stem⟩)

/-- Makes a tap for every port of a board. -/
def create (tunnel : Except OsError Unit) (board : Board) : Except Error Taps := do
  let taps ← (PortId.first board.ports).mapM fun p => Tap.create tunnel (p.ifname board.stem) p
  return ofList taps

/-- Shows the state of a port's link on its tap, if it has one; `control` is what the system answers
when the carrier is set. -/
def showLink (taps : Taps) (control : Except OsError Unit) (change : LinkChange) :
    Except Error Unit :=
  match taps.get? change.port, control with
  | some tap, .error e => .error (.io (.during s!"setting carrier on {tap.name}" e))
  | _, _ => .ok ()

/-- The frames that each tap gets. -/
def deliver (taps : Taps) (frames : List Frame) : List (PortId × List (List UInt8)) :=
  taps.toList.map fun (port, tap) => (port, tap.delivered frames)

end Taps

end ControlPlane
