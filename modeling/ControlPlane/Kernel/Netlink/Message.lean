import ControlPlane.Kernel.Event
import ControlPlane.Routing.Routes

/-! # Kernel messages

The kernel announces changes in messages, each with a list of attributes.  `Message.events` gives
the events that a message carries.

* A link's name is its first name attribute; a link without one gives no event.
* Only IPv4 addresses and unicast IPv4 routes count.  A route's destination, gateway and interface
  are the last ones given, and a destination that is not given is the unspecified address.
* A neighbour needs an IPv4 address, the last one given; its link-layer address counts if it has six
  octets. -/

namespace ControlPlane.Netlink

inductive Family where
  | inet
  | inet6
  | other
  deriving DecidableEq

inductive LinkAttribute where
  | name (name : String)
  | other
  deriving DecidableEq

inductive RouteAttribute where
  | destination (addr : IpAddress)
  | gateway (addr : IpAddress)
  | output (ifindex : IfIndex)
  | other
  deriving DecidableEq

inductive NeighborAttribute where
  | destination (addr : IpAddress)
  | linkAddress (octets : List UInt8)
  | other
  deriving DecidableEq

inductive Message where
  | link (change : Change) (ifindex : IfIndex) (up : Bool) (attributes : List LinkAttribute)
  | address (change : Change) (family : Family) (ifindex : IfIndex)
  | route (change : Change) (family : Family) (unicast : Bool) (len : Nat)
      (attributes : List RouteAttribute)
  | neighbor (change : Change) (ifindex : IfIndex) (attributes : List NeighborAttribute)
  /-- A message that announces nothing of these. -/
  | other

/-- What the last attribute of a kind gives, if there is one. -/
def last? {α β : Type} (pick : α → Option β) (attributes : List α) : Option β :=
  (attributes.filterMap pick).getLast?

namespace LinkAttribute

def name? : LinkAttribute → Option String
  | name s => some s
  | other => none

end LinkAttribute

namespace RouteAttribute

def destination? : RouteAttribute → Option Ipv4
  | destination (.v4 a) => some a
  | _ => none

def gateway? : RouteAttribute → Option Ipv4
  | gateway (.v4 a) => some a
  | _ => none

def output? : RouteAttribute → Option IfIndex
  | output i => some i
  | _ => none

end RouteAttribute

namespace NeighborAttribute

def destination? : NeighborAttribute → Option Ipv4
  | destination (.v4 a) => some a
  | _ => none

def linkAddress? : NeighborAttribute → Option (List UInt8)
  | linkAddress octets => some octets
  | _ => none

end NeighborAttribute

namespace Message

def routeEvents (change : Change) (len : Nat) (attributes : List RouteAttribute) : List Event :=
  let destination := (last? RouteAttribute.destination? attributes).getD ⟨0⟩
  match Subnet.make destination len with
  | .error _ => []
  | .ok subnet =>
    [.route subnet change (last? RouteAttribute.gateway? attributes)
      (last? RouteAttribute.output? attributes)]

def neighborEvents (change : Change) (ifindex : IfIndex) (attributes : List NeighborAttribute) :
    List Event :=
  match last? NeighborAttribute.destination? attributes with
  | none => []
  | some ip =>
    let mac := (last? NeighborAttribute.linkAddress? attributes).bind MacAddr.ofOctets?
    [.neighbor ip ifindex mac change]

/-- The events that a message carries. -/
def events : Message → List Event
  | link .removed ifindex _ _ => [.linkRemoved ifindex]
  | link .added ifindex up attributes =>
    match attributes.findSome? LinkAttribute.name? with
    | some name => [.link ifindex name up]
    | none => []
  | address change .inet ifindex => [.address ifindex change]
  | address _ _ _ => []
  | route change .inet true len attributes => routeEvents change len attributes
  | route _ _ _ _ _ => []
  | neighbor change ifindex attributes => neighborEvents change ifindex attributes
  | other => []

end Message

end ControlPlane.Netlink
