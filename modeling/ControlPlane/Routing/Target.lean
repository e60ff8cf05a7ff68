/-! # What routes forward to

Interfaces, egress objects, multipath groups and route slots are named by their index in the
chip's tables.  A route forwards to an egress object or to a group of them. -/

namespace ControlPlane

/-- Index of a router interface. -/
abbrev InterfaceId := Nat

/-- Index of an egress object. -/
abbrev EgressId := Nat

/-- Index of a multipath group. -/
abbrev GroupId := Nat

/-- Index of a route's slot. -/
abbrev RouteSlot := Nat

inductive RouteTarget where
  | egress (id : EgressId)
  | group (id : GroupId)
  deriving DecidableEq

namespace RouteTarget

def text : RouteTarget → String
  | egress id => s!"egress {id}"
  | group id => s!"ecmp {id}"

/-- The index the hardware is told. -/
def index : RouteTarget → Nat
  | egress id => id
  | group id => id

/-- Whether the hardware is told to look up a group. -/
def isGroup : RouteTarget → Bool
  | egress _ => false
  | group _ => true

end RouteTarget

end ControlPlane
