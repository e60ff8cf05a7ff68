import ControlPlane.Kernel.Event
import ControlPlane.Switch

/-! # Following the kernel

A `Follower` is a switch that follows the kernel.  Each event is applied to the switch's tables, and
what later events must be tied to is kept: the port that an index names, the interface created for a
port, the addresses of neighbours, and the egress object behind each route that was installed.

* **Routes through a gateway** need the gateway's MAC address.  A route whose gateway is not
  resolved is pending, and is installed once a neighbour event gives the address.
* **Connected subnets** have no gateway and are not installed.  Each neighbour that is resolved gets
  a host route instead, unless the kernel has a route of its own for the address.
* **Egress objects** are made for one route each, and go when that route does.

An event that cannot be applied is reported as failed, and never stops those after it. -/

namespace ControlPlane

/-- Where a route leads. -/
structure NextHop where
  gateway : Ipv4
  via : IfIndex
  deriving DecidableEq

/-- A route in the tables, and the egress object made for it. -/
structure InstalledRoute where
  hop : NextHop
  egress : EgressId
  deriving DecidableEq

/-- The host route of a neighbour. -/
structure HostRoute where
  ifindex : IfIndex
  mac : MacAddr
  egress : EgressId
  deriving DecidableEq

structure Follower (δ : Type) where
  switch : Switch δ
  /-- The front-panel port that an index names. -/
  ports : KeyMap IfIndex PortId
  /-- The interface created for a port. -/
  interfaces : KeyMap PortId InterfaceId
  neighbors : KeyMap Neighbor MacAddr
  /-- Routes that wait for their gateway's address. -/
  pending : KeyMap Subnet NextHop
  installed : KeyMap Subnet InstalledRoute
  hosts : KeyMap Ipv4 HostRoute

/-- A port with the interface created for it. -/
structure RoutedPort where
  port : PortId
  interface : InterfaceId
  deriving DecidableEq

namespace Follower

variable {δ α : Type}

/-- A follower that has not seen any event. -/
def fresh (switch : Switch δ) : Follower δ := ⟨switch, ∅, ∅, ∅, ∅, ∅, ∅⟩

/-- The port that an index names, with its interface. -/
def routedPort? (m : Follower δ) (ifindex : IfIndex) : Option RoutedPort :=
  (m.ports.get? ifindex).bind fun port => (m.interfaces.get? port).map fun id => ⟨port, id⟩

/-- Whether any neighbour has a MAC address. -/
def hasMac (m : Follower δ) (mac : MacAddr) : Bool := m.neighbors.values.contains mac

/-- Whether any index names a port. -/
def names (m : Follower δ) (port : PortId) : Bool := m.ports.values.contains port

/-- An operation of the switch. -/
def onSwitch (op : Operation (Switch δ) α) : Operation (Follower δ) α :=
  Operation.focus switch (fun m sw => { m with switch := sw }) op

/-- Does something whose failure changes nothing for those that asked for it. -/
def tryTo (op : Operation (Follower δ) Unit) : Operation (Follower δ) Unit := Operation.quietly op

/-- Does something to a thing that may not be there, and tells whether it was. -/
def ifThere (op : Operation (Follower δ) Unit) : Operation (Follower δ) Bool := fun m =>
  match op m with
  | .ok _ m => .ok true m
  | .error (.missing _) m => .ok false m
  | .error e m => .error e m

/-- Stops watching a port that no index names. -/
def forget (m : Follower δ) (port : PortId) : Follower δ :=
  if m.names port then m else { m with switch := m.switch.watchPort port false }

variable [Bus δ]

/-! ### Egress objects and host routes -/

/-- Destroys an egress object that nobody should use any more. -/
def release (id : EgressId) : Operation (Follower δ) Unit :=
  tryTo (onSwitch (Switch.destroyEgress id))

/-- Destroys an egress object, if there is one. -/
def release? : Option EgressId → Operation (Follower δ) Unit
  | some id => release id
  | none => pure ()

/-- Makes an egress object for one route, which `route` adds. -/
def provide (rp : RoutedPort) (mac : MacAddr)
    (route : EgressId → Operation (Switch δ) RouteSlot) : Operation (Follower δ) EgressId := do
  let egress ← onSwitch (Switch.createEgress ⟨mac, rp.port, rp.interface⟩)
  let _ ← Operation.orUndo (onSwitch (route egress)) (release egress)
  return egress

/-- Whether a neighbour's host route is wanted: the kernel has no route for the address, and no
host route leads to the same place already. -/
def wantsHost (m : Follower δ) (n : Neighbor) (mac : MacAddr) : Bool :=
  !(m.installed.contains (.host n.ip)) && !(m.pending.contains (.host n.ip)) &&
    match m.hosts.get? n.ip with
    | some h => !(h.ifindex == n.ifindex && h.mac == mac)
    | none => true

/-- Installs the host route of a neighbour, in place of an earlier one for its address. -/
def installHost (n : Neighbor) (rp : RoutedPort) (mac : MacAddr) : Operation (Follower δ) Unit := do
  let m ← get
  if m.wantsHost n mac then
    let egress ← provide rp mac (Switch.addHost (.v4 n.ip))
    let m ← get
    set { m with hosts := m.hosts.insert n.ip ⟨n.ifindex, mac, egress⟩ }
    release? ((m.hosts.get? n.ip).map HostRoute.egress)

/-- Removes the host route of an address, and tells whether there was one. -/
def withdrawHost (ip : Ipv4) : Operation (Follower δ) Bool := do
  let m ← get
  match m.hosts.get? ip with
  | none => return false
  | some host =>
    let _ ← ifThere (onSwitch (Switch.removeRoute (.host ip)))
    modify fun m => { m with hosts := m.hosts.erase ip }
    release host.egress
    return true

/-- The first neighbour with an address, its MAC, and its port with an interface. -/
def resolved? (m : Follower δ) (ip : Ipv4) : Option (Neighbor × MacAddr × RoutedPort) :=
  match m.neighbors.toList.find? fun (n, _) => n.ip == ip with
  | none => none
  | some (n, mac) => (m.routedPort? n.ifindex).map fun rp => (n, mac, rp)

/-- Puts back the host route of an address that the kernel no longer has a route for. -/
def restoreHost (ip : Ipv4) : Operation (Follower δ) Unit := do
  let m ← get
  match m.resolved? ip with
  | none => return ()
  | some (n, mac, rp) => tryTo (installHost n rp mac)

/-! ### Routes -/

/-- Drops the record of an installed route, with its egress object. -/
def dropInstalled (subnet : Subnet) : Operation (Follower δ) Unit := do
  let m ← get
  set { m with installed := m.installed.erase subnet }
  release? ((m.installed.get? subnet).map InstalledRoute.egress)

/-- Removes an installed route, with its egress object. -/
def withdraw (subnet : Subnet) : Operation (Follower δ) Unit := do
  let _ ← ifThere (onSwitch (Switch.removeRoute subnet))
  dropInstalled subnet

/-- Drops the record of the host route that a kernel route for a single address has replaced in the
tables. -/
def supersedeHost (subnet : Subnet) : Operation (Follower δ) Unit := do
  if subnet.len = 32 then
    let m ← get
    set { m with hosts := m.hosts.erase subnet.addr }
    release? ((m.hosts.get? subnet.addr).map HostRoute.egress)

/-- Installs a route whose gateway has a MAC address. -/
def install (subnet : Subnet) (hop : NextHop) (rp : RoutedPort) (mac : MacAddr) :
    Operation (Follower δ) Unit := do
  let egress ← provide rp mac fun egress => Switch.addRoute subnet (.egress egress)
  modify fun m => { m with pending := m.pending.erase subnet }
  supersedeHost subnet
  let m ← get
  set { m with installed := m.installed.insert subnet ⟨hop, egress⟩ }
  release? ((m.installed.get? subnet).map InstalledRoute.egress)

def routeAdded (subnet : Subnet) (gateway : Option Ipv4) (via : Option IfIndex) :
    Operation (Follower δ) EventOutcome := do
  let m ← get
  match gateway, via with
  | some gateway, some via =>
    match m.ports.get? via with
    | none => return .ignored
    | some port =>
      match m.interfaces.get? port with
      | none => throw (.invalid (.unaddressed port subnet))
      | some id =>
        match m.neighbors.get? ⟨gateway, via⟩ with
        | some mac =>
          install subnet ⟨gateway, via⟩ ⟨port, id⟩ mac
          return .applied
        | none =>
          if m.installed.contains subnet then
            withdraw subnet
          modify fun m => { m with pending := m.pending.insert subnet ⟨gateway, via⟩ }
          return .pending
  | _, _ => return .ignored

def routeRemoved (subnet : Subnet) : Operation (Follower δ) EventOutcome := do
  let m ← get
  set { m with pending := m.pending.erase subnet }
  let wasThere ← ifThere (onSwitch (Switch.removeRoute subnet))
  if wasThere || m.installed.contains subnet then
    dropInstalled subnet
    if subnet.len = 32 then
      restoreHost subnet.addr
    return .applied
  else if m.pending.contains subnet then
    return .applied
  else
    return .ignored

/-! ### Interfaces and their addresses -/

def link (ifindex : IfIndex) (name : String) (up : Bool) : Operation (Follower δ) EventOutcome := do
  let m ← get
  match m.switch.board.named? name with
  | none =>
    let m' := { m with ports := m.ports.erase ifindex }
    match m.ports.get? ifindex with
    | some old => set (m'.forget old)
    | none => set m'
    return .ignored
  | some port =>
    let m' := { m with ports := m.ports.insert ifindex port }
    match m.ports.get? ifindex with
    | some old => set (if old = port then m' else m'.forget old)
    | none => set m'
    modify fun m => { m with switch := m.switch.watchPort port true }
    onSwitch (Switch.setPortEnabled port up)
    return .applied

def linkRemoved (ifindex : IfIndex) : Operation (Follower δ) EventOutcome := do
  let m ← get
  match m.ports.get? ifindex with
  | none => return .ignored
  | some port =>
    set ({ m with ports := m.ports.erase ifindex }.forget port)
    return .applied

/-- The neighbours reached by a port, with their MAC addresses. -/
def neighborsOn (m : Follower δ) (port : PortId) : List (Neighbor × MacAddr) :=
  m.neighbors.toList.filter fun (n, _) => m.ports.get? n.ifindex == some port

def addressAdded (ifindex : IfIndex) : Operation (Follower δ) EventOutcome := do
  let m ← get
  match m.ports.get? ifindex with
  | none => return .ignored
  | some port =>
    if m.interfaces.contains port then
      return .ignored
    else
      let id ← onSwitch (Switch.createInterface (m.switch.board.macOf port) 0)
      modify fun m => { m with interfaces := m.interfaces.insert port id }
      Operation.forAll (fun (n, mac) => tryTo (installHost n ⟨port, id⟩ mac)) (m.neighborsOn port)
      return .applied

/-- The subnets of installed routes whose egress object is one of those listed. -/
def installedOver (m : Follower δ) (egresses : List EgressId) : List Subnet :=
  (m.installed.toList.filter fun (_, r) => egresses.contains r.egress).map Prod.fst

/-- The addresses of host routes whose egress object is one of those listed. -/
def hostsOver (m : Follower δ) (egresses : List EgressId) : List Ipv4 :=
  (m.hosts.toList.filter fun (_, h) => egresses.contains h.egress).map Prod.fst

def addressRemoved (ifindex : IfIndex) : Operation (Follower δ) EventOutcome := do
  let m ← get
  match m.routedPort? ifindex with
  | none => return .ignored
  | some ⟨port, id⟩ =>
    let egresses := m.switch.routing.egressesOn id
    Operation.forAll withdraw (m.installedOver egresses)
    let hosts := (← get).hostsOver egresses
    Operation.forAll (fun ip => do let _ ← withdrawHost ip) hosts
    onSwitch (Switch.destroyInterface id)
    modify fun m => { m with interfaces := m.interfaces.erase port }
    return .applied

/-! ### Neighbours -/

/-- The subnets of routes that a neighbour's address decides: those that wait for it, and, if it has
moved, those installed with the address that it had. -/
def waitingFor (m : Follower δ) (n : Neighbor) (moved : Bool) : List Subnet :=
  let waiting := m.pending.toList.filter fun (_, hop) => hop == ⟨n.ip, n.ifindex⟩
  let stale := m.installed.toList.filter fun (_, r) => r.hop == ⟨n.ip, n.ifindex⟩
  waiting.map Prod.fst ++ if moved then stale.map Prod.fst else []

def neighborAdded (n : Neighbor) (mac : Option MacAddr) : Operation (Follower δ) EventOutcome := do
  let m ← get
  match m.ports.get? n.ifindex, mac with
  | some port, some mac =>
    onSwitch (Switch.addStation ⟨mac, 0, port, true⟩)
    let old := (m.neighbors.get? n).filter fun old => old != mac
    modify fun m => { m with neighbors := m.neighbors.insert n mac }
    let m ← get
    match old with
    | some old =>
      if !m.hasMac old then
        tryTo (onSwitch (Switch.removeStation old 0))
    | none => pure ()
    let waiting := m.waitingFor n old.isSome
    match m.interfaces.get? port with
    | none => return .applied
    | some id =>
      tryTo (installHost n ⟨port, id⟩ mac)
      Operation.forAll
        (fun subnet => tryTo (install subnet ⟨n.ip, n.ifindex⟩ ⟨port, id⟩ mac)) waiting
      return .applied
  | _, _ => return .ignored

/-- Whether the host route of an address leads to a neighbour's interface. -/
def hostVia (m : Follower δ) (n : Neighbor) : Bool :=
  match m.hosts.get? n.ip with
  | some h => h.ifindex == n.ifindex
  | none => false

def neighborRemoved (n : Neighbor) (mac : Option MacAddr) :
    Operation (Follower δ) EventOutcome := do
  let m ← get
  set { m with neighbors := m.neighbors.erase n }
  if (m.ports.get? n.ifindex).isNone then
    return .ignored
  else
    let withdrawn ← if m.hostVia n then withdrawHost n.ip else pure false
    match mac.or (m.neighbors.get? n) with
    | none => return if withdrawn then .applied else .ignored
    | some mac =>
      if (← get).hasMac mac then
        return .applied
      else
        let removed ← ifThere (onSwitch (Switch.removeStation mac 0))
        return if removed || withdrawn then .applied else .ignored

/-! ### Events -/

/-- Applies an event, or fails. -/
def apply : Event → Operation (Follower δ) EventOutcome
  | .link ifindex name up => link ifindex name up
  | .linkRemoved ifindex => linkRemoved ifindex
  | .address ifindex .added => addressAdded ifindex
  | .address ifindex .removed => addressRemoved ifindex
  | .route subnet .added gateway via => routeAdded subnet gateway via
  | .route subnet .removed _ _ => routeRemoved subnet
  | .neighbor ip ifindex mac .added => neighborAdded ⟨ip, ifindex⟩ mac
  | .neighbor ip ifindex mac .removed => neighborRemoved ⟨ip, ifindex⟩ mac

/-- Applies an event and tells what became of it. -/
def handle (event : Event) (m : Follower δ) : EventOutcome × Follower δ :=
  match apply event m with
  | .ok outcome m => (outcome, m)
  | .error _ m => (.failed, m)

/-- The follower after a list of events. -/
def run (m : Follower δ) (events : List Event) : Follower δ :=
  events.foldl (fun m event => (handle event m).2) m

end Follower

end ControlPlane
