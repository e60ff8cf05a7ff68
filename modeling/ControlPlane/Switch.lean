import ControlPlane.Forwarding.Stations
import ControlPlane.Forwarding.Traps
import ControlPlane.Forwarding.Vlans
import ControlPlane.Panel.Ports
import ControlPlane.Routing.Groups
import ControlPlane.Routing.Interfaces
import ControlPlane.Routing.Routes

/-! # The switch

A `Switch` is a board, a transport to its chip, and a record of all that the chip was told.  Each
part of the record is kept by a module of its own; the operations here run an operation of one part
together with the transport and leave the other parts alone. -/

namespace ControlPlane

structure Switch (δ : Type) where
  board : Board
  bus : δ
  stations : Stations
  traps : Traps
  vlans : Vlans
  ports : Ports
  routing : Routing

namespace Switch

variable {δ α : Type}

/-- A switch whose chip has not been told anything. -/
def fresh (board : Board) (bus : δ) : Switch δ :=
  ⟨board, bus, .fresh, .fresh, .fresh, .fresh, .fresh⟩

/-! ### Operations of one part -/

def onBus (op : Operation δ α) : Operation (Switch δ) α :=
  Operation.focus bus (fun sw bus => { sw with bus := bus }) op

def onStations (op : Operation (Stations × δ) α) : Operation (Switch δ) α :=
  Operation.focus (fun sw => (sw.stations, sw.bus))
    (fun sw (stations, bus) => { sw with stations := stations, bus := bus }) op

def onTraps (op : Operation (Traps × δ) α) : Operation (Switch δ) α :=
  Operation.focus (fun sw => (sw.traps, sw.bus))
    (fun sw (traps, bus) => { sw with traps := traps, bus := bus }) op

def onVlans (op : Operation (Vlans × δ) α) : Operation (Switch δ) α :=
  Operation.focus (fun sw => (sw.vlans, sw.bus))
    (fun sw (vlans, bus) => { sw with vlans := vlans, bus := bus }) op

def onPorts (op : Operation (Ports × δ) α) : Operation (Switch δ) α :=
  Operation.focus (fun sw => (sw.ports, sw.bus))
    (fun sw (ports, bus) => { sw with ports := ports, bus := bus }) op

def onRouting (op : Operation (Routing × δ) α) : Operation (Switch δ) α :=
  Operation.focus (fun sw => (sw.routing, sw.bus))
    (fun sw (routing, bus) => { sw with routing := routing, bus := bus }) op

/-! ### The operations of a switch -/

variable [Bus δ]

def addStation (station : Station) : Operation (Switch δ) Unit := fun sw =>
  onStations (Stations.add sw.board station) sw

def removeStation (mac : MacAddr) (vlan : Nat) : Operation (Switch δ) Unit :=
  onStations (Stations.remove mac vlan)

def addTrap (trap : TrapEntry) : Operation (Switch δ) Nat := onTraps (Traps.add trap)

def removeTrap (slot : Nat) : Operation (Switch δ) Unit := onTraps (Traps.remove slot)

def createVlan (vlan : Nat) : Operation (Switch δ) Unit := onVlans (Vlans.create vlan)

def addVlanPort (vlan : Nat) (port : PortId) (untagged : Bool) : Operation (Switch δ) Unit :=
  fun sw => onVlans (Vlans.addPort sw.board vlan port untagged) sw

def removeVlanPort (vlan : Nat) (port : PortId) : Operation (Switch δ) Unit :=
  onVlans (Vlans.removePort vlan port)

def destroyVlan (vlan : Nat) : Operation (Switch δ) Unit := onVlans (Vlans.destroy vlan)

def setPortEnabled (port : PortId) (on : Bool) : Operation (Switch δ) Unit := fun sw =>
  onPorts (Ports.setEnabled sw.board port on) sw

def portEnabled (port : PortId) : Operation (Switch δ) Bool := fun sw =>
  onPorts (Ports.enabled sw.board port) sw

def portLinkUp (port : PortId) : Operation (Switch δ) Bool := fun sw =>
  onPorts (Ports.linkUp sw.board port) sw

def setPortSpeed (port : PortId) (speed : PortSpeed) : Operation (Switch δ) Unit := fun sw =>
  onPorts (Ports.setSpeed sw.board port speed) sw

def portSpeed (port : PortId) : Operation (Switch δ) PortSpeed := fun sw =>
  onPorts (Ports.speed sw.board port) sw

def portCounter (port : PortId) (counter : Counter) : Operation (Switch δ) Nat := fun sw =>
  onPorts (Ports.counter sw.board port counter) sw

def watchPort (sw : Switch δ) (port : PortId) (on : Bool) : Switch δ :=
  { sw with ports := sw.ports.watch port on }

/-- Reports the watched ports whose link has changed, given the states last reported. -/
def pollLinks (sw : Switch δ) (last : Ports.LinkStates) :
    (List LinkChange × Ports.LinkStates) × Switch δ :=
  let (answer, ports, bus) := Ports.poll sw.board last (sw.ports, sw.bus)
  (answer, { sw with ports := ports, bus := bus })

def createInterface (mac : MacAddr) (vlan : Nat) : Operation (Switch δ) InterfaceId :=
  onRouting (Routing.createInterface mac vlan)

def destroyInterface (id : InterfaceId) : Operation (Switch δ) Unit :=
  onRouting (Routing.destroyInterface id)

def createEgress (egress : Egress) : Operation (Switch δ) EgressId := fun sw =>
  onRouting (Routing.createEgress sw.board egress) sw

def destroyEgress (id : EgressId) : Operation (Switch δ) Unit :=
  onRouting (Routing.destroyEgress id)

def createGroup (members : List EgressId) : Operation (Switch δ) GroupId :=
  onRouting (Routing.createGroup members)

def destroyGroup (id : GroupId) : Operation (Switch δ) Unit :=
  onRouting (Routing.destroyGroup id)

def addRoute (subnet : Subnet) (target : RouteTarget) : Operation (Switch δ) RouteSlot :=
  onRouting (Routing.addRoute subnet target)

def addHost (ip : IpAddress) (egress : EgressId) : Operation (Switch δ) RouteSlot :=
  onRouting (Routing.addHost ip egress)

def removeRoute (subnet : Subnet) : Operation (Switch δ) Unit :=
  onRouting (Routing.removeRoute subnet)

end Switch

end ControlPlane
