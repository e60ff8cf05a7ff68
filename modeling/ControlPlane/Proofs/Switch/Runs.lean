import ControlPlane.Proofs.Runs
import ControlPlane.Proofs.Switch.Bridging
import ControlPlane.Proofs.Table.Overlaps

/-! # Runs of a switch over an emulated chip

A switch is asked anything, in any order and with any arguments, and between two requests the faults of
its chip may change in any way.

* **Step.**  `SwitchRequest.serve_reflects`: a request keeps `Switch.Reflects` on a family of sites from
  which all others lie apart, whatever the chip refuses.
* **Start.**  `Switch.fresh_reflects`: it holds of a switch that was told nothing, over a chip with a
  clear memory. -/

namespace ControlPlane

open Operation (Ends)

variable {δ : Type} [Bus δ]

/-- Something that a switch can be asked about stations and traps. -/
inductive BridgeRequest where
  | addStation (station : Station)
  | removeStation (mac : MacAddr) (vlan : Nat)
  | addTrap (trap : TrapEntry)
  | removeTrap (slot : Nat)

/-- The switch after a request, whatever became of it. -/
def BridgeRequest.serve : BridgeRequest → Switch δ → Switch δ
  | addStation station => Operation.after (Switch.addStation station)
  | removeStation mac vlan => Operation.after (Switch.removeStation mac vlan)
  | addTrap trap => Operation.after (Switch.addTrap trap)
  | removeTrap slot => Operation.after (Switch.removeTrap slot)

/-- Something that a switch can be asked to change. -/
inductive SwitchRequest where
  | routing (request : RoutingRequest)
  | bridge (request : BridgeRequest)
  | createVlan (vlan : Nat)
  | addVlanPort (vlan : Nat) (port : PortId) (untagged : Bool)
  | removeVlanPort (vlan : Nat) (port : PortId)
  | destroyVlan (vlan : Nat)
  | setPortEnabled (port : PortId) (on : Bool)

def SwitchRequest.serve : SwitchRequest → Switch δ → Switch δ
  | routing request => request.serve
  | bridge request => request.serve
  | createVlan vlan => Operation.after (Switch.createVlan vlan)
  | addVlanPort vlan port untagged => Operation.after (Switch.addVlanPort vlan port untagged)
  | removeVlanPort vlan port => Operation.after (Switch.removeVlanPort vlan port)
  | destroyVlan vlan => Operation.after (Switch.destroyVlan vlan)
  | setPortEnabled port on => Operation.after (Switch.setPortEnabled port on)

/-! ### What happens to a switch -/

/-- A request, or a change of the chip's faults. -/
inductive SwitchEvent where
  | request (request : SwitchRequest)
  | faults (stalled : Bool) (failing : List (Nat × Nat))

/-- The channel with other faults injected into its chip. -/
def Channel.setFaults (stalled : Bool) (failing : List (Nat × Nat)) (ch : Channel) : Channel :=
  { ch with device := ch.device.mapChip fun c => { c with stalled := stalled, failing := failing } }

namespace Channel

/-- Other faults leave the memory as it is. -/
theorem Sound.setFaults {ch : Channel} (h : ch.Sound) (stalled : Bool) (failing : List (Nat × Nat)) :
    (ch.setFaults stalled failing).Sound ∧
      (ch.setFaults stalled failing).backing.memory = ch.backing.memory ∧
      (stalled = false → (ch.setFaults stalled failing).backing.stalls = false) := by
  obtain ⟨device, settings, staging⟩ := ch
  obtain ⟨c, rfl, hpool⟩ := h
  refine ⟨⟨_, rfl, hpool⟩, ?_, fun hs => ?_⟩
  · change (backingOf settings.mode { c with stalled := stalled, failing := failing }).memory =
      (backingOf settings.mode c).memory
    rw [memory_backingOf, memory_backingOf]
  · exact stalls_backingOf settings.mode hs

end Channel

/-- The switch after an event. -/
def SwitchEvent.apply : SwitchEvent → Switch (Watched Channel) → Switch (Watched Channel)
  | request r, sw => r.serve sw
  | faults stalled failing, sw =>
    { sw with bus := { sw.bus with device := sw.bus.device.setFaults stalled failing } }

/-- The switch after a list of events. -/
def Switch.after (sw : Switch (Watched Channel)) (events : List SwitchEvent) :
    Switch (Watched Channel) :=
  events.foldl (fun sw event => event.apply sw) sw

/-! ### A request on a memory that shows the record -/

section reflects

variable [MemoryBus δ] {T : Nat → Nat → Bool} {refused : δ → Prop} {F : Site → Prop} {sw : Switch δ}

theorem RoutingRequest.serve_reflects (request : RoutingRequest) (ht : Bus.Tells refused)
    (h : sw.Reflects T refused F)
    (hF : ∀ t i, t ≠ .group → t ≠ .member → i < t.depth → (Site.entry t i).Aloof F)
    (hcreate : ∀ members id base, request = .createGroup members →
      sw.routing.newGroup? members = some (id, base) → Switch.GroupAloof F id ⟨members, base⟩)
    (hdestroy : ∀ id g, request = .destroyGroup id → sw.routing.group? id = some g →
      Switch.GroupAloof F id g) : (request.serve sw).Reflects T refused F := by
  have hegress (t : Table) (hg : t ≠ .group) (hm : t ≠ .member)
      (hd : t.depth = IndexRange.egresses.stop) :
      ∀ id, IndexRange.egresses.Holds id → (Site.entry t id).Aloof F := fun id hid =>
    hF t id hg hm (hd ▸ hid.2)
  have hin := hegress .ingressHop nofun nofun rfl
  have hout := hegress .egressHop nofun nofun rfl
  have hinterface (id : InterfaceId) (hid : IndexRange.interfaces.Holds id) :
      (Site.entry .interface id).Aloof F := hF _ _ nofun nofun hid.2
  have hroute (slot : RouteSlot) (hslot : IndexRange.routes.Holds slot) :
      (Site.entry .route slot).Aloof F := hF _ _ nofun nofun hslot.2
  cases request with
  | createInterface mac vlan => exact Switch.createInterface_reflects ht h hinterface mac vlan
  | destroyInterface id => exact Switch.destroyInterface_reflects ht h hinterface id
  | createEgress egress => exact Switch.createEgress_reflects ht h hin hout egress
  | destroyEgress id => exact Switch.destroyEgress_reflects ht h hin hout id
  | addRoute subnet target => exact Switch.addRoute_reflects ht h hroute subnet target
  | addHost ip egress =>
      cases ip with
      | v4 addr => exact Switch.addRoute_reflects ht h hroute (.host addr) (.egress egress)
      | v6 addr => exact h
  | removeRoute subnet => exact Switch.removeRoute_reflects ht h hroute subnet
  | createGroup members =>
      exact Switch.createGroup_reflects ht h members fun id base => hcreate members id base rfl
  | destroyGroup id => exact Switch.destroyGroup_reflects ht h id fun g => hdestroy id g rfl

theorem BridgeRequest.serve_reflects (request : BridgeRequest) (ht : Site.Tells refused)
    (h : sw.Reflects T refused F) (hF : ∀ s : Site, s.OnChip → s.Aloof F) :
    (request.serve sw).Reflects T refused F := by
  cases request with
  | addStation station =>
      exact Switch.addStation_reflects ht h station fun slot hnew =>
        hF _ (Stations.lt_depth_of_mem_candidates (Stations.mem_candidates_of_newSlot? hnew))
  | removeStation mac vlan =>
      exact Switch.removeStation_reflects ht h mac vlan fun slot hfind =>
        hF _ (Stations.lt_depth_of_mem_candidates (Stations.mem_candidates_of_find? hfind))
  | addTrap trap =>
      exact Switch.addTrap_reflects ht h trap fun slot hnew => hF _ (Traps.newSlot?_free hnew).1
  | removeTrap slot => exact Switch.removeTrap_reflects ht h slot fun hs _ => hF _ hs

theorem SwitchRequest.serve_reflects (request : SwitchRequest) (ht : Bus.Tells refused)
    (h : sw.Reflects T refused F) (hF : ∀ s : Site, s.OnChip → s.Aloof F) :
    (request.serve sw).Reflects T refused F := by
  have hgroup {id : GroupId} {g : Group} (hid : IndexRange.groups.Holds id)
      (hle : g.base + g.members.length ≤ Table.member.depth) : Switch.GroupAloof F id g :=
    ⟨hF _ hid.2, fun n hn => hF _ (Nat.lt_of_lt_of_le hn.2 hle)⟩
  have hvlan {vlan : Nat} (t : Table) (ht : t = .vlan ∨ t = .egressVlan)
      (hv : VlanTag.IsVlan vlan) : (Site.entry t vlan).Aloof F := by
    have := Vlans.lt_depth hv
    rcases ht with rfl | rfl
    · exact hF _ this
    · exact hF _ this
  cases request with
  | routing request =>
      refine request.serve_reflects ht h (fun t i _ _ hi => hF _ hi) (fun members id base _ hnew => ?_)
        fun id g _ hg => ?_
      · obtain ⟨hid, -, hle, -⟩ := h.intact.newGroup? hnew
        exact hgroup hid hle
      · obtain ⟨c, hc, rfl⟩ := Option.map_eq_some_iff.mp hg
        exact hgroup (h.intact.groupIds.holds (KeyMap.contains_of_get? hc))
          (h.intact.span_le id c hc)
  | bridge request => exact request.serve_reflects ht.sites h hF
  | createVlan vlan => exact Switch.createVlan_reflects ht.sites h vlan hvlan
  | addVlanPort vlan port untagged =>
      exact Switch.addVlanPort_reflects ht.sites h vlan port untagged hvlan
  | removeVlanPort vlan port => exact Switch.removeVlanPort_reflects ht.sites h vlan port hvlan
  | destroyVlan vlan => exact Switch.destroyVlan_reflects ht.sites h vlan hvlan
  | setPortEnabled port on =>
      exact Switch.setPortEnabled_reflects ht.sites h (fun block hb => hF _ hb) port on

/-! ### The start -/

/-- A transport that reaches a chip with a clear memory, which is not stalled. -/
structure Clear (bus : δ) : Prop where
  sound : MemoryBus.Sound bus
  prompt : (MemoryBus.backing bus).stalls = false
  memory : (MemoryBus.backing bus).memory = .clear

omit [Bus δ] [MemoryBus δ] in
/-- Nothing is recorded on a fresh switch but lanes that are not enabled. -/
theorem Switch.records_fresh {board : Board} {bus : δ} {s : Site} {ws : List UInt32}
    (h : (Switch.fresh board bus).records s ws) : ∃ block, s = .enables block ∧ ws = [0] := by
  rcases s with ⟨t, i⟩ | block
  · cases t <;> simp [Switch.records, Switch.fresh, Stations.fresh, Traps.fresh, Vlans.fresh,
      Routing.fresh, Routing.view, Routing.group?] at h
  · refine ⟨block, rfl, ?_⟩
    simp only [Switch.records, Switch.fresh, Ports.fresh, Memory.read_clear] at h
    exact h.symm

theorem Switch.fresh_reflects (board : Board) {bus : δ} (h : Clear bus)
    (hF : ∀ block, F (.enables block) → (Site.enables block).OnChip) :
    (Switch.fresh board bus).Reflects (MemoryBus.backing bus).takes refused F := by
  have hstored (s : Site) : s.stored (MemoryBus.backing bus).memory = s.blank := by
    rw [h.memory, Site.stored_clear]
  refine ⟨Routing.intact_fresh, h.sound, rfl, fun _ => h.prompt, ?_, ?_, fun _ s _ _ _ => hstored s⟩
  · intro s ws hs hws
    obtain ⟨block, rfl, -⟩ := records_fresh hws
    exact hF block hs
  · intro s ws hs hws
    obtain ⟨block, rfl, rfl⟩ := records_fresh hws
    exact hstored _

end reflects

/-- A channel that goes through the driver to a chip that nothing was told. -/
def Channel.driven : Channel := ⟨.emulated (.fresh 0 256), ⟨.driver, 500, 1000, true⟩, none⟩

/-- A channel that goes through the pool to a chip that nothing was told. -/
def Channel.pooled : Channel :=
  ⟨.emulated (.fresh 0x1000000 4096), ⟨.pool, 500, 1000, true⟩, some 0x1000000⟩

/-- What was opened over a fresh chip reaches it. -/
theorem Channel.device_of_open {settings : ChannelSettings} {base size : Nat} {ch : Channel}
    (h : Channel.open? settings (.emulated (.fresh base size)) = .ok ch) :
    ch.Sound ∧ ch.device = .emulated (.fresh base size) := by
  obtain ⟨hdevice, hsettings, hstaging⟩ := Channel.opened h
  exact ⟨⟨_, hdevice, fun hp => hstaging (hsettings ▸ hp)⟩, hdevice⟩

theorem Channel.backing_of_open {settings : ChannelSettings} {base size : Nat} {ch : Channel}
    (h : Channel.open? settings (.emulated (.fresh base size)) = .ok ch) :
    ch.backing = backingOf ch.settings.mode (.fresh base size) := by
  rw [backing, (device_of_open h).2]
  rfl

/-- Nothing has been written through a channel that was opened over a fresh chip. -/
theorem Channel.clear_of_open {settings : ChannelSettings} {base size : Nat} {ch : Channel}
    (h : Channel.open? settings (.emulated (.fresh base size)) = .ok ch) : Clear ch := by
  have hback := backing_of_open h
  refine ⟨(device_of_open h).1, ?_, ?_⟩
  · exact (congrArg (·.stalls) hback).trans (stalls_backingOf _ rfl)
  · exact (congrArg (·.memory) hback).trans (memory_backingOf _ _)

/-- A fresh chip takes every write, unless its pool lies where the command channel cannot reach. -/
theorem Channel.takes_of_open {settings : ChannelSettings} {base size : Nat} {ch : Channel}
    (h : Channel.open? settings (.emulated (.fresh base size)) = .ok ch) :
    ch.backing.takes = Backing.takesAll ∨ ch.backing.takes = Backing.takesNone := by
  have hback := Channel.backing_of_open h
  rw [hback]
  cases ch.settings.mode with
  | driver => exact .inl rfl
  | pool =>
      by_cases hb : 2 ^ 32 ≤ base
      · refine .inr ?_
        funext address words
        change (!(decide (2 ^ 32 ≤ base) || false) && !false) = false
        rw [decide_eq_true hb]
        rfl
      · refine .inl ?_
        funext address words
        change (!(decide (2 ^ 32 ≤ base) || false) && !false) = true
        rw [decide_eq_false hb]
        rfl

end ControlPlane
