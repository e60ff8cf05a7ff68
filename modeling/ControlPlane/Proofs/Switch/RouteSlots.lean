import ControlPlane.Proofs.Switch.Mirror
import ControlPlane.Proofs.Table.Residue

/-! # Slots of the route table

What a slot of the route table stores on a chip that is never stalled: a request to routed forwarding
leaves it alone, unless it adds a route there or removes the one that is there.

* `RoutingRequest.keeps_slot`: what is said of the slot stays true, by what each request tells the chip.  A
  creation tells it one thing at most (`Switch.bus_after_creation`), and a destruction nothing if it fails
  (`Switch.bus_after_destruction`).
* `Switch.Mirrors.addRoute_slots` and `Switch.Mirrors.removeRoute_slot`: what the others store. -/

namespace ControlPlane

open Operation (Ends)

/-! ### Slots that are left alone -/

section slot

variable {δ : Type} [Bus δ] [MemoryBus δ] {T : Nat → Nat → Bool} {W : Image} {i n : Nat}
  {words : List UInt32} {bus bus' : δ}

/-- A transport to a chip that is not stalled, and what is said of one slot of the route table. -/
abbrev ShowsSlot (T : Nat → Nat → Bool) (i : RouteSlot) (W : Image) (bus : δ) : Prop :=
  Reflected T (fun _ => True) (· = .entry .route i) W bus

/-- What is said of one site alone. -/
def Image.only (s : Site) (words : List UInt32) : Image := fun u ws => u = s ∧ ws = words

theorem Site.OnChip.aloof_slot {s : Site} (hs : s.OnChip) : s.Aloof (· = .entry .route i) := by
  rintro u rfl
  exact hs.aloof (.entry .route i) (.inr (.inr (.inr (.inl rfl))))

theorem tells_true_sites : Site.Tells fun _ : δ => True := Bus.tells_true.sites

theorem ShowsSlot.write (h : ShowsSlot T i W bus) (t : Table) (hn : n < t.depth)
    (hl : words.length = t.words) (hne : Site.entry .route i ≠ .entry t n) :
    Ends (t.write n words) bus (fun _ bus' => ShowsSlot T i W bus') fun _ bus' =>
      ShowsSlot T i W bus' := by
  have hs : (Site.entry t n).OnChip := hn
  refine (Reflected.writeEntry tells_true_sites h t words hn hl hs.aloof_slot).mono ?_
    fun _ _ he => he.1
  rintro _ bus' ⟨hset, -⟩
  refine hset.congr ?_
  rintro _ ws rfl
  exact (Image.set_of_ne hne).symm

theorem ShowsSlot.clear (h : ShowsSlot T i W bus) (t : Table) (hn : n < t.depth)
    (hne : Site.entry .route i ≠ .entry t n) :
    ShowsSlot T i W (Operation.after (t.clear n) bus) :=
  Ends.after (h.write t hn List.length_replicate hne)

/-- What a slot of a chip stores can be said of it. -/
theorem showsSlot_stored (hs : MemoryBus.Sound bus) (hp : (MemoryBus.backing bus).stalls = false)
    (hi : i < Table.route.depth) :
    ShowsSlot (MemoryBus.backing bus).takes i
      (.only (.entry .route i) ((Site.entry .route i).stored (MemoryBus.backing bus).memory)) bus where
  sound := hs
  takes := rfl
  prompt _ := hp
  onChip := by
    rintro _ _ rfl -
    exact hi
  stored := by
    rintro _ _ rfl ⟨-, rfl⟩
    rfl
  clean h := absurd trivial h

theorem ShowsSlot.writeHop {id : EgressId} (h : ShowsSlot T i (.only (.entry .route i) words) bus)
    (hid : IndexRange.egresses.Holds id) (e : Egress) :
    Ends (Routing.writeHop id e) bus
      (fun _ bus' => ShowsSlot T i (.only (.entry .route i) words) bus')
      fun _ bus' => ShowsSlot T i (.only (.entry .route i) words) bus' := by
  have hin : (Site.entry .ingressHop id).OnChip := hid.2
  have hout : (Site.entry .egressHop id).OnChip := hid.2
  refine (Routing.writeHop_reflected tells_true_sites h hid e hin.aloof_slot hout.aloof_slot
    nofun).mono ?_ fun _ _ he => he
  intro _ bus' hset
  refine hset.congr ?_
  rintro _ ws rfl
  rw [Image.set_of_ne, Image.set_of_ne] <;> nofun

theorem ShowsSlot.clearGroup {id : GroupId} {base count : Nat}
    (h : ShowsSlot T i (.only (.entry .route i) words) bus) (hid : IndexRange.groups.Holds id)
    (hle : base + count ≤ Table.member.depth) :
    ShowsSlot T i (.only (.entry .route i) words) (Routing.clearGroup id base count bus) := by
  have hgroup : (Site.entry .group id).OnChip := hid.2
  have hmember (n : Nat) (hn : n < base + count) : (Site.entry .member n).OnChip :=
    Nat.lt_of_lt_of_le hn hle
  refine (Routing.clearGroup_reflected tells_true_sites h hid hle hgroup.aloof_slot
    fun n _ hn => (hmember n hn).aloof_slot).congr ?_
  rintro _ ws rfl
  rw [Image.dropMembers_iff, Image.drop_of_ne]
  · exact (and_iff_left nofun).symm
  · nofun

theorem ShowsSlot.writeGroup {id : GroupId} {g : Group}
    (h : ShowsSlot T i (.only (.entry .route i) words) bus) (hid : IndexRange.groups.Holds id)
    (hle : g.base + g.members.length ≤ Table.member.depth) :
    Ends (Routing.writeGroup id g) bus
      (fun _ bus' => ShowsSlot T i (.only (.entry .route i) words) bus')
      fun _ bus' => ShowsSlot T i (.only (.entry .route i) words) bus' := by
  have hgroup : (Site.entry .group id).OnChip := hid.2
  have hmember (n : Nat) (hn : g.Occupies n) : (Site.entry .member n).OnChip :=
    Nat.lt_of_lt_of_le hn.2 hle
  refine (Routing.writeGroup_reflected tells_true_sites h hid hle hgroup.aloof_slot
    (fun n hn => (hmember n hn).aloof_slot) ⟨nofun, nofun⟩).mono ?_ fun _ _ he => he
  intro _ bus' hset
  refine hset.congr ?_
  rintro _ ws rfl
  rw [Image.set_of_ne, Image.setMembers_of_ne] <;> nofun

theorem ShowsSlot.stored_eq (h : ShowsSlot T i (.only (.entry .route i) words) bus) :
    (Site.entry .route i).stored (MemoryBus.backing bus).memory = words :=
  h.stored rfl ⟨rfl, rfl⟩

end slot

/-! ### What a request does to a slot -/

namespace Switch

variable {δ α : Type} {sw : Switch δ} {P : δ → Prop}

theorem bus_after {op : Operation (Routing × δ) α}
    (h : Ends op (sw.routing, sw.bus) (fun _ t => P t.2) fun _ t => P t.2) :
    P (Operation.after (onRouting op) sw).bus :=
  Ends.after (P := fun sw' : Switch δ => P sw'.bus) (Ends.focus h)

/-- A creation tells the chip at most once to take something, at the index that the record chooses. -/
theorem bus_after_creation {op : Operation (Routing × δ) Nat} {write : Nat → Operation δ Unit}
    {choice : Option Nat}
    (hop : Ends op (sw.routing, sw.bus) (fun n t => choice = some n ∧ write n sw.bus = .ok () t.2)
      fun e t => choice = none ∧ t.2 = sw.bus ∨ ∃ n, choice = some n ∧ write n sw.bus = .error e t.2)
    (hbus : P sw.bus)
    (hwrite : ∀ n, choice = some n → Ends (write n) sw.bus (fun _ bus => P bus) fun _ bus => P bus) :
    P (Operation.after (onRouting op) sw).bus := by
  refine bus_after (hop.mono ?_ ?_)
  · rintro n t ⟨hnew, hb⟩
    exact (hwrite n hnew).of_ok hb
  · rintro e t (⟨-, hb⟩ | ⟨n, hnew, hb⟩)
    · exact hb ▸ hbus
    · exact (hwrite n hnew).of_error hb

/-- A destruction that fails tells the chip nothing. -/
theorem bus_after_destruction {op : Operation (Routing × δ) Unit} {Q told : Routing × δ → Prop}
    {E : Error → Prop}
    (hends : Ends op (sw.routing, sw.bus) (fun _ t => Q t) fun e t => t = (sw.routing, sw.bus) ∧ E e)
    (hop : Ends op (sw.routing, sw.bus) (fun _ t => told t) fun _ _ => True)
    (hbus : P sw.bus) (htold : ∀ t, Q t → told t → P t.2) :
    P (Operation.after (onRouting op) sw).bus := by
  refine bus_after ((hends.and hop).mono ?_ ?_)
  · rintro _ t ⟨hq, ht⟩
    exact htold t hq ht
  · rintro e t ⟨⟨rfl, -⟩, -⟩
    exact hbus

end Switch

namespace RoutingRequest

/-- The route that a request asks for. -/
def route? : RoutingRequest → Option (Subnet × RouteTarget)
  | addRoute subnet target => some (subnet, target)
  | addHost (.v4 addr) egress => some (.host addr, .egress egress)
  | _ => none

section serve

variable {δ : Type} [Bus δ] {sw : Switch δ}

theorem serve_route {request : RoutingRequest} {subnet : Subnet} {target : RouteTarget}
    (h : request.route? = some (subnet, target)) :
    request.serve sw = Operation.after (Switch.addRoute subnet target) sw := by
  cases request with
  | addRoute s t =>
      cases h
      rfl
  | addHost ip egress =>
      cases ip with
      | v4 addr =>
          cases h
          rfl
      | v6 addr => cases h
  | _ => cases h

/-- Other requests leave the routes as they are. -/
theorem routes_eq (request : RoutingRequest) (h : sw.routing.Intact) (hadd : request.route? = none)
    (hremove : ∀ subnet, request ≠ .removeRoute subnet) :
    (request.serve sw).routing.view.route? = sw.routing.view.route? := by
  have hafter {α : Type} {op : Operation (Routing × δ) α}
      (hop : Ends op (sw.routing, sw.bus) (fun _ t => t.1.view.route? = sw.routing.view.route?)
        fun _ t => t.1.view.route? = sw.routing.view.route?) :
      (Operation.after (Switch.onRouting op) sw).routing.view.route? = sw.routing.view.route? :=
    Switch.after_onRouting (P := fun r => r.view.route? = sw.routing.view.route?) hop
  have hsame {v : Routing.View} {groups : GroupId → Option Group} {r : Routing}
      (hr : Routing.Objects v groups r) (hv : v.route? = sw.routing.view.route?) :
      r.view.route? = sw.routing.view.route? := (congrArg _ hr.view_eq).trans hv
  have hfailed {t : Routing × δ} (h : t = (sw.routing, sw.bus)) :
      t.1.view.route? = sw.routing.view.route? := congrArg (·.1.view.route?) h
  cases request with
  | createInterface mac vlan =>
      exact hafter ((Routing.createInterface_objects h mac vlan).mono (fun _ _ hr => hsame hr rfl)
        fun _ _ hr => hsame hr rfl)
  | destroyInterface id =>
      exact hafter ((Routing.destroyInterface_objects h id).mono (fun _ _ hr => hsame hr.2 rfl)
        fun _ _ he => hfailed he)
  | createEgress egress =>
      exact hafter ((Routing.createEgress_objects h sw.board egress).mono (fun _ _ hr => hsame hr rfl)
        fun _ _ hr => hsame hr rfl)
  | destroyEgress id =>
      exact hafter ((Routing.destroyEgress_objects h id).mono (fun _ _ hr => hsame hr.2 rfl)
        fun _ _ he => hfailed he)
  | addRoute subnet target => cases hadd
  | addHost ip egress =>
      cases ip with
      | v4 addr => cases hadd
      | v6 addr => rfl
  | removeRoute subnet => exact absurd rfl (hremove subnet)
  | createGroup members =>
      refine hafter ((Routing.createGroup_objects h members).mono ?_ fun _ _ hr => hsame hr rfl)
      rintro id t ⟨base, -, -, hr⟩
      exact hsame hr rfl
  | destroyGroup id =>
      exact hafter ((Routing.destroyGroup_objects h id).mono (fun _ _ hr => hsame hr rfl)
        fun _ _ he => hfailed he)

end serve

section slot

variable {δ : Type} [Bus δ] [MemoryBus δ] {T : Nat → Nat → Bool} {i : RouteSlot}
  {words : List UInt32} {sw : Switch δ}

/-- A request leaves a slot alone, unless it adds a route there or removes the one that is there. -/
theorem keeps_slot (request : RoutingRequest) (hi : sw.routing.Intact)
    (h : ShowsSlot T i (.only (.entry .route i) words) sw.bus)
    (hadd : ∀ subnet target, request.route? = some (subnet, target) →
      sw.routing.newSlot? subnet target ≠ some i)
    (hremove : ∀ subnet old, request = .removeRoute subnet →
      sw.routing.routes.get? subnet.canon = some old → old.slot ≠ i) :
    ShowsSlot T i (.only (.entry .route i) words) (request.serve sw).bus := by
  have ht := Bus.tells_true (δ := δ)
  have hroute (subnet : Subnet) (target : RouteTarget)
      (hne : sw.routing.newSlot? subnet target ≠ some i) :
      ShowsSlot T i (.only (.entry .route i) words)
        (Operation.after (Switch.addRoute subnet target) sw).bus := by
    refine Switch.bus_after_creation (Routing.addRoute_commands subnet target) h fun slot hnew => ?_
    refine h.write .route (hi.newSlot? hnew).2 (Fields.length_encode _ _) ?_
    rintro ⟨⟩
    exact hne hnew
  cases request with
  | createInterface mac vlan =>
      exact Switch.bus_after_creation (Routing.createInterface_commands mac vlan) h fun id hnew =>
        h.write .interface (hi.newInterface? hnew).1.2 (Fields.length_encode _ _) nofun
  | destroyInterface id =>
      refine Switch.bus_after_destruction (Routing.destroyInterface_ends ht hi id)
        (Routing.destroyInterface_commands id) h ?_
      rintro ⟨r, bus⟩ ⟨c, hc, -⟩ rfl
      have hid := hi.interfaceIds.holds (KeyMap.contains_of_get? hc)
      exact h.clear .interface hid.2 nofun
  | createEgress egress =>
      exact Switch.bus_after_creation (Routing.createEgress_commands sw.board egress) h fun id hnew =>
        h.writeHop (hi.newEgress? hnew).1 egress
  | destroyEgress id =>
      refine Switch.bus_after_destruction (Routing.destroyEgress_ends ht hi id)
        (Routing.destroyEgress_commands id) h ?_
      rintro ⟨r, bus⟩ ⟨c, hc, -⟩ rfl
      have hid := hi.egressIds.holds (KeyMap.contains_of_get? hc)
      exact (h.clear .ingressHop hid.2 nofun).clear .egressHop hid.2 nofun
  | addRoute subnet target => exact hroute subnet target (hadd subnet target rfl)
  | addHost ip egress =>
      cases ip with
      | v4 addr => exact hroute (.host addr) (.egress egress) (hadd _ _ rfl)
      | v6 addr => exact h
  | removeRoute subnet =>
      refine Switch.bus_after_destruction (Routing.removeRoute_ends ht hi subnet)
        (Routing.removeRoute_commands subnet) h ?_
      rintro ⟨r, bus⟩ - ⟨old, hold, rfl⟩
      refine h.clear .route (hi.routeSlots.holds ⟨subnet.canon, old, hold, rfl⟩).2 ?_
      rintro ⟨⟩
      exact hremove subnet old rfl hold rfl
  | createGroup members =>
      -- A creation that fails clears what it has told the chip, so this is not one of the kind above.
      refine Switch.bus_after ((Routing.createGroup_commands members).mono ?_ ?_)
      · rintro id t ⟨base, hnew, hb, -⟩
        obtain ⟨hid, -, hle, -⟩ := hi.newGroup? hnew
        exact (h.writeGroup hid hle).of_ok hb
      · rintro e ⟨r, bus⟩ (⟨-, hb⟩ | ⟨id, base, bus', hnew, hb, rfl⟩)
        · exact hb ▸ h
        · obtain ⟨hid, -, hle, -⟩ := hi.newGroup? hnew
          exact ShowsSlot.clearGroup ((h.writeGroup hid hle).of_error hb) hid hle
  | destroyGroup id =>
      refine Switch.bus_after_destruction (Routing.destroyGroup_ends ht hi id)
        (Routing.destroyGroup_commands id) h ?_
      rintro ⟨r, bus⟩ - ⟨c, hc, rfl⟩
      exact h.clearGroup (hi.groupIds.holds (KeyMap.contains_of_get? hc)) (hi.span_le id c hc)

end slot

end RoutingRequest

/-! ### What a request does to the chip -/

namespace Switch

variable {sw sw' : Switch (Watched Channel)}

/-- What a slot of the route table stores. -/
def slotWords (sw : Switch (Watched Channel)) (slot : RouteSlot) : List UInt32 :=
  (Site.entry .route slot).stored sw.bus.device.memory

theorem slotWords_eq (sw : Switch (Watched Channel)) (slot : RouteSlot) :
    sw.slotWords slot = (Site.entry .route slot).stored (MemoryBus.backing sw.bus).memory := by
  rw [slotWords, ← Channel.memory_backing]
  rfl

namespace Mirrors

theorem intact (h : sw.Mirrors) : sw.routing.Intact := by
  obtain ⟨takes, h⟩ := h
  exact h.intact

theorem sound (h : sw.Mirrors) : MemoryBus.Sound sw.bus := by
  obtain ⟨takes, h⟩ := h
  exact h.reflected.sound

theorem prompt (h : sw.Mirrors) : (MemoryBus.backing sw.bus).stalls = false := by
  obtain ⟨takes, h⟩ := h
  exact h.reflected.prompt (s := .entry .route 0) (.inr (.inr (.inr (.inl rfl))))

theorem stored (h : sw.Mirrors) {subnet : Subnet} {route : Route}
    (hr : sw.routing.routes.get? subnet = some route) :
    sw.slotWords route.slot = Routing.routeWords subnet route.target := by
  rw [slotWords_eq]
  obtain ⟨takes, h⟩ := h
  exact h.reflected.stored (s := .entry .route route.slot) (.inr (.inr (.inr (.inl rfl))))
    ⟨subnet, route, hr, rfl, rfl⟩

theorem showsSlot (h : sw.Mirrors) {i : RouteSlot} (hi : i < Table.route.depth) :
    ShowsSlot (MemoryBus.backing sw.bus).takes i (.only (.entry .route i) (sw.slotWords i)) sw.bus := by
  rw [slotWords_eq]
  exact showsSlot_stored h.sound h.prompt hi

theorem slotWords_serve (h : sw.Mirrors) (request : RoutingRequest) {i : RouteSlot}
    (hi : i < Table.route.depth)
    (hadd : ∀ subnet target, request.route? = some (subnet, target) →
      sw.routing.newSlot? subnet target ≠ some i)
    (hremove : ∀ subnet old, request = .removeRoute subnet →
      sw.routing.routes.get? subnet.canon = some old → old.slot ≠ i) :
    (request.serve sw).slotWords i = sw.slotWords i := by
  rw [slotWords_eq (request.serve sw)]
  exact (request.keeps_slot h.intact (h.showsSlot hi) hadd hremove).stored_eq

theorem addRoute_slots (h : sw.Mirrors) (subnet : Subnet) (target : RouteTarget) :
    Ends (addRoute subnet target) sw
      (fun slot sw' => slot < Table.route.depth ∧
        sw'.slotWords slot = Routing.routeWords subnet.canon target ∧
        ∀ i, i < Table.route.depth → i ≠ slot → sw'.slotWords i = sw.slotWords i)
      fun _ sw' => ∀ i, i < Table.route.depth → sw'.slotWords i = sw.slotWords i := by
  refine Ends.focus ((Routing.addRoute_commands subnet target).mono ?_ ?_)
  · rintro slot ⟨r, bus⟩ ⟨hnew, hb⟩
    have hslot := (h.intact.newSlot? hnew).2
    have hl : (Routing.routeWords subnet.canon target).length = Table.route.words :=
      Fields.length_encode _ _
    have hon : (Site.entry .route slot).OnChip := hslot
    refine ⟨hslot, ?_, fun i hi hne => ?_⟩
    · rw [slotWords_eq]
      rw [Table.write_eq .route hslot hl] at hb
      obtain ⟨hwrote, htaken⟩ := (Site.write_ends hon hl h.sound).of_ok hb
      exact hwrote.stored_self hon hl htaken.not_refused
    · rw [slotWords_eq { sw with routing := r, bus := bus }]
      refine (((h.showsSlot hi).write .route hslot hl ?_).of_ok hb).stored_eq
      rintro ⟨⟩
      exact hne rfl
  · rintro e ⟨r, bus⟩ (⟨-, rfl⟩ | ⟨slot, hnew, hb⟩) i hi
    · rfl
    · have hslot := (h.intact.newSlot? hnew).2
      have hl : (Routing.routeWords subnet.canon target).length = Table.route.words :=
        Fields.length_encode _ _
      have hon : (Site.entry .route slot).OnChip := hslot
      rw [Table.write_eq .route hslot hl] at hb
      obtain ⟨hwrote, hnot⟩ := (Site.write_ends hon hl h.sound).of_error hb
      rw [slotWords_eq, slotWords_eq]
      change (Site.entry .route i).stored (MemoryBus.backing bus).memory = _
      rw [hwrote.backing_of_refused hl (Site.refused_of_not_taken h.prompt hnot)]

/-- The slot of a route that is removed is cleared if the chip takes that. -/
theorem removeRoute_slot (h : sw.Mirrors) {subnet : Subnet} {old : Route}
    (hold : sw.routing.routes.get? subnet.canon = some old) :
    ((Site.entry .route old.slot).Taken sw.bus →
      (Operation.after (removeRoute subnet) sw).slotWords old.slot =
        (Site.entry .route old.slot).blank) ∧
    (¬ (Site.entry .route old.slot).Taken sw.bus →
      (Operation.after (removeRoute subnet) sw).slotWords old.slot = sw.slotWords old.slot) := by
  have hslot := (h.intact.routeSlots.holds ⟨subnet.canon, old, hold, rfl⟩).2
  have hon : (Site.entry .route old.slot).OnChip := hslot
  have hbus : (Operation.after (removeRoute subnet) sw).bus =
      Operation.after (Table.route.clear old.slot) sw.bus := by
    refine Switch.bus_after
      (P := fun bus => bus = Operation.after (Table.route.clear old.slot) sw.bus)
      (((Routing.removeRoute_ends Bus.tells_true h.intact subnet).and
      (Routing.removeRoute_commands subnet)).mono ?_ ?_)
    · rintro _ t ⟨-, old', hold', hb⟩
      cases hold.symm.trans hold'
      exact hb
    · rintro e t ⟨⟨-, hnone, -⟩, -⟩
      cases hold.symm.trans hnone
  have hwrote := Site.wrote_of_clear hon h.sound
  rw [← Table.clear_eq .route hslot, ← hbus] at hwrote
  refine ⟨fun htaken => ?_, fun hnot => ?_⟩
  · rw [slotWords_eq]
    exact hwrote.stored_self hon List.length_replicate htaken.not_refused
  · rw [slotWords_eq, slotWords_eq, hwrote.backing_of_refused List.length_replicate
      (Site.refused_of_not_taken h.prompt hnot)]

end Mirrors

end Switch

end ControlPlane
