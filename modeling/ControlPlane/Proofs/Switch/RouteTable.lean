import ControlPlane.Proofs.Subnet
import ControlPlane.Proofs.Switch.RouteSlots
import ControlPlane.Proofs.Table.Codecs

/-! # Prefixes in the route table

A prefix that is added again is written to the slot that it has.  A prefix that is removed gives its
slot back even if the chip has refused to clear it, and is then written to another one when it is added
again: the chip has two entries for it.

* **Step.**  `SwitchEvent.distinct_iff`: prefixes stay distinct unless the event doubles one.
  `SwitchEvent.swept`: slots without a route stay clear unless the event abandons one.
* **Run.**  `Switch.routes_distinct_iff`: during which runs no prefix has two entries.  None ever has if
  the chip clears whatever is removed. -/

namespace ControlPlane

open Operation (Ends)

/-! ### What the chip finds -/

namespace Memory

variable {m m' : Memory UInt32} {slot : RouteSlot} {subnet : Subnet}

/-- The subnet of the entry that the chip finds in a slot. -/
def subnet? (m : Memory UInt32) (slot : RouteSlot) : Option Subnet :=
  (RouteEntry.decode ((Site.entry .route slot).stored m)).join.map (·.subnet)

/-- No two slots have entries for one subnet. -/
def RoutesDistinct (m : Memory UInt32) : Prop :=
  ∀ i j, i < Table.route.depth → j < Table.route.depth → ∀ subnet, m.subnet? i = some subnet →
    m.subnet? j = some subnet → i = j

theorem subnet?_blank (h : (Site.entry .route slot).stored m = (Site.entry .route slot).blank) :
    m.subnet? slot = none := by
  rw [subnet?, h]
  exact congrArg (fun e => (Option.join e).map (·.subnet)) RouteEntry.decode_blank

theorem subnet?_routeWords {target : RouteTarget}
    (h : (Site.entry .route slot).stored m = Routing.routeWords subnet target) :
    m.subnet? slot = some subnet.canon := by
  rw [subnet?, h, Routing.routeWords, RouteEntry.decode_encode_cut]
  rfl

/-- Slots that lose their entries leave the others distinct. -/
theorem RoutesDistinct.of_fewer (h : m.RoutesDistinct) (hfewer : ∀ i, i < Table.route.depth →
    m'.subnet? i = m.subnet? i ∨ m'.subnet? i = none) : m'.RoutesDistinct := by
  have hold (i : RouteSlot) (hi : i < Table.route.depth) {s : Subnet} (hs : m'.subnet? i = some s) :
      m.subnet? i = some s := by
    rcases hfewer i hi with heq | hnone
    · rw [← heq, hs]
    · cases hnone.symm.trans hs
  intro i j hi hj s his hjs
  exact h i j hi hj s (hold i hi his) (hold j hj hjs)

/-- With one more entry, they are distinct if no other slot has one for its subnet. -/
theorem RoutesDistinct.added_iff (h : m.RoutesDistinct) (hslot : slot < Table.route.depth)
    (hself : m'.subnet? slot = some subnet)
    (hne : ∀ i, i < Table.route.depth → i ≠ slot → m'.subnet? i = m.subnet? i) :
    m'.RoutesDistinct ↔ ∀ i, i < Table.route.depth → i ≠ slot → m.subnet? i ≠ some subnet := by
  constructor
  · intro h' i hi his hs
    rw [← hne i hi his] at hs
    exact his (h' i slot hi hslot subnet hs hself)
  · intro hother i j hi hj s his hjs
    by_cases hislot : i = slot <;> by_cases hjslot : j = slot
    · rw [hislot, hjslot]
    · subst hislot
      cases hself.symm.trans his
      exact absurd (hne j hj hjslot ▸ hjs) (hother j hj hjslot)
    · subst hjslot
      cases hself.symm.trans hjs
      exact absurd (hne i hi hislot ▸ his) (hother i hi hislot)
    · rw [hne i hi hislot] at his
      rw [hne j hj hjslot] at hjs
      exact h i j hi hj s his hjs

end Memory

theorem Switch.subnet?_congr {sw sw' : Switch (Watched Channel)} {slot : RouteSlot}
    (h : sw'.slotWords slot = sw.slotWords slot) :
    sw'.bus.device.memory.subnet? slot = sw.bus.device.memory.subnet? slot := by
  change (Site.entry .route slot).stored _ = (Site.entry .route slot).stored _ at h
  rw [Memory.subnet?, Memory.subnet?, h]

/-! ### One request -/

namespace RoutingRequest

variable {sw : Switch (Watched Channel)}

/-- A route is added to a slot, and another slot has an entry for its subnet. -/
def Doubles (request : RoutingRequest) (sw : Switch (Watched Channel)) : Prop :=
  ∃ subnet target slot i, request.route? = some (subnet, target) ∧
    Operation.answer (Switch.addRoute subnet target) sw = .ok slot ∧ i < Table.route.depth ∧
    i ≠ slot ∧ sw.bus.device.memory.subnet? i = some subnet.canon

/-- A route is removed, and the chip does not clear its slot. -/
def Abandons (request : RoutingRequest) (sw : Switch (Watched Channel)) : Prop :=
  ∃ subnet old, request = .removeRoute subnet ∧
    sw.routing.routes.get? subnet.canon = some old ∧ ¬ (Site.entry .route old.slot).Taken sw.bus

/-- A request that adds no route leaves entries out, if it changes any. -/
theorem fewer_subnets (request : RoutingRequest) (h : sw.Mirrors) (hroute : request.route? = none)
    {i : RouteSlot} (hi : i < Table.route.depth) :
    (request.serve sw).bus.device.memory.subnet? i = sw.bus.device.memory.subnet? i ∨
      (request.serve sw).bus.device.memory.subnet? i = none := by
  have hadd (subnet : Subnet) (target : RouteTarget)
      (hr : request.route? = some (subnet, target)) : sw.routing.newSlot? subnet target ≠ some i := by
    cases hroute.symm.trans hr
  by_cases hremoved : ∃ subnet old, request = .removeRoute subnet ∧
      sw.routing.routes.get? subnet.canon = some old ∧ old.slot = i
  · obtain ⟨subnet, old, rfl, hold, rfl⟩ := hremoved
    obtain ⟨hblank, hsame⟩ := h.removeRoute_slot hold
    by_cases htaken : (Site.entry .route old.slot).Taken sw.bus
    · exact .inr (Memory.subnet?_blank (hblank htaken))
    · exact .inl (Switch.subnet?_congr (hsame htaken))
  · refine .inl (Switch.subnet?_congr (h.slotWords_serve request hi hadd ?_))
    exact fun subnet old hr hold hslot => hremoved ⟨subnet, old, hr, hold, hslot⟩

theorem distinct_iff (request : RoutingRequest) (h : sw.Mirrors)
    (hd : sw.bus.device.memory.RoutesDistinct) :
    (request.serve sw).bus.device.memory.RoutesDistinct ↔ ¬ request.Doubles sw := by
  cases hroute : request.route? with
  | none =>
      refine iff_of_true (hd.of_fewer fun i hi => request.fewer_subnets h hroute hi) ?_
      rintro ⟨subnet, target, slot, i, hr, -⟩
      cases hroute.symm.trans hr
  | some route =>
      obtain ⟨subnet, target⟩ := route
      have hslots := h.addRoute_slots subnet target
      rw [serve_route hroute]
      cases hop : Switch.addRoute subnet target sw with
      | error e sw' =>
          have hsame := hslots.of_error hop
          rw [Operation.after, hop]
          refine iff_of_true (hd.of_fewer fun i hi => .inl (Switch.subnet?_congr (hsame i hi))) ?_
          rintro ⟨subnet', target', slot, i, hr, hanswer, -⟩
          cases hroute.symm.trans hr
          rw [Operation.answer, hop] at hanswer
          cases hanswer
      | ok slot sw' =>
          obtain ⟨hslot, hself, hne⟩ := hslots.of_ok hop
          have hanswer : Operation.answer (Switch.addRoute subnet target) sw = .ok slot := by
            rw [Operation.answer, hop]
          have hfound : sw'.bus.device.memory.subnet? slot = some subnet.canon := by
            rw [Memory.subnet?_routeWords hself, Subnet.canon_canon]
          rw [Operation.after, hop]
          rw [hd.added_iff hslot hfound fun i hi hislot => Switch.subnet?_congr (hne i hi hislot)]
          constructor
          · rintro hother ⟨subnet', target', slot', i, hr, hanswer', hi, hislot, hs⟩
            cases hroute.symm.trans hr
            cases hanswer.symm.trans hanswer'
            exact hother i hi hislot hs
          · intro hnot i hi hislot hs
            exact hnot ⟨subnet, target, slot, i, hroute, hanswer, hi, hislot, hs⟩

end RoutingRequest

/-! ### Slots without a route -/

/-- Routes are recorded for canonical subnets, and slots without a route are clear. -/
structure Switch.Swept (sw : Switch (Watched Channel)) : Prop where
  canon : ∀ subnet route, sw.routing.routes.get? subnet = some route → subnet.canon = subnet
  blank : ∀ i, i < Table.route.depth → sw.routing.SlotUsed i ∨
    sw.slotWords i = (Site.entry .route i).blank

namespace Switch.Swept

variable {sw sw' : Switch (Watched Channel)}

theorem distinct (hs : sw.Swept) (h : sw.Mirrors) : sw.bus.device.memory.RoutesDistinct := by
  have hroute (i : RouteSlot) (hi : i < Table.route.depth) (subnet : Subnet)
      (hf : sw.bus.device.memory.subnet? i = some subnet) :
      ∃ route, sw.routing.routes.get? subnet = some route ∧ route.slot = i := by
    rcases hs.blank i hi with ⟨s, route, hr, rfl⟩ | hblank
    · have hcanon := Memory.subnet?_routeWords (h.stored hr)
      rw [hf, hs.canon s route hr] at hcanon
      cases hcanon
      exact ⟨route, hr, rfl⟩
    · cases hf.symm.trans (Memory.subnet?_blank hblank)
  intro i j hi hj subnet his hjs
  obtain ⟨route, hr, rfl⟩ := hroute i hi subnet his
  obtain ⟨route', hr', rfl⟩ := hroute j hj subnet hjs
  cases hr.symm.trans hr'
  rfl

theorem congr (hs : sw.Swept) (hr : sw'.routing.view.route? = sw.routing.view.route?)
    (hw : ∀ i, i < Table.route.depth → sw'.slotWords i = sw.slotWords i) : sw'.Swept where
  canon s route hroute := hs.canon s route ((congrFun hr s).symm.trans hroute)
  blank i hi := by
    rw [hw i hi]
    refine (hs.blank i hi).imp_left ?_
    rintro ⟨s, route, hroute, hslot⟩
    exact ⟨s, route, (congrFun hr s).trans hroute, hslot⟩

theorem addRoute (hs : sw.Swept) (h : sw.Mirrors) (subnet : Subnet) (target : RouteTarget) :
    (Operation.after (Switch.addRoute subnet target) sw).Swept := by
  refine Ends.after (((h.addRoute_slots subnet target).and (Ends.focus
    (Q := fun slot sw' => (∀ old, sw.routing.routes.get? subnet.canon = some old → old.slot = slot) ∧
      sw'.routing.routes.get? = (sw.routing.routes.insert subnet.canon ⟨slot, target⟩).get?)
    (E := fun _ sw' => sw'.routing.view.route? = sw.routing.view.route?)
    ((Routing.addRoute_objects h.intact subnet target).mono ?_ ?_))).mono ?_ ?_)
  · rintro slot t ⟨hold, hr⟩
    refine ⟨hold, ?_⟩
    rw [KeyMap.get?_insert_eq_update]
    exact congrArg Routing.View.route? hr.view_eq
  · intro e t hr
    exact congrArg Routing.View.route? hr.view_eq
  · rintro slot sw' ⟨⟨hslot, hself, hne⟩, hold, hroutes⟩
    refine ⟨fun s route hr => ?_, fun i hi => ?_⟩
    · rw [hroutes] at hr
      exact KeyMap.forall_insert (P := fun s _ => s.canon = s) subnet.canon_canon hs.canon s route hr
    · by_cases his : i = slot
      · refine .inl ⟨subnet.canon, ⟨slot, target⟩, ?_, his.symm⟩
        rw [hroutes, KeyMap.get?_insert_self]
      · rw [hne i hi his]
        refine (hs.blank i hi).imp_left ?_
        rintro ⟨s, route, hr, rfl⟩
        refine ⟨s, route, ?_, rfl⟩
        rw [hroutes, KeyMap.get?_insert_of_ne]
        · exact hr
        · rintro rfl
          exact his (hold route hr)
  · rintro e sw' ⟨hsame, hroutes⟩
    exact hs.congr hroutes hsame

theorem removeRoute (hs : sw.Swept) (h : sw.Mirrors) {subnet : Subnet}
    (ha : ¬ (RoutingRequest.removeRoute subnet).Abandons sw) :
    ((RoutingRequest.removeRoute subnet).serve sw).Swept := by
  cases hold : sw.routing.routes.get? subnet.canon with
  | none =>
      refine Switch.onRouting_after ((Routing.removeRoute_ends Bus.tells_true h.intact subnet).mono
        ?_ ?_)
      · rintro _ t ⟨old, hold', -⟩
        cases hold.symm.trans hold'
      · rintro e t ⟨rfl, -⟩
        exact hs
  | some old =>
      have hroutes : ((RoutingRequest.removeRoute subnet).serve sw).routing.routes =
          sw.routing.routes.erase subnet.canon := by
        refine Switch.after_onRouting
          (P := fun r => r.routes = sw.routing.routes.erase subnet.canon)
          ((Routing.removeRoute_ends Bus.tells_true h.intact subnet).mono ?_ ?_)
        · rintro _ t ⟨old', -, hr, -⟩
          rw [hr]
          exact congrArg (·.routes) (Routing.dropTarget_recounts _ old'.target).eq
        · rintro e t ⟨-, hnone, -⟩
          cases hold.symm.trans hnone
      have hclear := (h.removeRoute_slot hold).1
      refine ⟨fun s route hr => ?_, fun i hi => ?_⟩
      · rw [hroutes] at hr
        exact hs.canon s route (KeyMap.get?_of_get?_erase hr)
      · by_cases his : old.slot = i
        · subst his
          refine .inr (hclear (by_contra fun hnot => ha ⟨subnet, old, rfl, hold, hnot⟩))
        · rw [h.slotWords_serve _ hi (fun _ _ hr => by cases hr) ?_]
          · refine (hs.blank i hi).imp_left ?_
            rintro ⟨s, route, hr, rfl⟩
            refine ⟨s, route, ?_, rfl⟩
            rw [hroutes, KeyMap.get?_erase_of_ne]
            · exact hr
            · rintro rfl
              cases hold.symm.trans hr
              exact his rfl
          · intro subnet' old' hr hold'
            cases hr
            cases hold.symm.trans hold'
            exact his

theorem serve (hs : sw.Swept) (h : sw.Mirrors) {request : RoutingRequest}
    (ha : ¬ request.Abandons sw) : (request.serve sw).Swept := by
  cases hroute : request.route? with
  | some route =>
      rw [RoutingRequest.serve_route hroute]
      exact hs.addRoute h route.1 route.2
  | none =>
      by_cases hremove : ∃ subnet, request = .removeRoute subnet
      · obtain ⟨subnet, rfl⟩ := hremove
        exact hs.removeRoute h ha
      · have hother := not_exists.mp hremove
        refine hs.congr (request.routes_eq h.intact hroute hother) fun i hi => ?_
        refine h.slotWords_serve request hi (fun subnet target hr => ?_) fun subnet old hr => ?_
        · cases hroute.symm.trans hr
        · exact absurd hr (hother subnet)

end Switch.Swept

/-! ### Every run -/

namespace SwitchEvent

variable {sw : Switch (Watched Channel)}

/-- A request to routed forwarding, or other writes that the chip refuses from now on. -/
def Routed : SwitchEvent → Prop
  | request (.routing _) => True
  | request _ => False
  | faults stalled _ => stalled = false

def Doubles : SwitchEvent → Switch (Watched Channel) → Prop
  | request (.routing r), sw => r.Doubles sw
  | _, _ => False

def Abandons : SwitchEvent → Switch (Watched Channel) → Prop
  | request (.routing r), sw => r.Abandons sw
  | _, _ => False

theorem Routed.prompt {event : SwitchEvent} (he : event.Routed) : event.Prompt := by
  cases event with
  | request r => trivial
  | faults stalled failing => exact he

/-- Other faults change nothing that is stored or recorded. -/
theorem faults_slotWords (h : sw.Mirrors) (failing : List (Nat × Nat)) (i : RouteSlot) :
    ((faults false failing).apply sw).slotWords i = sw.slotWords i := by
  have hmemory := (Channel.Sound.setFaults h.sound false failing).2.1
  rw [Switch.slotWords_eq, Switch.slotWords_eq]
  exact congrArg (Site.entry .route i).stored hmemory

theorem distinct_iff (event : SwitchEvent) (he : event.Routed) (h : sw.Mirrors)
    (hd : sw.bus.device.memory.RoutesDistinct) :
    (event.apply sw).bus.device.memory.RoutesDistinct ↔ ¬ event.Doubles sw := by
  cases event with
  | request r =>
      cases r with
      | routing r => exact r.distinct_iff h hd
      | _ => exact he.elim
  | faults stalled failing =>
      cases he
      refine iff_of_true (hd.of_fewer fun i _ => .inl ?_) id
      exact Switch.subnet?_congr (faults_slotWords h failing i)

theorem swept (event : SwitchEvent) (he : event.Routed) (h : sw.Mirrors) (hs : sw.Swept)
    (ha : ¬ event.Abandons sw) : (event.apply sw).Swept := by
  cases event with
  | request r =>
      cases r with
      | routing r => exact hs.serve h ha
      | _ => exact he.elim
  | faults stalled failing =>
      cases he
      exact hs.congr rfl fun i _ => faults_slotWords h failing i

end SwitchEvent

/-- During every run of requests to routed forwarding on a switch over a fresh chip that is never
stalled, whatever the chip refuses and whenever that changes: no two slots of the route table ever have
entries for one subnet exactly if no route is added while another slot has an entry for its subnet; and
that never happens if the chip clears the slot of every route that is removed. -/
theorem Switch.routes_distinct_iff (board : Board) {settings : ChannelSettings} {base size : Nat}
    {ch : Channel} (hopen : Channel.open? settings (.emulated (.fresh base size)) = .ok ch)
    (events : List SwitchEvent) (hrouted : ∀ event ∈ events, event.Routed) :
    let sw (k : Nat) := (Switch.fresh board (Watched.start ch)).after (events.take k)
    ((∀ k ≤ events.length, (sw k).bus.device.memory.RoutesDistinct) ↔
      ∀ (k : Nat) (event : SwitchEvent), events[k]? = some event → ¬ event.Doubles (sw k)) ∧
    ((∀ (k : Nat) (event : SwitchEvent), events[k]? = some event → ¬ event.Abandons (sw k)) →
      ∀ k ≤ events.length, (sw k).bus.device.memory.RoutesDistinct) := by
  intro sw
  have hclear := Channel.clear_of_open hopen
  have hstart : (Switch.fresh board (Watched.start ch)).Mirrors :=
    ⟨_, Switch.fresh_reflects board ⟨hclear.sound, hclear.prompt, hclear.memory⟩ fun _ hb => hb⟩
  have hevent {k : Nat} {event : SwitchEvent} (hk : events[k]? = some event) : event.Routed :=
    hrouted event (List.mem_of_getElem? hk)
  have hmirrors : ∀ k ≤ events.length, (sw k).Mirrors :=
    foldl_take_holds hstart fun _ event hk h => event.apply_mirrors (hevent hk).prompt h
  have hswept : (Switch.fresh board (Watched.start ch)).Swept := by
    refine ⟨fun subnet route hr => ?_, fun i _ => .inr ?_⟩
    · cases hr
    · rw [slotWords_eq]
      exact (congrArg _ hclear.memory).trans (Site.stored_clear _)
  have hle {k : Nat} {event : SwitchEvent} (hk : events[k]? = some event) : k < events.length :=
    (List.getElem?_eq_some_iff.mp hk).1
  refine ⟨⟨fun hdistinct k event hk => ?_, fun hnone => ?_⟩, fun hnone k hk => ?_⟩
  · have hnext := hdistinct (k + 1) (hle hk)
    have hnow := hdistinct k (Nat.le_of_lt (hle hk))
    change ((Switch.fresh board (Watched.start ch)).after
      (events.take (k + 1))).bus.device.memory.RoutesDistinct at hnext
    rw [after, foldl_take_succ _ _ hk] at hnext
    exact (event.distinct_iff (hevent hk) (hmirrors k (Nat.le_of_lt (hle hk))) hnow).mp hnext
  · refine foldl_take_holds (P := fun sw : Switch (Watched Channel) => sw.bus.device.memory.RoutesDistinct)
      (hswept.distinct hstart) fun k event hk hd => ?_
    exact (event.distinct_iff (hevent hk) (hmirrors k (Nat.le_of_lt (hle hk))) hd).mpr (hnone k event hk)
  · have hall : ∀ k ≤ events.length, (sw k).Swept :=
      foldl_take_holds hswept fun k event hk hs =>
        event.swept (hevent hk) (hmirrors k (Nat.le_of_lt (hle hk))) hs (hnone k event hk)
    exact (hall k hk).distinct (hmirrors k hk)

/-- A network of 256 addresses. -/
def Subnet.documented : Subnet := ⟨⟨0xc0000200⟩, 24, by decide⟩

/-- A route whose first entry is refused, and which is added, removed and added again. -/
def SwitchEvent.retried : List SwitchEvent := [
  .request (.routing (.createInterface ⟨2, 0, 0, 0, 0, 1⟩ 7)),
  .request (.routing (.createEgress ⟨⟨2, 0, 0, 0, 0, 9⟩, default, 1⟩)),
  .faults false [(0x0a170000, 0x0a1b0000)],
  .request (.routing (.addRoute .documented (.egress 1))),
  .faults false [],
  .request (.routing (.addRoute .documented (.egress 1))),
  .request (.routing (.removeRoute .documented)),
  .request (.routing (.addRoute .documented (.egress 1)))]

theorem Switch.routes_distinct_retried :
    let sw := (Switch.fresh ⟨48, Board.defaultStem, Board.defaultMacBase⟩
      (Watched.start Channel.driven)).after SwitchEvent.retried
    sw.bus.refused = true ∧ sw.bus.device.memory.subnet? 2 = some .documented ∧
      sw.bus.device.memory.RoutesDistinct := by
  have hopen : Channel.open? ⟨.driver, 500, 1000, true⟩ (.emulated (.fresh 0 256)) =
      .ok Channel.driven := rfl
  have hrouted : ∀ event ∈ SwitchEvent.retried, event.Routed := by
    simp [SwitchEvent.retried, SwitchEvent.Routed]
  have hdistinct := (routes_distinct_iff ⟨48, Board.defaultStem, Board.defaultMacBase⟩ hopen
    SwitchEvent.retried hrouted).2
  let sw (k : Nat) := (Switch.fresh ⟨48, Board.defaultStem, Board.defaultMacBase⟩
    (Watched.start Channel.driven)).after (SwitchEvent.retried.take k)
  have hroute : (sw 6).routing.routes.get? Subnet.documented.canon = some ⟨1, .egress 1⟩ := by
    decide +kernel
  have htaken : (MemoryBus.backing (sw 6).bus).takes (Table.route.address 1) Table.route.words =
      true := by decide +kernel
  refine ⟨by decide +kernel, by decide +kernel, hdistinct (fun k event hk ha => ?_) 8 (by decide)⟩
  cases event with
  | faults stalled failing => exact ha
  | request r =>
      cases r with
      | routing r =>
          obtain ⟨subnet, old, rfl, hold, hnot⟩ := ha
          -- The only removal is the seventh request, which the chip takes.
          rcases k with _ | _ | _ | _ | _ | _ | _ | _ | k <;> cases hk
          cases hold.symm.trans hroute
          exact hnot htaken
      | _ => exact ha

/-- The same route, removed while the chip refuses to clear its slot, and added again. -/
def SwitchEvent.abandoned : List SwitchEvent := [
  .request (.routing (.createInterface ⟨2, 0, 0, 0, 0, 1⟩ 7)),
  .request (.routing (.createEgress ⟨⟨2, 0, 0, 0, 0, 9⟩, default, 1⟩)),
  .request (.routing (.addRoute .documented (.egress 1))),
  .faults false [(0x0a170000, 0x0a1b0000)],
  .request (.routing (.removeRoute .documented)),
  .faults false [],
  .request (.routing (.addRoute .documented (.egress 1)))]

/-- The route has two entries. -/
theorem Switch.route_doubled :
    let sw := (Switch.fresh ⟨48, Board.defaultStem, Board.defaultMacBase⟩
      (Watched.start Channel.driven)).after SwitchEvent.abandoned
    (∀ event ∈ SwitchEvent.abandoned, event.Routed) ∧
      sw.bus.device.memory.subnet? 0 = some .documented ∧
      sw.bus.device.memory.subnet? 1 = some .documented ∧ ¬ sw.bus.device.memory.RoutesDistinct := by
  intro sw
  have hstale : sw.bus.device.memory.subnet? 0 = some .documented := by decide +kernel
  have hnew : sw.bus.device.memory.subnet? 1 = some .documented := by decide +kernel
  refine ⟨by simp [SwitchEvent.abandoned, SwitchEvent.Routed], hstale, hnew, fun h => ?_⟩
  cases h 0 1 (by decide) (by decide) _ hstale hnew

end ControlPlane
