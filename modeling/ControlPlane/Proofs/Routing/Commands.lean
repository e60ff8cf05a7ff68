import ControlPlane.Proofs.Routing.Operations

/-! # What the chip is told of routed forwarding

Each operation of routed forwarding tells the chip at most one thing: to take the entries of what is
created, at an index that the record chooses alone, or to clear those of what is destroyed.  One theorem
for each operation says how it ends in these terms, on any record and any device.

`newInterface?`, `newEgress?`, `newSlot?` and `newGroup?` are the choices; they are `none` where a
creation fails before it tells the chip anything. -/

namespace ControlPlane

open Operation (Ends)

/-- The index that a pool hands out next. -/
def IndexPool.next? (p : IndexPool) : Option Nat := p.scan p.range.size p.cursor

theorem IndexPool.alloc_of_next?_some {p : IndexPool} {n : Nat} (h : p.next? = some n) :
    p.alloc = .ok n (p.take n) := by
  rw [next?] at h
  rw [alloc, h]

theorem IndexPool.alloc_of_next?_none {p : IndexPool} (h : p.next? = none) :
    p.alloc = .error (.full (.table p.range.name)) p := by
  rw [next?] at h
  rw [alloc, h]

namespace Routing

variable {δ : Type} [Bus δ] {r : Routing} {bus : δ}

/-! ### Interfaces -/

def newInterface? (r : Routing) (vlan : Nat) : Option InterfaceId :=
  if VlanTag.IsTag vlan then r.interfaceIds.next? else none

theorem Intact.newInterface? (h : r.Intact) {vlan : Nat} {id : InterfaceId}
    (hn : r.newInterface? vlan = some id) :
    IndexRange.interfaces.Holds id ∧ r.interfaces.contains id = false := by
  rw [Routing.newInterface?] at hn
  split at hn
  · obtain ⟨-, hid, hc⟩ := h.interfaceIds.alloc_ok (IndexPool.alloc_of_next?_some hn)
    exact ⟨hid, (Bool.not_eq_true _).mp hc⟩
  · cases hn

theorem createInterface_commands (mac : MacAddr) (vlan : Nat) :
    Ends (createInterface mac vlan) (r, bus)
      (fun id t => r.newInterface? vlan = some id ∧
        Table.interface.write id (InterfaceEntry.mk mac vlan).encode bus = .ok () t.2)
      (fun e t => r.newInterface? vlan = none ∧ t.2 = bus ∨
        ∃ id, r.newInterface? vlan = some id ∧
          Table.interface.write id (InterfaceEntry.mk mac vlan).encode bus = .error e t.2) := by
  by_cases hv : VlanTag.IsTag vlan
  · rw [newInterface?, if_pos hv]
    cases hn : r.interfaceIds.next? with
    | none =>
        have ha := IndexPool.alloc_of_next?_none hn
        exact Operation.ends_error
          (by simp only [createInterface, hv, ha, not_true, if_false]; rfl) (.inl ⟨rfl, rfl⟩)
    | some id =>
        have ha := IndexPool.alloc_of_next?_some hn
        cases hb : Table.interface.write id (InterfaceEntry.mk mac vlan).encode bus with
        | ok u bus' =>
            exact Operation.ends_ok
              (by simp only [createInterface, hv, ha, hb, not_true, if_false]; rfl) ⟨rfl, hb⟩
        | error e bus' =>
            exact Operation.ends_error
              (by simp only [createInterface, hv, ha, hb, not_true, if_false]; rfl)
              (.inr ⟨id, rfl, hb⟩)
  · rw [newInterface?, if_neg hv]
    exact Operation.ends_error
      (by simp only [createInterface, hv, not_false_iff, if_true]; rfl) (.inl ⟨rfl, rfl⟩)

theorem destroyInterface_commands (id : InterfaceId) :
    Ends (destroyInterface id) (r, bus)
      (fun _ t => t.2 = Operation.after (Table.interface.clear id) bus) fun _ _ => True := by
  cases hc : r.interfaces.get? id with
  | none => exact Operation.ends_error (by simp only [destroyInterface, hc]; rfl) trivial
  | some c =>
      by_cases hu : 0 < c.users
      · exact Operation.ends_error (by simp only [destroyInterface, hc, hu, if_true]; rfl) trivial
      · cases hf : r.interfaceIds.free id with
        | ok u ids =>
            exact Operation.ends_ok (by simp only [destroyInterface, hc, hu, if_false, hf]; rfl) rfl
        | error e ids =>
            exact Operation.ends_error
              (by simp only [destroyInterface, hc, hu, if_false, hf]; rfl) trivial

/-! ### Egress objects -/

def newEgress? (r : Routing) (board : Board) (e : Egress) : Option EgressId :=
  if board.Has e.port ∧ r.interfaces.contains e.interface = true then r.egressIds.next? else none

theorem Intact.newEgress? (h : r.Intact) {board : Board} {e : Egress} {id : EgressId}
    (hn : r.newEgress? board e = some id) :
    IndexRange.egresses.Holds id ∧ r.egresses.contains id = false := by
  rw [Routing.newEgress?] at hn
  split at hn
  · obtain ⟨-, hid, hc⟩ := h.egressIds.alloc_ok (IndexPool.alloc_of_next?_some hn)
    exact ⟨hid, (Bool.not_eq_true _).mp hc⟩
  · cases hn

theorem createEgress_commands (board : Board) (e : Egress) :
    Ends (createEgress board e) (r, bus)
      (fun id t => r.newEgress? board e = some id ∧ writeHop id e bus = .ok () t.2)
      (fun why t => r.newEgress? board e = none ∧ t.2 = bus ∨
        ∃ id, r.newEgress? board e = some id ∧ writeHop id e bus = .error why t.2) := by
  by_cases hp : board.Has e.port
  · by_cases hi : r.interfaces.contains e.interface = true
    · rw [newEgress?, if_pos ⟨hp, hi⟩]
      cases hn : r.egressIds.next? with
      | none =>
          have ha := IndexPool.alloc_of_next?_none hn
          exact Operation.ends_error
            (by simp only [createEgress, hp, hi, ha, not_true, if_false, if_true]; rfl)
            (.inl ⟨rfl, rfl⟩)
      | some id =>
          have ha := IndexPool.alloc_of_next?_some hn
          cases hb : writeHop id e bus with
          | ok u bus' =>
              exact Operation.ends_ok
                (by simp only [createEgress, hp, hi, ha, hb, not_true, if_false, if_true]; rfl)
                ⟨rfl, hb⟩
          | error why bus' =>
              exact Operation.ends_error
                (by simp only [createEgress, hp, hi, ha, hb, not_true, if_false, if_true]; rfl)
                (.inr ⟨id, rfl, hb⟩)
    · rw [newEgress?, if_neg fun h => hi h.2]
      exact Operation.ends_error
        (by simp only [createEgress, hp, hi, not_true, if_false, Bool.false_eq_true]; rfl)
        (.inl ⟨rfl, rfl⟩)
  · rw [newEgress?, if_neg fun h => hp h.1]
    exact Operation.ends_error
      (by simp only [createEgress, hp, not_false_iff, if_true]; rfl) (.inl ⟨rfl, rfl⟩)

theorem destroyEgress_commands (id : EgressId) :
    Ends (destroyEgress id) (r, bus)
      (fun _ t => t.2 = Operation.after (Table.egressHop.clear id)
        (Operation.after (Table.ingressHop.clear id) bus)) fun _ _ => True := by
  cases hc : r.egresses.get? id with
  | none => exact Operation.ends_error (by simp only [destroyEgress, hc]; rfl) trivial
  | some c =>
      by_cases hu : 0 < c.users
      · exact Operation.ends_error (by simp only [destroyEgress, hc, hu, if_true]; rfl) trivial
      · cases hf : r.egressIds.free id with
        | ok u ids =>
            exact Operation.ends_ok (by simp only [destroyEgress, hc, hu, if_false, hf]; rfl) rfl
        | error e ids =>
            exact Operation.ends_error
              (by simp only [destroyEgress, hc, hu, if_false, hf]; rfl) trivial

/-! ### Routes -/

def newSlot? (r : Routing) (subnet : Subnet) (target : RouteTarget) : Option RouteSlot :=
  if r.hasTarget target = true then
    match r.routes.get? subnet.canon with
    | some old => some old.slot
    | none => r.routeSlots.next?
  else
    none

theorem Intact.newSlot? (h : r.Intact) {subnet : Subnet} {target : RouteTarget} {slot : RouteSlot}
    (hn : r.newSlot? subnet target = some slot) : IndexRange.routes.Holds slot := by
  rw [Routing.newSlot?] at hn
  split at hn
  · cases hs : r.routes.get? subnet.canon with
    | some old =>
        rw [hs] at hn
        cases hn
        exact h.routeSlots.holds ⟨subnet.canon, old, hs, rfl⟩
    | none =>
        rw [hs] at hn
        exact (h.routeSlots.alloc_ok (IndexPool.alloc_of_next?_some hn)).2.1
  · cases hn

/-- The words of a route's entry. -/
def routeWords (subnet : Subnet) (target : RouteTarget) : List UInt32 :=
  (RouteEntry.mk subnet target.isGroup target.index).encode

theorem addRoute_commands (subnet : Subnet) (target : RouteTarget) :
    Ends (addRoute subnet target) (r, bus)
      (fun slot t => r.newSlot? subnet target = some slot ∧
        Table.route.write slot (routeWords subnet.canon target) bus = .ok () t.2)
      (fun e t => r.newSlot? subnet target = none ∧ t.2 = bus ∨
        ∃ slot, r.newSlot? subnet target = some slot ∧
          Table.route.write slot (routeWords subnet.canon target) bus = .error e t.2) := by
  by_cases htarget : r.hasTarget target = true
  · rw [newSlot?, if_pos htarget]
    have hwritten (slot : RouteSlot) (r' : Routing) (hs : slotFor subnet.canon r = .ok slot r') :
        Ends (addRoute subnet target) (r, bus)
          (fun slot' t => some slot = some slot' ∧
            Table.route.write slot' (routeWords subnet.canon target) bus = .ok () t.2)
          (fun e t => some slot = none ∧ t.2 = bus ∨ ∃ slot', some slot = some slot' ∧
            Table.route.write slot' (routeWords subnet.canon target) bus = .error e t.2) := by
      unfold routeWords
      cases hb : Table.route.write slot
          (RouteEntry.mk subnet.canon target.isGroup target.index).encode bus with
      | ok u bus' =>
          exact Operation.ends_ok (by simp only [addRoute, htarget, hs, hb, if_true]; rfl) ⟨rfl, hb⟩
      | error e bus' =>
          exact Operation.ends_error (by simp only [addRoute, htarget, hs, hb, if_true]; rfl)
            (.inr ⟨slot, rfl, hb⟩)
    cases hs : r.routes.get? subnet.canon with
    | some old => exact hwritten old.slot r (by rw [slotFor, hs])
    | none =>
        cases hn : r.routeSlots.next? with
        | none =>
            have ha := IndexPool.alloc_of_next?_none hn
            exact Operation.ends_error
              (by simp only [addRoute, slotFor, htarget, hs, ha, if_true]; rfl) (.inl ⟨rfl, rfl⟩)
        | some slot =>
            have ha := IndexPool.alloc_of_next?_some hn
            exact hwritten slot { r with routeSlots := r.routeSlots.take slot }
              (by simp only [slotFor, hs, ha])
  · rw [newSlot?, if_neg htarget]
    exact Operation.ends_error
      (by simp only [addRoute, htarget, if_false, Bool.false_eq_true]; rfl) (.inl ⟨rfl, rfl⟩)

theorem removeRoute_commands (subnet : Subnet) :
    Ends (removeRoute subnet) (r, bus)
      (fun _ t => ∃ old, r.routes.get? subnet.canon = some old ∧
        t.2 = Operation.after (Table.route.clear old.slot) bus) fun _ _ => True := by
  cases hs : r.routes.get? subnet.canon with
  | none => exact Operation.ends_error (by simp only [removeRoute, hs]; rfl) trivial
  | some old =>
      cases hf : r.routeSlots.free old.slot with
      | ok u slots =>
          exact Operation.ends_ok (by simp only [removeRoute, hs, hf]; rfl) ⟨old, rfl, rfl⟩
      | error e slots =>
          exact Operation.ends_error (by simp only [removeRoute, hs, hf]; rfl) trivial

/-! ### Groups -/

/-- The index and the first place of a new group. -/
def newGroup? (r : Routing) (members : List EgressId) : Option (GroupId × Nat) :=
  if (members.isEmpty ∨ groupMembersMax < members.length) ∨
      (members.find? fun m => !r.egresses.contains m).isSome then
    none
  else
    match r.takeGroup members.length with
    | .ok taken _ => some taken
    | .error _ _ => none

/-- A new group takes an index and places that are free. -/
theorem Intact.newGroup? (h : r.Intact) {members : List EgressId} {id : GroupId} {base : Nat}
    (hn : r.newGroup? members = some (id, base)) :
    IndexRange.groups.Holds id ∧ r.groups.contains id = false ∧
      base + members.length ≤ Table.member.depth ∧
      ∀ n, base ≤ n → n < base + members.length → ¬ r.PlaceUsed n := by
  rw [Routing.newGroup?] at hn
  split at hn
  · cases hn
  · cases ha : r.groupIds.alloc with
    | error e ids => simp only [takeGroup, ha] at hn; cases hn
    | ok id' ids =>
        cases hp : r.places.alloc members.length with
        | error e places => simp only [takeGroup, ha, hp] at hn; cases hn
        | ok base' places =>
            simp only [takeGroup, ha, hp] at hn
            cases hn
            obtain ⟨-, hid, hc⟩ := h.groupIds.alloc_ok ha
            obtain ⟨-, hle, hfree, -⟩ := h.places.alloc_ok hp
            exact ⟨hid, (Bool.not_eq_true _).mp hc, hle, hfree⟩

theorem length_of_newGroup? {members : List EgressId} {taken : GroupId × Nat}
    (h : r.newGroup? members = some taken) :
    0 < members.length ∧ members.length ≤ groupMembersMax := by
  rw [newGroup?] at h
  split at h
  · cases h
  · rename_i hgood
    rw [not_or, not_or, List.isEmpty_iff, ← ne_eq, ← List.length_pos_iff, Nat.not_lt] at hgood
    exact hgood.1

theorem takeGroup_groups {count : Nat} {taken : GroupId × Nat} {r' : Routing}
    (h : r.takeGroup count = .ok taken r') : r'.groups = r.groups := by
  unfold takeGroup at h
  split at h
  · cases h
  · split at h
    · cases h
    · cases h
      rfl

theorem createGroup_commands (members : List EgressId) :
    Ends (createGroup members) (r, bus)
      (fun id t => ∃ base, r.newGroup? members = some (id, base) ∧
        writeGroup id ⟨members, base⟩ bus = .ok () t.2 ∧
        t.1.groups = r.groups.insert id (.unused ⟨members, base⟩))
      (fun e t => r.newGroup? members = none ∧ t.2 = bus ∨
        ∃ id base bus', r.newGroup? members = some (id, base) ∧
          writeGroup id ⟨members, base⟩ bus = .error e bus' ∧
          t.2 = clearGroup id base members.length bus') := by
  by_cases hsize : members.isEmpty ∨ groupMembersMax < members.length
  · rw [newGroup?, if_pos (.inl hsize)]
    exact Operation.ends_error (by simp only [createGroup, hsize, if_true]; rfl) (.inl ⟨rfl, rfl⟩)
  · cases hfind : members.find? fun m => !r.egresses.contains m with
    | some m =>
        rw [newGroup?, if_pos (.inr (by rw [hfind]; rfl))]
        exact Operation.ends_error (by simp only [createGroup, hsize, hfind, if_false]; rfl)
          (.inl ⟨rfl, rfl⟩)
    | none =>
        have hgood : ¬ ((members.isEmpty ∨ groupMembersMax < members.length) ∨
            (members.find? fun m => !r.egresses.contains m).isSome = true) := by
          rw [hfind]
          exact fun h => h.elim hsize Bool.false_ne_true
        rw [newGroup?, if_neg hgood]
        cases ht : r.takeGroup members.length with
        | error e r' =>
            exact Operation.ends_error
              (by simp only [createGroup, hsize, hfind, ht, if_false]; rfl) (.inl ⟨rfl, rfl⟩)
        | ok taken r' =>
            obtain ⟨id, base⟩ := taken
            cases hb : writeGroup id ⟨members, base⟩ bus with
            | error e bus' =>
                exact Operation.ends_error
                  (by simp only [createGroup, hsize, hfind, ht, hb, if_false]; rfl)
                  (.inr ⟨id, base, bus', rfl, hb, rfl⟩)
            | ok u bus' =>
                refine Operation.ends_ok
                  (by simp only [createGroup, hsize, hfind, ht, hb, if_false]; rfl)
                  ⟨base, rfl, hb, ?_⟩
                rw [← takeGroup_groups ht]

theorem destroyGroup_commands (id : GroupId) :
    Ends (destroyGroup id) (r, bus)
      (fun _ t => ∃ c, r.groups.get? id = some c ∧
        t.2 = clearGroup id c.value.base c.value.members.length bus) fun _ _ => True := by
  cases hc : r.groups.get? id with
  | none => exact Operation.ends_error (by simp only [destroyGroup, hc]; rfl) trivial
  | some c =>
      by_cases hu : 0 < c.users
      · exact Operation.ends_error (by simp only [destroyGroup, hc, hu, if_true]; rfl) trivial
      · cases hp : r.places.release c.value.base c.value.members.length with
        | error e places =>
            exact Operation.ends_error
              (by simp only [destroyGroup, hc, hu, if_false, hp]; rfl) trivial
        | ok u places =>
            cases hf : r.groupIds.free id with
            | error e ids =>
                exact Operation.ends_error
                  (by simp only [destroyGroup, hc, hu, if_false, hp, hf]; rfl) trivial
            | ok u ids =>
                exact Operation.ends_ok
                  (by simp only [destroyGroup, hc, hu, if_false, hp, hf]; rfl) ⟨c, rfl, rfl⟩

end Routing

end ControlPlane
