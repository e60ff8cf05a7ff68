import ControlPlane.Proofs.Device.Refusals
import ControlPlane.Proofs.Routing.Changes
import ControlPlane.Routing.Groups
import ControlPlane.Routing.Interfaces

/-! # What the operations of routed forwarding do

One theorem for each operation, on an intact record and whatever the device answers: how the record
looks if the operation succeeds, and what a failure leaves behind and is due to.

* A success makes one of the changes of `Proofs.Routing.Changes`, and so leaves the record intact.
* A failed creation, or a failed route, leaves all objects as they were (`Kept`).  It is due to its
  arguments, to a pool with nothing free, or to the device.
* A failed destruction changes nothing at all.  The object is not there, or is in use.

`refused` is any predicate that tells of the device whether it has refused a command. -/

namespace ControlPlane.Routing

open Operation (Ends)

variable {δ : Type} [Bus δ] {refused : δ → Prop} {r : Routing} {bus : δ}

/-- An intact record of the same objects; only the cursors of the pools may differ. -/
structure Kept (r r' : Routing) : Prop where
  rewound_eq : r'.rewound = r.rewound
  intact : r'.Intact

theorem Intact.kept (h : r.Intact) : r.Kept r := ⟨rfl, h⟩

/-- How a creation fails: nothing is created, and either the device has refused or `cause` holds. -/
structure Failed (refused : δ → Prop) (r : Routing) (bus : δ) (cause : Prop) (t : Routing × δ) :
    Prop where
  kept : r.Kept t.1
  persists : refused bus → refused t.2
  reason : refused t.2 ∨ cause

/-! ### Interfaces -/

theorem createInterface_ends (ht : Bus.Tells refused) (h : r.Intact) (mac : MacAddr) (vlan : Nat) :
    Ends (createInterface mac vlan) (r, bus)
      (fun id t => r.interfaces.contains id = false ∧
        t.1 = { r with
          interfaceIds := r.interfaceIds.take id
          interfaces := r.interfaces.insert id (.unused ⟨mac, vlan⟩) } ∧
        t.1.Intact ∧ (refused bus → refused t.2))
      (fun _ t => Failed refused r bus (¬ VlanTag.IsTag vlan ∨ r.interfaceIds.Full) t) := by
  by_cases hv : VlanTag.IsTag vlan
  · cases ha : r.interfaceIds.alloc with
    | error e ids =>
        obtain ⟨rfl, -, hfull⟩ := h.interfaceIds.alloc_error ha
        refine Operation.ends_error (by simp only [createInterface, hv, ha, not_true, if_false]; rfl) ?_
        exact ⟨h.kept, id, .inr (.inr hfull)⟩
    | ok id ids =>
        obtain ⟨rfl, hn, hid⟩ := h.interfaceIds.alloc_ok ha
        have hw := Table.write_ends ht .interface id
          (InterfaceEntry.mk mac vlan).encode hn.2 (Fields.length_encode _ _) bus
        cases hb : Table.interface.write id (InterfaceEntry.mk mac vlan).encode bus with
        | ok u bus' =>
            refine Operation.ends_ok
              (by simp only [createInterface, hv, ha, hb, not_true, if_false]; rfl) ?_
            have hid := (Bool.not_eq_true _).mp hid
            exact ⟨hid, rfl, h.addInterface _ hn hid, hw.of_ok hb⟩
        | error e bus' =>
            refine Operation.ends_error
              (by simp only [createInterface, hv, ha, hb, not_true, if_false]; rfl) ?_
            obtain ⟨hrew, htracks⟩ := h.interfaceIds.without_take hn hid
            have hf := hw.of_error hb
            exact ⟨⟨by simp only [rewound, hrew], { h with interfaceIds := htracks }⟩,
              fun _ => hf, .inl hf⟩
  · refine Operation.ends_error (by simp only [createInterface, hv, not_false_iff, if_true]; rfl) ?_
    exact ⟨h.kept, id, .inr (.inl hv)⟩

theorem destroyInterface_ends (ht : Bus.Tells refused) (h : r.Intact) (id : InterfaceId) :
    Ends (destroyInterface id) (r, bus)
      (fun _ t => ∃ c, r.interfaces.get? id = some c ∧ c.users = 0 ∧
        t.1 = { r with
          interfaceIds := r.interfaceIds.putBack id
          interfaces := r.interfaces.erase id } ∧
        t.1.Intact ∧ (refused bus → refused t.2))
      (fun e t => t = (r, bus) ∧
        (r.interfaces.get? id = none ∧ e = .missing (.interface id) ∨
          ∃ c, r.interfaces.get? id = some c ∧ 0 < c.users ∧ e = .busy (.interface id c.users))) := by
  cases hc : r.interfaces.get? id with
  | none =>
      refine Operation.ends_error (by simp only [destroyInterface, hc]; rfl) ?_
      exact ⟨rfl, .inl ⟨rfl, rfl⟩⟩
  | some c =>
      by_cases hu : 0 < c.users
      · refine Operation.ends_error (by simp only [destroyInterface, hc, hu, if_true]; rfl) ?_
        exact ⟨rfl, .inr ⟨c, rfl, hu, rfl⟩⟩
      · have hid : r.interfaces.contains id = true := KeyMap.contains_of_get? hc
        have hfree := (h.interfaceIds.free hid).1
        refine Operation.ends_ok
          (by simp only [destroyInterface, hc, hu, if_false, hfree]; rfl) ?_
        have hu : c.users = 0 := by omega
        exact ⟨c, rfl, hu, rfl, h.eraseInterface hc hu, Table.after_clear ht _ _⟩

/-! ### Egress objects -/

theorem writeHop_ends (ht : Bus.Tells refused) {id : EgressId} (hn : IndexRange.egresses.Holds id)
    (e : Egress) (bus : δ) :
    Ends (writeHop id e) bus (fun _ bus' => refused bus → refused bus') fun _ bus' => refused bus' := by
  have hin := Table.write_ends ht .ingressHop id (ingressHop e).encode hn.2
    (Fields.length_encode _ _) bus
  cases hb : Table.ingressHop.write id (ingressHop e).encode bus with
  | error why bus' =>
      refine Operation.ends_error (by simp only [writeHop, hb]; rfl) ?_
      exact hin.of_error hb
  | ok u bus' =>
      have hout := Table.write_ends ht .egressHop id (egressHop e).encode hn.2
        (Fields.length_encode _ _) bus'
      refine Ends.of_eq (Ends.orUndo ?_) (by simp only [writeHop, hb]; rfl)
      refine hout.mono (fun _ _ hk hr => hk (hin.of_ok hb hr)) fun _ b hr => ?_
      exact Ends.of_after (Table.after_clear ht .ingressHop id hr)

theorem createEgress_ends (ht : Bus.Tells refused) (h : r.Intact) (board : Board) (e : Egress) :
    Ends (createEgress board e) (r, bus)
      (fun id t => r.egresses.contains id = false ∧
        t.1 = { r.holdInterface e.interface with
          egressIds := r.egressIds.take id
          egresses := r.egresses.insert id (.unused e) } ∧
        t.1.Intact ∧ (refused bus → refused t.2))
      (fun _ t => Failed refused r bus (¬ board.Has e.port ∨
        r.interfaces.contains e.interface = false ∨ r.egressIds.Full) t) := by
  by_cases hp : board.Has e.port
  · by_cases hi : r.interfaces.contains e.interface = true
    · cases ha : r.egressIds.alloc with
      | error why ids =>
          obtain ⟨rfl, -, hfull⟩ := h.egressIds.alloc_error ha
          refine Operation.ends_error
            (by simp only [createEgress, hp, hi, ha, not_true, if_false, if_true]; rfl) ?_
          exact ⟨h.kept, id, .inr (.inr (.inr hfull))⟩
      | ok id ids =>
          obtain ⟨rfl, hn, hid⟩ := h.egressIds.alloc_ok ha
          have hw := writeHop_ends ht hn e bus
          cases hb : writeHop id e bus with
          | ok u bus' =>
              refine Operation.ends_ok
                (by simp only [createEgress, hp, hi, ha, hb, not_true, if_false, if_true]; rfl) ?_
              have hid := (Bool.not_eq_true _).mp hid
              exact ⟨hid, rfl, h.addEgress hn hid hi, hw.of_ok hb⟩
          | error why bus' =>
              refine Operation.ends_error
                (by simp only [createEgress, hp, hi, ha, hb, not_true, if_false, if_true]; rfl) ?_
              obtain ⟨hrew, htracks⟩ := h.egressIds.without_take hn hid
              have hf := hw.of_error hb
              exact ⟨⟨by simp only [rewound, hrew], { h with egressIds := htracks }⟩,
                fun _ => hf, .inl hf⟩
    · have hi := (Bool.not_eq_true _).mp hi
      refine Operation.ends_error
        (by simp only [createEgress, hp, hi, not_true, if_false, Bool.false_eq_true]; rfl) ?_
      exact ⟨h.kept, id, .inr (.inr (.inl hi))⟩
  · refine Operation.ends_error (by simp only [createEgress, hp, not_false_iff, if_true]; rfl) ?_
    exact ⟨h.kept, id, .inr (.inl hp)⟩

theorem destroyEgress_ends (ht : Bus.Tells refused) (h : r.Intact) (id : EgressId) :
    Ends (destroyEgress id) (r, bus)
      (fun _ t => ∃ c, r.egresses.get? id = some c ∧ c.users = 0 ∧
        t.1 = { r with
          egressIds := r.egressIds.putBack id
          egresses := r.egresses.erase id }.dropInterface c.value.interface ∧
        t.1.Intact ∧ (refused bus → refused t.2))
      (fun e t => t = (r, bus) ∧
        (r.egresses.get? id = none ∧ e = .missing (.egress id) ∨
          ∃ c, r.egresses.get? id = some c ∧ 0 < c.users ∧ e = .busy (.egress id c.users))) := by
  cases hc : r.egresses.get? id with
  | none =>
      refine Operation.ends_error (by simp only [destroyEgress, hc]; rfl) ?_
      exact ⟨rfl, .inl ⟨rfl, rfl⟩⟩
  | some c =>
      by_cases hu : 0 < c.users
      · refine Operation.ends_error (by simp only [destroyEgress, hc, hu, if_true]; rfl) ?_
        exact ⟨rfl, .inr ⟨c, rfl, hu, rfl⟩⟩
      · have hid : r.egresses.contains id = true := KeyMap.contains_of_get? hc
        have hfree := (h.egressIds.free hid).1
        refine Operation.ends_ok (by simp only [destroyEgress, hc, hu, if_false, hfree]; rfl) ?_
        have hu : c.users = 0 := by omega
        exact ⟨c, rfl, hu, rfl, h.eraseEgress hc hu,
          fun hr => Table.after_clear ht _ _ (Table.after_clear ht _ _ hr)⟩

/-! ### Routes -/

/-- A route is recorded for the canonical subnet, in the slot that the subnet has if it has one. -/
theorem addRoute_ends (ht : Bus.Tells refused) (h : r.Intact) (subnet : Subnet)
    (target : RouteTarget) :
    Ends (addRoute subnet target) (r, bus)
      (fun slot t => r.hasTarget target = true ∧
        (∀ old, r.routes.get? subnet.canon = some old → slot = old.slot) ∧
        (∃ slots, t.1 = { r with routeSlots := slots }.setRoute subnet.canon ⟨slot, target⟩) ∧
        t.1.Intact ∧ (refused bus → refused t.2))
      (fun _ t => Failed refused r bus (r.hasTarget target = false ∨
        r.routes.get? subnet.canon = none ∧ r.routeSlots.Full) t) := by
  by_cases htarget : r.hasTarget target = true
  · cases hs : r.routes.get? subnet.canon with
    | some old =>
        have hn := h.routeSlots.holds ⟨subnet.canon, old, hs, rfl⟩
        have hw := Table.write_ends ht .route old.slot
          (RouteEntry.mk subnet.canon target.isGroup target.index).encode hn.2
          (Fields.length_encode _ _) bus
        cases hb : Table.route.write old.slot
            (RouteEntry.mk subnet.canon target.isGroup target.index).encode bus with
        | ok u bus' =>
            refine Operation.ends_ok (by simp only [addRoute, slotFor, htarget, hs, hb, if_true]; rfl) ?_
            refine ⟨htarget, fun was hw => ?_, ⟨r.routeSlots, rfl⟩, h.replaceRoute hs htarget, hw.of_ok hb⟩
            cases hw
            rfl
        | error e bus' =>
            refine Operation.ends_error
              (by simp only [addRoute, slotFor, giveSlot, htarget, hs, hb, if_true]; rfl) ?_
            have hf := hw.of_error hb
            exact ⟨h.kept, fun _ => hf, .inl hf⟩
    | none =>
        cases ha : r.routeSlots.alloc with
        | error e slots =>
            obtain ⟨rfl, -, hfull⟩ := h.routeSlots.alloc_error ha
            refine Operation.ends_error
              (by simp only [addRoute, slotFor, htarget, hs, ha, if_true]; rfl) ?_
            exact ⟨h.kept, id, .inr (.inr ⟨rfl, hfull⟩)⟩
        | ok slot slots =>
            obtain ⟨rfl, hn, hslot⟩ := h.routeSlots.alloc_ok ha
            have hw := Table.write_ends ht .route slot
              (RouteEntry.mk subnet.canon target.isGroup target.index).encode hn.2
              (Fields.length_encode _ _) bus
            cases hb : Table.route.write slot
                (RouteEntry.mk subnet.canon target.isGroup target.index).encode bus with
            | ok u bus' =>
                refine Operation.ends_ok
                  (by simp only [addRoute, slotFor, htarget, hs, ha, hb, if_true]; rfl) ?_
                exact ⟨htarget, fun was hs => (by cases hs), ⟨r.routeSlots.take slot, rfl⟩,
                  h.addRoute hs hn hslot htarget, hw.of_ok hb⟩
            | error e bus' =>
                refine Operation.ends_error
                  (by simp only [addRoute, slotFor, giveSlot, htarget, hs, ha, hb, if_true]; rfl) ?_
                obtain ⟨hrew, htracks⟩ := h.routeSlots.without_take hn hslot
                have hf := hw.of_error hb
                exact ⟨⟨by simp only [rewound, hrew], { h with routeSlots := htracks }⟩,
                  fun _ => hf, .inl hf⟩
  · have htarget := (Bool.not_eq_true _).mp htarget
    refine Operation.ends_error
      (by simp only [addRoute, htarget, if_false, Bool.false_eq_true]; rfl) ?_
    exact ⟨h.kept, id, .inr (.inl htarget)⟩

theorem removeRoute_ends (ht : Bus.Tells refused) (h : r.Intact) (subnet : Subnet) :
    Ends (removeRoute subnet) (r, bus)
      (fun _ t => ∃ old, r.routes.get? subnet.canon = some old ∧
        t.1 = { r with
          routeSlots := r.routeSlots.putBack old.slot
          routes := r.routes.erase subnet.canon }.dropTarget old.target ∧
        t.1.Intact ∧ (refused bus → refused t.2))
      (fun e t => t = (r, bus) ∧ r.routes.get? subnet.canon = none ∧
        e = .missing (.route subnet.canon)) := by
  cases hs : r.routes.get? subnet.canon with
  | none =>
      refine Operation.ends_error (by simp only [removeRoute, hs]; rfl) ?_
      exact ⟨rfl, rfl, rfl⟩
  | some old =>
      have hfree := (h.routeSlots.free ⟨subnet.canon, old, hs, rfl⟩).1
      refine Operation.ends_ok (by simp only [removeRoute, hs, hfree]; rfl) ?_
      exact ⟨old, rfl, rfl, h.eraseRoute hs, Table.after_clear ht _ _⟩

/-! ### Groups -/

theorem writeMembers_ends (ht : Bus.Tells refused) (members : List EgressId) (place : Nat)
    (hp : place + members.length ≤ Table.member.depth) (bus : δ) :
    Ends (writeMembers place members) bus (fun _ bus' => refused bus → refused bus')
      fun _ bus' => refused bus' := by
  induction members generalizing place bus with
  | nil => exact Operation.ends_ok rfl id
  | cons m ms ih =>
      rw [List.length_cons] at hp
      have hw := Table.write_ends ht .member place (MemberEntry.mk m).encode (by omega)
        (Fields.length_encode _ _) bus
      cases hb : Table.member.write place (MemberEntry.mk m).encode bus with
      | error e bus' =>
          refine Operation.ends_error (by simp only [writeMembers, hb]; rfl) ?_
          exact hw.of_error hb
      | ok u bus' =>
          have hrest := ih (place + 1) (by omega) bus'
          refine Ends.of_eq ?_ (by simp only [writeMembers, hb]; rfl)
          exact hrest.mono (fun _ _ hk hr => hk (hw.of_ok hb hr)) fun _ _ hr => hr

theorem writeGroup_ends (ht : Bus.Tells refused) {id : GroupId} (hn : IndexRange.groups.Holds id)
    {g : Group} (hg : g.base + g.members.length ≤ Table.member.depth) (bus : δ) :
    Ends (writeGroup id g) bus (fun _ bus' => refused bus → refused bus') fun _ bus' => refused bus' := by
  have hm := writeMembers_ends ht g.members g.base hg bus
  cases hb : writeMembers g.base g.members bus with
  | error e bus' =>
      refine Operation.ends_error (by simp only [writeGroup, hb]; rfl) ?_
      exact hm.of_error hb
  | ok u bus' =>
      have hw := Table.write_ends ht .group id
        (GroupEntry.ofMembers g.base g.members).encode hn.2 (Fields.length_encode _ _) bus'
      refine Ends.of_eq ?_ (by simp only [writeGroup, hb]; rfl)
      exact hw.mono (fun _ _ hk hr => hk (hm.of_ok hb hr)) fun _ _ hr => hr

theorem clearMembers_persists (ht : Bus.Tells refused) {count place : Nat} {bus : δ}
    (h : refused bus) : refused (clearMembers place count bus) := by
  induction count generalizing place bus with
  | zero => exact h
  | succ count ih => exact ih (Table.after_clear ht _ _ h)

theorem clearGroup_persists (ht : Bus.Tells refused) (id : GroupId) (base count : Nat) {bus : δ}
    (h : refused bus) : refused (clearGroup id base count bus) :=
  clearMembers_persists ht (Table.after_clear ht _ _ h)

theorem createGroup_ends (ht : Bus.Tells refused) (h : r.Intact) (members : List EgressId) :
    Ends (createGroup members) (r, bus)
      (fun id t => r.groups.contains id = false ∧
        (∃ base places, t.1 = { members.foldl holdEgress { r with
            groupIds := r.groupIds.take id
            places := places } with
          groups := r.groups.insert id (.unused ⟨members, base⟩) }) ∧
        t.1.Intact ∧ (refused bus → refused t.2))
      (fun _ t => Failed refused r bus ((members = [] ∨ groupMembersMax < members.length) ∨
        (∃ m ∈ members, r.egresses.contains m = false) ∨ r.groupIds.Full ∨
        ∃ e, r.places.alloc members.length = .error e r.places) t) := by
  by_cases hsize : members.isEmpty ∨ groupMembersMax < members.length
  · refine Operation.ends_error (by simp only [createGroup, hsize, if_true]; rfl) ?_
    exact ⟨h.kept, id, .inr (.inl (hsize.imp_left List.isEmpty_iff.mp))⟩
  · cases hfind : members.find? fun m => !r.egresses.contains m with
    | some m =>
        refine Operation.ends_error (by simp only [createGroup, hsize, hfind, if_false]; rfl) ?_
        have hm := List.find?_some hfind
        exact ⟨h.kept, id, .inr (.inr (.inl
          ⟨m, List.mem_of_find?_eq_some hfind, by simpa using hm⟩))⟩
    | none =>
        have hlive : ∀ m ∈ members, r.egresses.contains m = true := by
          simpa using List.find?_eq_none.mp hfind
        have hpos : 0 < members.length := by
          rw [List.length_pos_iff]
          exact fun he => hsize (.inl (List.isEmpty_iff.mpr he))
        cases ha : r.groupIds.alloc with
        | error e ids =>
            obtain ⟨rfl, -, hfull⟩ := h.groupIds.alloc_error ha
            refine Operation.ends_error
              (by simp only [createGroup, takeGroup, hsize, hfind, ha, if_false]; rfl) ?_
            exact ⟨h.kept, id, .inr (.inr (.inr (.inl hfull)))⟩
        | ok id ids =>
            obtain ⟨rfl, hn, hid⟩ := h.groupIds.alloc_ok ha
            obtain ⟨hrew, htracks⟩ := h.groupIds.without_take hn hid
            cases hp : r.places.alloc members.length with
            | error e places =>
                have he := SpanPool.Tracks.alloc_error hp
                subst he
                refine Operation.ends_error
                  (by simp only [createGroup, takeGroup, hsize, hfind, ha, hp, if_false]; rfl) ?_
                exact ⟨⟨by simp only [rewound, hrew], { h with groupIds := htracks }⟩, fun hr => hr,
                  .inr (.inr (.inr (.inr ⟨e, rfl⟩)))⟩
            | ok base places =>
                obtain ⟨-, hle, hfree, hplaces⟩ := h.places.alloc_ok hp
                have hw := writeGroup_ends ht hn (g := ⟨members, base⟩) hle bus
                cases hb : writeGroup id ⟨members, base⟩ bus with
                | error e bus' =>
                    refine Operation.ends_error
                      (by simp only [createGroup, takeGroup, giveGroup, hsize, hfind, ha, hp, hb,
                            if_false]; rfl) ?_
                    have hback := h.places.release_alloc hp
                    have hf := clearGroup_persists ht id base members.length (hw.of_error hb)
                    refine ⟨⟨by simp only [rewound, hrew, hback], ?_⟩, fun _ => hf, .inl hf⟩
                    simp only [hback]
                    exact { h with groupIds := htracks }
                | ok u bus' =>
                    refine Operation.ends_ok
                      (by simp only [createGroup, takeGroup, hsize, hfind, ha, hp, hb, if_false]
                          rfl) ?_
                    have hid := (Bool.not_eq_true _).mp hid
                    exact ⟨hid, ⟨base, places, rfl⟩,
                      h.addGroup hn hid hlive hpos hle hfree hplaces, hw.of_ok hb⟩

theorem destroyGroup_ends (ht : Bus.Tells refused) (h : r.Intact) (id : GroupId) :
    Ends (destroyGroup id) (r, bus)
      (fun _ t => ∃ c places, r.groups.get? id = some c ∧ c.users = 0 ∧
        t.1 = c.value.members.foldl dropEgress { r with
          groupIds := r.groupIds.putBack id
          places := places
          groups := r.groups.erase id } ∧
        t.1.Intact ∧ (refused bus → refused t.2))
      (fun e t => t = (r, bus) ∧
        (r.groups.get? id = none ∧ e = .missing (.group id) ∨
          ∃ c, r.groups.get? id = some c ∧ 0 < c.users ∧ e = .busy (.group id c.users))) := by
  cases hc : r.groups.get? id with
  | none =>
      refine Operation.ends_error (by simp only [destroyGroup, hc]; rfl) ?_
      exact ⟨rfl, .inl ⟨rfl, rfl⟩⟩
  | some c =>
      by_cases hu : 0 < c.users
      · refine Operation.ends_error (by simp only [destroyGroup, hc, hu, if_true]; rfl) ?_
        exact ⟨rfl, .inr ⟨c, rfl, hu, rfl⟩⟩
      · have hid : r.groups.contains id = true := KeyMap.contains_of_get? hc
        have hfree := (h.groupIds.free hid).1
        obtain ⟨places, hrelease, -, hplaces⟩ := h.places.release (h.members_pos id c hc)
          (h.span_le id c hc) fun n h1 h2 => ⟨id, c, hc, h1, h2⟩
        refine Operation.ends_ok
          (by simp only [destroyGroup, hc, hu, if_false, hrelease, hfree]; rfl) ?_
        have hu : c.users = 0 := by omega
        exact ⟨c, places, rfl, hu, rfl, h.eraseGroup hc hu hplaces, clearGroup_persists ht _ _ _⟩

end ControlPlane.Routing
