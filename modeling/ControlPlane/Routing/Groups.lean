import ControlPlane.Routing.State
import ControlPlane.Table.Access
import ControlPlane.Table.Group

/-! # Creating and destroying multipath groups

A group takes an index and a span of places.  Its members are written to the span one after the
other, and its descriptor last, so that the chip never follows a descriptor into a span that is not
complete.  If the chip refuses any of them, the descriptor and the whole span are cleared, and index
and span go back.

Each member counts as one user of its egress object, also when an egress object is named twice. -/

namespace ControlPlane.Routing

variable {δ : Type} [Bus δ]

/-- Writes members to consecutive places. -/
def writeMembers (place : Nat) : List EgressId → Operation δ Unit
  | [] => fun bus => .ok () bus
  | m :: ms => fun bus =>
    match Table.member.write place (MemberEntry.mk m).encode bus with
    | .error e bus => .error e bus
    | .ok _ bus => writeMembers (place + 1) ms bus

/-- Clears consecutive places, passing over those that the chip refuses. -/
def clearMembers (place : Nat) : Nat → δ → δ
  | 0, bus => bus
  | count + 1, bus =>
    clearMembers (place + 1) count (Operation.after (Table.member.clear place) bus)

/-- Clears a group's descriptor and places. -/
def clearGroup (id : GroupId) (base count : Nat) (bus : δ) : δ :=
  clearMembers base count (Operation.after (Table.group.clear id) bus)

/-- Writes a group's members and then its descriptor. -/
def writeGroup (id : GroupId) (g : Group) : Operation δ Unit := fun bus =>
  match writeMembers g.base g.members bus with
  | .error e bus => .error e bus
  | .ok _ bus => Table.group.write id (GroupEntry.ofMembers g.base g.members).encode bus

/-- Takes an index and a span of places, or neither. -/
def takeGroup (count : Nat) : Operation Routing (GroupId × Nat) := fun r =>
  match r.groupIds.alloc with
  | .error e ids => .error e { r with groupIds := ids }
  | .ok id ids =>
    match r.places.alloc count with
    | .error e places => .error e { r with groupIds := ids.without id, places := places }
    | .ok base places => .ok (id, base) { r with groupIds := ids, places := places }

/-- Gives an index and a span of places back. -/
def giveGroup (r : Routing) (id : GroupId) (base count : Nat) : Routing :=
  { r with
    groupIds := r.groupIds.without id
    places := Operation.after (SpanPool.release base count) r.places }

def createGroup (members : List EgressId) : Operation (Routing × δ) GroupId := fun (r, bus) =>
  if members.isEmpty ∨ groupMembersMax < members.length then
    .error (.invalid (.groupSize members.length)) (r, bus)
  else
    match members.find? fun m => !r.egresses.contains m with
    | some m => .error (.invalid (.egress m)) (r, bus)
    | none =>
      match r.takeGroup members.length with
      | .error e r => .error e (r, bus)
      | .ok (id, base) r =>
        match writeGroup id ⟨members, base⟩ bus with
        | .error e bus =>
          .error e
            (r.giveGroup id base members.length, clearGroup id base members.length bus)
        | .ok _ bus =>
          .ok id
            ({ members.foldl holdEgress r with
                groups := r.groups.insert id (.unused ⟨members, base⟩) }, bus)

def destroyGroup (id : GroupId) : Operation (Routing × δ) Unit := fun (r, bus) =>
  match r.groups.get? id with
  | none => .error (.missing (.group id)) (r, bus)
  | some c =>
    if 0 < c.users then
      .error (.busy (.group id c.users)) (r, bus)
    else
      let g := c.value
      let bus := clearGroup id g.base g.members.length bus
      let r := { r with groups := r.groups.erase id }
      match r.places.release g.base g.members.length with
      | .error e places => .error e ({ r with places := places }, bus)
      | .ok _ places =>
        match r.groupIds.free id with
        | .error e ids => .error e ({ r with places := places, groupIds := ids }, bus)
        | .ok _ ids =>
          .ok () (g.members.foldl dropEgress { r with places := places, groupIds := ids }, bus)

end ControlPlane.Routing
