import ControlPlane.Kernel.Netlink.Message

/-! # Datagrams of kernel messages

A datagram holds messages one after the other, each padded to a multiple of four bytes.  A message
has a header of sixteen bytes with its length and type, a header of its type, and attributes.  All
numbers are written lowest byte first.

A message that cannot be read ends its datagram: `Datagram.events` gives the events of the messages
before it.  The walk through a datagram, `Datagram.eventsBy`, asks a decoder for one message after the
other and goes by the lengths that it is told.  The listener reads datagrams up to the first failure that is not passing, and
`eventsOfReads` gives what it has seen by then. -/

namespace ControlPlane.Netlink

/-! ### Numbers -/

/-- The number that bytes spell, lowest first. -/
def number : List UInt8 → Nat
  | [] => 0
  | b :: bs => b.toNat + 256 * number bs

/-- The number in `count` bytes from `offset` on. -/
def numberAt (bytes : List UInt8) (offset count : Nat) : Nat :=
  number ((bytes.drop offset).take count)

/-- The index in four bytes from `offset` on. -/
def indexAt (bytes : List UInt8) (offset : Nat) : IfIndex := UInt32.ofNat (numberAt bytes offset 4)

/-- The least multiple of four from `n` on. -/
def align4 (n : Nat) : Nat := (n + 3) / 4 * 4

theorem le_align4 (n : Nat) : n ≤ align4 n := by
  unfold align4
  omega

/-! ### Attributes -/

/-- An attribute as it is written: its kind, and the bytes of its value. -/
structure RawAttribute where
  kind : Nat
  payload : List UInt8
  deriving DecidableEq

/-- The attributes that fill a list of bytes, or `none` if one of them is cut short. -/
def attributes? (bytes : List UInt8) : Option (List RawAttribute) :=
  if bytes = [] then
    some []
  else
    let length := numberAt bytes 0 2
    if _h : 4 ≤ bytes.length ∧ 4 ≤ length ∧ length ≤ bytes.length then
      let first : RawAttribute := ⟨numberAt bytes 2 2 % 2 ^ 14, (bytes.take length).drop 4⟩
      (attributes? (bytes.drop (align4 length))).map (first :: ·)
    else
      none
termination_by bytes.length
decreasing_by
  have := le_align4 (numberAt bytes 0 2)
  rw [List.length_drop]
  omega

/-- What values of an attribute can be read. -/
inductive Shape where
  /-- Any bytes. -/
  | bytes
  /-- A number of exactly so many bytes. -/
  | number (count : Nat)
  /-- A structure of at least so many bytes. -/
  | atLeast (count : Nat)
  /-- Text in UTF-8. -/
  | text
  /-- An address of the message's family. -/
  | address
  deriving DecidableEq

/-- The text of a value, without a null byte at its end. -/
def text? (payload : List UInt8) : Option String :=
  let bytes := if payload.getLast? = some 0 then payload.dropLast else payload
  String.fromUTF8? ⟨bytes.toArray⟩

/-- The IPv4 address of a value. -/
def ipv4? (payload : List UInt8) : Option Ipv4 :=
  match payload with
  | [a, b, c, d] => some (Ipv4.ofOctets a.toNat b.toNat c.toNat d.toNat)
  | _ => none

/-- The groups of an IPv6 address. -/
def groups : List UInt8 → List Nat
  | high :: low :: rest => (high.toNat * 256 + low.toNat) :: groups rest
  | _ => []

/-- The address of a value, in the message's family; other families have addresses of any kind,
which stand for no IP address. -/
def address? (family : Family) (payload : List UInt8) : Option (Option IpAddress) :=
  match family with
  | .inet => (ipv4? payload).map fun a => some (.v4 a)
  | .inet6 => if payload.length = 16 then some (some (.v6 ⟨groups payload⟩)) else none
  | .other => some none

namespace Shape

/-- Whether a value can be read. -/
def accepts (family : Family) (payload : List UInt8) : Shape → Bool
  | bytes => true
  | number count => payload.length == count
  | atLeast count => count ≤ payload.length
  | text => (text? payload).isSome
  | address => (address? family payload).isSome

/-- The shape of a kind by a table of those that cannot hold just any bytes. -/
def ofKind (table : List (List Nat × Shape)) (kind : Nat) : Shape :=
  match table.find? fun (kinds, _) => kinds.contains kind with
  | some (_, shape) => shape
  | none => bytes

end Shape

def linkShapes : List (List Nat × Shape) := [
  ([3, 6, 20, 38], .text),
  ([4, 5, 10, 13, 19, 27, 28, 29, 30, 31, 32, 35, 37, 40, 41, 45, 46, 47, 48, 49, 50, 51],
    .number 4),
  ([16, 17, 33, 39], .number 1)]

def routeShapes : List (List Nat × Shape) := [
  ([1, 2, 5, 7], .address),
  ([3, 4, 6, 11, 15, 16, 25], .number 4),
  ([20, 26], .number 1),
  ([21], .number 2)]

def neighborShapes : List (List Nat × Shape) := [
  ([1], .address),
  ([4, 7, 8, 9, 10, 11], .number 4),
  ([5, 6], .number 2),
  ([12], .number 1)]

def linkAttribute? (a : RawAttribute) : Option LinkAttribute :=
  if (Shape.ofKind linkShapes a.kind).accepts .other a.payload then
    if a.kind = 3 then (text? a.payload).map .name else some .other
  else
    none

def routeAttribute? (family : Family) (a : RawAttribute) : Option RouteAttribute :=
  if (Shape.ofKind routeShapes a.kind).accepts family a.payload then
    match a.kind, address? family a.payload with
    | 1, some (some addr) => some (.destination addr)
    | 5, some (some addr) => some (.gateway addr)
    | 4, _ => some (.output (indexAt a.payload 0))
    | _, _ => some .other
  else
    none

def neighborAttribute? (family : Family) (a : RawAttribute) : Option NeighborAttribute :=
  if (Shape.ofKind neighborShapes a.kind).accepts family a.payload then
    match a.kind, address? family a.payload with
    | 1, some (some addr) => some (.destination addr)
    | 2, _ => some (.linkAddress a.payload)
    | _, _ => some .other
  else
    none

/-- Whether an attribute of an address can be read. -/
def addressAttributeOk (a : RawAttribute) : Bool :=
  match a.kind with
  | 1 | 2 => a.payload.length == 4 || a.payload.length == 16
  | 3 => (text? a.payload).isSome
  | 4 => a.payload.length == 4
  | 5 | 7 => a.payload.length == 16
  | 8 => a.payload.length == 4
  | _ => true

/-! ### Messages -/

def family (n : Nat) : Family :=
  if n = 2 then .inet else if n = 10 then .inet6 else .other

/-- The attributes after a header of `size` bytes. -/
def body? (payload : List UInt8) (size : Nat) : Option (List RawAttribute) :=
  if size ≤ payload.length then attributes? (payload.drop size) else none

/-- The number of a family at the start of a message. -/
def familyOf (payload : List UInt8) : Family := family (numberAt payload 0 1)

def link? (change : Change) (payload : List UInt8) : Option Message := do
  let attributes ← body? payload 16
  let attributes ← attributes.mapM linkAttribute?
  return .link change (indexAt payload 4) (numberAt payload 8 1 % 2 == 1) attributes

def addressMessage? (change : Change) (payload : List UInt8) : Option Message := do
  let attributes ← body? payload 8
  if attributes.all addressAttributeOk then
    return .address change (familyOf payload) (indexAt payload 4)
  else
    none

/-- The kind of routes to single destinations. -/
def unicastKind : Nat := 1

def route? (change : Change) (payload : List UInt8) : Option Message := do
  let attributes ← body? payload 12
  let attributes ← attributes.mapM (routeAttribute? (familyOf payload))
  return .route change (familyOf payload) (numberAt payload 7 1 == unicastKind)
    (numberAt payload 1 1) attributes

def neighbor? (change : Change) (payload : List UInt8) : Option Message := do
  let attributes ← body? payload 12
  let attributes ← attributes.mapM (neighborAttribute? (familyOf payload))
  return .neighbor change (indexAt payload 4) attributes

/-- A message that announces nothing, if its header of `size` bytes and its attributes are whole. -/
def silent? (size : Nat) (payload : List UInt8) : Option Message :=
  (body? payload size).map fun _ => .other

/-- A request, whose header may be cut to four bytes. -/
def request? (size : Nat) (payload : List UInt8) : Option Message :=
  if payload.length = 4 then some .other else silent? size payload

/-- The message of a type; a type that is not known cannot be read. -/
def message? (type : Nat) (payload : List UInt8) : Option Message :=
  match type with
  | 1 | 4 => some .other
  | 2 | 3 => if 4 ≤ payload.length then some .other else none
  | 16 => link? .added payload
  | 17 => link? .removed payload
  | 18 => request? 16 payload
  | 19 => silent? 16 payload
  | 20 => addressMessage? .added payload
  | 21 => addressMessage? .removed payload
  | 22 => request? 8 payload
  | 24 => route? .added payload
  | 25 => route? .removed payload
  | 26 => request? 12 payload
  | 28 => neighbor? .added payload
  | 29 => neighbor? .removed payload
  | 30 => request? 12 payload
  | 32 | 33 | 34 | 52 => silent? 12 payload
  | 36 | 37 | 38 | 40 | 41 | 42 | 44 | 45 | 46 | 100 | 101 | 102 => silent? 20 payload
  | 48 | 49 | 50 | 64 | 66 | 67 | 88 | 89 | 90 => silent? 4 payload
  | _ => none

/-- Reads the message at the start of some bytes: the length that its header has, and what it says. -/
abbrev Decoder := List UInt8 → Option (Nat × Message)

namespace Datagram

/-- The size of every message's header. -/
def headerBytes : Nat := 16

/-- The message at the start of some bytes, if it is whole and can be read. -/
def first? : Decoder := fun bytes =>
  let length := numberAt bytes 0 4
  if headerBytes ≤ length ∧ length ≤ bytes.length then
    (message? (numberAt bytes 4 2) ((bytes.take length).drop headerBytes)).map (length, ·)
  else
    none

/-- The events of the messages that a decoder finds, up to the first that it cannot read.  One without
a length would be found again and again, and ends the datagram too. -/
def eventsBy (decode : Decoder) (bytes : List UInt8) : List Event :=
  if bytes = [] then
    []
  else
    match decode bytes with
    | none => []
    | some (length, message) =>
      if _h : length = 0 then []
      else message.events ++ eventsBy decode (bytes.drop (align4 length))
termination_by bytes.length
decreasing_by
  have := le_align4 length
  have := List.length_pos_iff.mpr ‹_›
  rw [List.length_drop]
  omega

/-- The events of the messages of a datagram, up to the first that cannot be read. -/
def events : List UInt8 → List Event := eventsBy first?

end Datagram

/-! ### Listening -/

/-- What a read gives: a datagram, or the number of a failure. -/
inductive Read where
  | datagram (bytes : List UInt8)
  | failure (errno : Nat)

/-- A read was interrupted before anything was there. -/
def interrupted : Nat := 4

/-- Messages were lost because they were not read in time. -/
def overrun : Nat := 105

/-- Whether a failure ends the listener. -/
def isFatal (errno : Nat) : Bool := errno != interrupted && errno != overrun

/-- What a list of reads gives up to the first fatal failure, with the events that each datagram has. -/
def listen (parse : List UInt8 → List Event) : List Read → List Event
  | [] => []
  | .datagram bytes :: reads => parse bytes ++ listen parse reads
  | .failure errno :: reads => if isFatal errno then [] else listen parse reads

/-- The events of a list of reads, up to the first fatal failure. -/
def eventsOfReads : List Read → List Event := listen Datagram.events

end ControlPlane.Netlink
