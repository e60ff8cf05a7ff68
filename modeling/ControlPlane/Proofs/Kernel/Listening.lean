import ControlPlane.Kernel.Netlink.Datagram

/-! # Nothing that can be read is lost

The walk through a datagram goes by lengths that it finds in the bytes, rounded up to a multiple of four, and
may step past the end.  Of the decoder that finds them only this is relied on (`Framed`): a message that is
read has a length between that of its header and that of the bytes, and what lies behind is not looked at.

* `eventsBy_packets`: messages that are each padded to a multiple of four are all found, whatever follows them;
  the last one needs no padding if nothing follows it (`eventsBy_last`).
* `exists_packets`: every datagram is such messages up to where nothing can be read.
* `listen_eq`: the listener hands on what all datagrams give that come before the first fatal failure.

`first?`, the decoder that is used, is `Framed`. -/

namespace ControlPlane.Netlink

/-! ### Decoders -/

namespace Datagram

/-- What is relied on of a decoder. -/
structure Framed (decode : Decoder) : Prop where
  bounds : ∀ {bytes length message}, decode bytes = some (length, message) →
    headerBytes ≤ length ∧ length ≤ bytes.length
  /-- What lies behind the message is not looked at. -/
  congr : ∀ {bytes bytes' length message}, decode bytes = some (length, message) →
    bytes'.take length = bytes.take length → decode bytes' = some (length, message)

theorem numberAt_congr {bytes bytes' : List UInt8} {length offset count : Nat}
    (h : bytes'.take length = bytes.take length) (hle : offset + count ≤ length) :
    numberAt bytes' offset count = numberAt bytes offset count := by
  have hwithin (bytes : List UInt8) :
      (bytes.drop offset).take count = ((bytes.take length).drop offset).take count := by
    rw [List.drop_take, List.take_take, Nat.min_eq_left (by omega)]
  rw [numberAt, numberAt, hwithin bytes', hwithin bytes, h]

theorem first?_framed : Framed first? where
  bounds {bytes length message} h := by
    unfold first? at h
    dsimp only at h
    split at h
    · obtain ⟨_, -, he⟩ := Option.map_eq_some_iff.mp h
      cases he
      assumption
    · cases h
  congr {bytes bytes' length message} h hsame := by
    unfold first? at h ⊢
    dsimp only at h ⊢
    split at h
    · rename_i hbounds
      obtain ⟨found, hfound, he⟩ := Option.map_eq_some_iff.mp h
      cases he
      generalize hlength : numberAt bytes 0 4 = length at *
      have hle : length ≤ bytes'.length := by
        have hlengths := congrArg List.length hsame
        simp only [List.length_take] at hlengths
        omega
      have hheader : 16 ≤ length := hbounds.1
      rw [numberAt_congr hsame (by omega), numberAt_congr hsame (by omega), hlength, hsame,
        if_pos ⟨hheader, hle⟩, hfound]
      rfl
    · cases h

/-! ### Walking through a datagram -/

variable {decode : Decoder}

theorem eventsBy_nil : eventsBy decode [] = [] := by
  rw [eventsBy, if_pos rfl]

/-- What cannot be read ends the datagram. -/
theorem eventsBy_none {bytes : List UInt8} (h : decode bytes = none) : eventsBy decode bytes = [] := by
  rw [eventsBy, h]
  split <;> rfl

/-- After a message the walk goes on at the next multiple of four. -/
theorem Framed.eventsBy_some (h : Framed decode) {bytes : List UInt8} {length : Nat} {message : Message}
    (hd : decode bytes = some (length, message)) :
    eventsBy decode bytes = message.events ++ eventsBy decode (bytes.drop (align4 length)) := by
  obtain ⟨hpos, hle⟩ := h.bounds hd
  have hlength : length ≠ 0 := by
    unfold headerBytes at hpos
    omega
  have hbytes : bytes ≠ [] := by
    rintro rfl
    exact hlength (Nat.le_zero.mp hle)
  rw [eventsBy, if_neg hbytes, hd]
  exact dif_neg hlength

/-- A message as it stands in a datagram: bytes that are read as a whole, and padding. -/
structure Packet (decode : Decoder) where
  body : List UInt8
  padding : List UInt8
  message : Message
  decodes : decode body = some (body.length, message)
  padded : body.length + padding.length = align4 body.length

namespace Packet

def bytes (p : Packet decode) : List UInt8 := p.body ++ p.padding

/-- The message is found whatever follows it. -/
theorem decode_append (h : Framed decode) (p : Packet decode) (rest : List UInt8) :
    decode (p.body ++ rest) = some (p.body.length, p.message) :=
  h.congr p.decodes (by simp)

theorem eventsBy_append (h : Framed decode) (p : Packet decode) (rest : List UInt8) :
    eventsBy decode (p.bytes ++ rest) = p.message.events ++ eventsBy decode rest := by
  rw [bytes, List.append_assoc, h.eventsBy_some (p.decode_append h _), ← p.padded, ← List.append_assoc,
    ← List.length_append, List.drop_left]

/-- Where nothing else follows, the padding may be cut. -/
theorem eventsBy_cut (h : Framed decode) (p : Packet decode) {rest : List UInt8}
    (hrest : rest.length ≤ p.padding.length) : eventsBy decode (p.body ++ rest) = p.message.events := by
  have hend : (p.body ++ rest).length ≤ align4 p.body.length := by
    rw [List.length_append, ← p.padded]
    omega
  rw [h.eventsBy_some (p.decode_append h rest), List.drop_of_length_le hend, eventsBy_nil, List.append_nil]

end Packet

theorem eventsBy_packets (h : Framed decode) (packets : List (Packet decode)) (tail : List UInt8) :
    eventsBy decode (packets.flatMap Packet.bytes ++ tail) =
      packets.flatMap (·.message.events) ++ eventsBy decode tail := by
  induction packets with
  | nil => rfl
  | cons p packets ih =>
      rw [List.flatMap_cons, List.flatMap_cons, List.append_assoc, p.eventsBy_append h, ih,
        List.append_assoc]

/-- The padding of the last message may be cut. -/
theorem eventsBy_last (h : Framed decode) (packets : List (Packet decode)) (last : Packet decode)
    {rest : List UInt8} (hrest : rest.length ≤ last.padding.length) :
    eventsBy decode (packets.flatMap Packet.bytes ++ (last.body ++ rest)) =
      (packets ++ [last]).flatMap (·.message.events) := by
  rw [eventsBy_packets h, last.eventsBy_cut h hrest, List.flatMap_append, List.flatMap_singleton]

/-! ### Any datagram -/

theorem Framed.decode_take (h : Framed decode) {bytes : List UInt8} {length : Nat} {message : Message}
    (hd : decode bytes = some (length, message)) :
    decode (bytes.take length) = some ((bytes.take length).length, message) := by
  have hlength : (bytes.take length).length = length := List.length_take_of_le (h.bounds hd).2
  rw [hlength]
  exact h.congr hd (by rw [List.take_take, Nat.min_self])

/-- A message at the start of some bytes, with its padding there or made up. -/
def Framed.packet (h : Framed decode) {bytes : List UInt8} {length : Nat} {message : Message}
    (hd : decode bytes = some (length, message)) (padding : List UInt8)
    (hp : length + padding.length = align4 length) : Packet decode where
  body := bytes.take length
  padding := padding
  message := message
  decodes := h.decode_take hd
  padded := by rwa [List.length_take_of_le (h.bounds hd).2]

/-- Every datagram is whole messages up to where nothing can be read, or to one whose padding is cut. -/
theorem exists_packets (h : Framed decode) (bytes : List UInt8) :
    ∃ (packets : List (Packet decode)) (tail : List UInt8),
      bytes = packets.flatMap Packet.bytes ++ tail ∧ (decode tail = none ∨
        ∃ (last : Packet decode) (rest : List UInt8),
          tail = last.body ++ rest ∧ rest.length < last.padding.length) := by
  induction hn : bytes.length using Nat.strongRecOn generalizing bytes with
  | ind n ih =>
  subst hn
  cases hd : decode bytes with
  | none => exact ⟨[], bytes, rfl, .inl hd⟩
  | some found =>
  obtain ⟨length, message⟩ := found
  obtain ⟨hheader, hle⟩ := h.bounds hd
  have halign := le_align4 length
  unfold headerBytes at hheader
  by_cases hwhole : align4 length ≤ bytes.length
  · let p := h.packet hd ((bytes.drop length).take (align4 length - length)) (by
      rw [List.length_take_of_le (by rw [List.length_drop]; omega)]
      omega)
    obtain ⟨packets, tail, hbytes, htail⟩ :=
      ih (bytes.drop (align4 length)).length (by rw [List.length_drop]; omega) _ rfl
    refine ⟨p :: packets, tail, ?_, htail⟩
    have hp : p.bytes = bytes.take (align4 length) := by
      change bytes.take length ++ (bytes.drop length).take (align4 length - length) = _
      rw [← List.take_add, Nat.add_sub_cancel' halign]
    rw [List.flatMap_cons, hp, List.append_assoc, ← hbytes, List.take_append_drop]
  · let last := h.packet hd (List.replicate (align4 length - length) 0) (by
      rw [List.length_replicate]
      omega)
    refine ⟨[], bytes, rfl, .inr ⟨last, bytes.drop length, ?_, ?_⟩⟩
    · exact (List.take_append_drop length bytes).symm
    · change (bytes.drop length).length < (List.replicate (align4 length - length) 0).length
      rw [List.length_drop, List.length_replicate]
      omega

end Datagram

/-! ### Listening -/

open Datagram

/-- A failure that ends the listener: any but those that pass. -/
def Read.Fatal : Read → Prop
  | .datagram _ => False
  | .failure errno => errno ≠ interrupted ∧ errno ≠ overrun

instance (read : Read) : Decidable read.Fatal := by
  unfold Read.Fatal
  split <;> infer_instance

def Read.datagram? : Read → Option (List UInt8)
  | .datagram bytes => some bytes
  | .failure _ => none

/-- The datagrams that are read before the first fatal failure. -/
def heard (reads : List Read) : List (List UInt8) :=
  (reads.takeWhile fun read => ¬ read.Fatal).filterMap Read.datagram?

theorem isFatal_iff (errno : Nat) : isFatal errno = true ↔ (Read.failure errno).Fatal := by
  simp [isFatal, Read.Fatal]

theorem listen_eq (parse : List UInt8 → List Event) (reads : List Read) :
    listen parse reads = (heard reads).flatMap parse := by
  induction reads with
  | nil => rfl
  | cons read reads ih =>
      unfold heard at ih ⊢
      cases read with
      | datagram bytes => simp [listen, ih, Read.Fatal, Read.datagram?]
      | failure errno =>
          by_cases hfatal : (Read.failure errno).Fatal
          · simp [listen, (isFatal_iff errno).mpr hfatal, hfatal]
          · have hnot : isFatal errno = false :=
              (Bool.not_eq_true _).mp fun h => hfatal ((isFatal_iff errno).mp h)
            have hnone : (Read.failure errno).datagram? = none := rfl
            simp [listen, hnot, hfatal, ih, hnone]

/-- The listener hands on the events of all datagrams before the first fatal failure, in order, and of each
datagram those of all its messages up to one that cannot be read, whatever decodes them.  Every datagram is
such messages, up to where nothing can be read or to one whose padding is cut. -/
theorem listener_loses_nothing {decode : Decoder} (h : Framed decode) :
    (∀ reads, listen (eventsBy decode) reads = (heard reads).flatMap (eventsBy decode)) ∧
    (∀ (packets : List (Packet decode)) (tail : List UInt8),
      eventsBy decode (packets.flatMap Packet.bytes ++ tail) =
        packets.flatMap (·.message.events) ++ eventsBy decode tail) ∧
    (∀ (packets : List (Packet decode)) (last : Packet decode) (rest : List UInt8),
      rest.length ≤ last.padding.length →
      eventsBy decode (packets.flatMap Packet.bytes ++ (last.body ++ rest)) =
        (packets ++ [last]).flatMap (·.message.events)) ∧
    (∀ tail, decode tail = none → eventsBy decode tail = []) ∧
    ∀ bytes, ∃ (packets : List (Packet decode)) (tail : List UInt8),
      bytes = packets.flatMap Packet.bytes ++ tail ∧ (decode tail = none ∨
        ∃ (last : Packet decode) (rest : List UInt8),
          tail = last.body ++ rest ∧ rest.length < last.padding.length) :=
  ⟨listen_eq _, eventsBy_packets h, fun packets last _ hrest => eventsBy_last h packets last hrest,
    fun _ => eventsBy_none, exists_packets h⟩

/-- A link named "swp12" is up: a message of 41 bytes. -/
def linkUp : List UInt8 :=
  [41, 0, 0, 0, 16, 0, 0, 0, 0, 0, 0, 0, 0, 0, 0, 0,
    0, 0, 0, 0, 5, 0, 0, 0, 1, 0, 0, 0, 0, 0, 0, 0,
    9, 0, 3, 0, 115, 119, 112, 49, 50]

/-- It is given an address. -/
def addressGiven : List UInt8 :=
  [24, 0, 0, 0, 20, 0, 0, 0, 0, 0, 0, 0, 0, 0, 0, 0, 2, 24, 0, 0, 5, 0, 0, 0]

/-- Reads with two failures that pass, and a datagram after one that does not. -/
def sampleReads : List Read :=
  [.failure interrupted, .datagram (linkUp ++ [0, 0, 0] ++ addressGiven), .failure overrun,
    .datagram (addressGiven ++ linkUp), .datagram (linkUp ++ [0, 0, 0, 1]), .failure 5, .datagram linkUp]

theorem listener_loses_nothing_swp12 :
    eventsOfReads sampleReads = (heard sampleReads).flatMap Datagram.events ∧
    eventsOfReads sampleReads =
      [.link 5 "swp12" true, .address 5 .added, .address 5 .added, .link 5 "swp12" true,
        .link 5 "swp12" true] :=
  ⟨(listener_loses_nothing first?_framed).1 sampleReads, by decide +kernel⟩

end ControlPlane.Netlink
