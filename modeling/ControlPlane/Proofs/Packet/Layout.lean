import ControlPlane.Packet.Ring
import ControlPlane.Proofs.Device.Exchanges

/-! # Where frames lie in the pool

Buffers are cut from the pool one after another, above the part that is kept for exchanges, so that
no two of them overlap and the chip reaches each of them.

* **Cutting.**  `BufferPool.alloc_ends`: a buffer starts at or after the end of the one before it and
  lies in the pool (`Buffer.Lies`).
* **The layout.**  `PacketBuffers.Placed` says how the buffers lie, and `PacketBuffers.Armed` what the
  receive ring holds before any frame has come: every descriptor names its own buffer and is not
  marked as done.
* **Opening.**  `PacketBuffers.open?_ends`: buffers that are laid out are placed and armed. -/

namespace ControlPlane

open Operation (Ends)

/-- A descriptor ends before the next begins. -/
theorem Descriptor.end_le_of_lt {i j : Nat} (h : i < j) : bytes * i + bytes ≤ bytes * j :=
  Nat.mul_le_mul_left bytes h

/-! ### Cutting -/

/-- A buffer of `len` bytes lies in the pool, where the chip reaches it. -/
structure Buffer.Lies (b : Buffer) (info : DmaInfo) (len : Nat) : Prop where
  inside : b.offset + len ≤ info.size
  reach : info.base + b.offset + len ≤ 2 ^ 32
  bus : b.bus = info.base + b.offset

/-- The chip finds a buffer by its bus address. -/
theorem Chip.poolOffset_of_lies {c : Chip} {buffer : Buffer} {len : Nat}
    (h : buffer.Lies ⟨c.poolBase, c.pool.size⟩ len) (hl : 0 < len) :
    c.poolOffset (UInt32.ofNat buffer.bus).toNat = .ok buffer.offset := by
  obtain ⟨hinside, hreach, hbus⟩ := h
  dsimp only at hinside hreach hbus
  rw [hbus]
  exact Chip.poolOffset_of_lt (by omega) (by omega)

namespace BufferPool

/-- A buffer of `size` bytes has been cut from the pool `p`, and `p'` is left. -/
structure Cut (p : BufferPool) (size : Nat) (b : Buffer) (p' : BufferPool) : Prop where
  next_le : p.next ≤ b.offset
  lies : b.Lies p.info size
  rest : p' = { p with next := b.offset + size }

theorem alloc_ends (p : BufferPool) {size align : Nat} (hs : 0 < size) :
    Ends (alloc size align) p (p.Cut size) fun _ p' => p' = p := by
  unfold Ends alloc
  dsimp only
  by_cases halign : align = 0 ∨ wordLimit ≤ roundUp p.next align + size
  · rw [if_pos halign]
  by_cases hfull : p.info.size < roundUp p.next align + size
  · rw [if_neg halign, if_pos hfull]
  by_cases hover : wordLimit ≤ p.info.base + (roundUp p.next align + size)
  · rw [if_neg halign, if_neg hfull, if_pos hover]
  by_cases hreach : 2 ^ 32 < p.info.base + (roundUp p.next align + size)
  · rw [if_neg halign, if_neg hfull, if_neg hover, if_pos hreach]
  · rw [if_neg halign, if_neg hfull, if_neg hover, if_neg hreach]
    have hpos : 0 < align := by omega
    refine ⟨le_roundUp p.next hpos, ⟨?_, ?_, ?_⟩, rfl⟩
    · exact Nat.le_of_not_lt hfull
    · dsimp only
      omega
    · exact Nat.mod_eq_of_lt (by omega)

end BufferPool

-- `alloc_ends` is all that is used of it; unfolded, it compares with large literals.
attribute [local irreducible] BufferPool.alloc

namespace PacketBuffers

/-! ### The layout -/

/-- The buffers lie in the pool one after another, above the part that is kept for exchanges. -/
structure Placed (b : PacketBuffers) (info : DmaInfo) : Prop where
  descriptor_le : Channel.reservedBytes ≤ b.descriptor.offset
  frame_le : b.descriptor.offset + Descriptor.bytes ≤ b.frame.offset
  ring_le : b.frame.offset + frameBytesMax ≤ b.ring.offset
  slots_le : ∀ slot ∈ b.slots, b.ring.offset + ringBytes ≤ slot.offset
  apart : b.slots.Pairwise fun slot other => slot.offset + slotBytes ≤ other.offset
  length : b.slots.length = ringSize
  descriptor : b.descriptor.Lies info Descriptor.bytes
  frame : b.frame.Lies info frameBytesMax
  ring : b.ring.Lies info ringBytes
  slots : ∀ slot ∈ b.slots, slot.Lies info slotBytes

/-- Buffers lie where the chip reaches them, and so does the start of the pool. -/
theorem Placed.base_lt {b : PacketBuffers} {info : DmaInfo} (h : b.Placed info) :
    info.base < 2 ^ 32 := by
  have hreach := h.descriptor.reach
  have hbytes : Descriptor.bytes = 64 := rfl
  omega

/-- Two slots do not overlap. -/
theorem Placed.slots_apart {b : PacketBuffers} {info : DmaInfo} (h : b.Placed info) {i j : Nat}
    {slot other : Buffer} (hi : b.slots[i]? = some slot) (hj : b.slots[j]? = some other)
    (hne : i ≠ j) :
    slot.offset + slotBytes ≤ other.offset ∨ other.offset + slotBytes ≤ slot.offset := by
  obtain ⟨hilt, rfl⟩ := List.getElem?_eq_some_iff.mp hi
  obtain ⟨hjlt, rfl⟩ := List.getElem?_eq_some_iff.mp hj
  rcases Nat.lt_or_gt_of_ne hne with hlt | hlt
  · exact .inl (List.pairwise_iff_getElem.mp h.apart i j hilt hjlt hlt)
  · exact .inr (List.pairwise_iff_getElem.mp h.apart j i hjlt hilt hlt)

/-- Every descriptor of the ring ends before the first slot. -/
theorem Placed.descriptor_le_slot {b : PacketBuffers} {info : DmaInfo} (h : b.Placed info) {i : Nat}
    {slot : Buffer} (hi : i < b.slots.length) (hs : slot ∈ b.slots) :
    b.ring.offset + Descriptor.bytes * i + Descriptor.bytes ≤ slot.offset := by
  have hring : ringBytes = 4160 := rfl
  have hlength : b.slots.length = 64 := h.length
  have hbytes : Descriptor.bytes = 64 := rfl
  have hslot := h.slots_le slot hs
  rw [hbytes]
  omega

/-- The descriptors from an offset on name the buffers `slots`. -/
def Named (pool : DmaRegion) (offset : Nat) (slots : List Buffer) : Prop :=
  ∀ i slot, slots[i]? = some slot → pool.wordAt (offset + Descriptor.bytes * i) = UInt32.ofNat slot.bus

/-- The status word of the `i`-th descriptor from an offset on. -/
def statusAt (pool : DmaRegion) (offset i : Nat) : UInt32 :=
  pool.wordAt (offset + Descriptor.bytes * i + 4 * Descriptor.statusWord)

/-- The ring is ready to receive. -/
structure Armed (b : PacketBuffers) (pool : DmaRegion) : Prop where
  named : Named pool b.ring.offset b.slots
  clear : ∀ i < b.slots.length, statusAt pool b.ring.offset i = 0

/-! ### Opening -/

/-- What a receive descriptor says of its buffer. -/
def slotWords (slot : Buffer) : List UInt32 :=
  [UInt32.ofNat slot.bus, Descriptor.control ||| UInt32.ofNat slotBytes]

/-- What is left of a pool and its buffers after slots have been cut and entered from an offset on. -/
structure SlotsCut (p : BufferPool) (pool : DmaRegion) (offset : Nat) (slots : List Buffer)
    (pool' : DmaRegion) : Prop where
  next_le : ∀ slot ∈ slots, p.next ≤ slot.offset
  lies : ∀ slot ∈ slots, slot.Lies p.info slotBytes
  apart : slots.Pairwise fun slot other => slot.offset + slotBytes ≤ other.offset
  named : Named pool' offset slots
  status : ∀ i < slots.length, statusAt pool' offset i = statusAt pool offset i
  before : ∀ a < offset, pool'.bytes.read a = pool.bytes.read a
  size : pool'.size = pool.size

theorem onPool_ends {α : Type} {op : Operation BufferPool α} {p : BufferPool} {d : Device}
    {Q : α → BufferPool → Prop} {E : Error → BufferPool → Prop} (h : Ends op p Q E) :
    Ends (onPool op) (p, d) (fun a s => s.2 = d ∧ Q a s.1) fun _ _ => True :=
  Ends.focus (h.mono (fun _ _ hq => ⟨rfl, hq⟩) fun _ _ _ => trivial)

theorem onDevice_ok {α : Type} {op : DeviceOperation Device α} {p : BufferPool} {d d' : Device}
    {a : α} (h : op d = .ok a d') : onDevice op (p, d) = .ok a (p, d') := by
  simp only [onDevice, Operation.focus, DeviceOperation.lift, Operation.mapError, h]

/-- The first slot, and the slots after it. -/
theorem SlotsCut.cons {p p' : BufferPool} {pool pool' : DmaRegion} {offset : Nat} {slot : Buffer}
    {slots : List Buffer} (hcut : p.Cut slotBytes slot p')
    (hrest : SlotsCut p' (pool.putWords offset (slotWords slot)) (offset + Descriptor.bytes) slots
      pool') : SlotsCut p pool offset (slot :: slots) pool' := by
  obtain ⟨hle, hlies, rfl⟩ := hcut
  have hbytes : Descriptor.bytes = 64 := rfl
  have hstatus : 4 * Descriptor.statusWord = 60 := rfl
  have hlength : (slotWords slot).length = 2 := rfl
  have hnext : ∀ other ∈ slots, slot.offset + slotBytes ≤ other.offset := hrest.next_le
  have hword (i : Nat) : offset + Descriptor.bytes * (i + 1) =
      offset + Descriptor.bytes + Descriptor.bytes * i := by
    rw [Nat.mul_succ]
    omega
  refine ⟨?_, ?_, List.pairwise_cons.mpr ⟨hnext, hrest.apart⟩, ?_, ?_, ?_, hrest.size⟩
  · intro other hother
    rcases List.mem_cons.mp hother with rfl | hother
    · exact hle
    · have := hnext other hother
      omega
  · intro other hother
    rcases List.mem_cons.mp hother with rfl | hother
    · exact hlies
    · exact hrest.lies other hother
  · rintro (_ | i) other hother
    · cases hother
      exact (DmaRegion.wordAt_congr fun a _ _ => hrest.before a (by omega)).trans
        (pool.wordAt_putWords_cons offset _ _)
    · rw [hword]
      exact hrest.named i other hother
  · rintro (_ | i) hi
    · have hapart : (pool.putWords offset (slotWords slot)).wordAt
          (offset + 4 * Descriptor.statusWord) =
          pool.wordAt (offset + 4 * Descriptor.statusWord) :=
        pool.wordAt_putWords_apart (.inr (by omega))
      rw [statusAt, statusAt, Nat.mul_zero, Nat.add_zero, ← hapart]
      exact DmaRegion.wordAt_congr fun a _ _ => hrest.before a (by omega)
    · have hi' := hrest.status i (Nat.lt_of_succ_lt_succ hi)
      rw [statusAt, statusAt] at hi' ⊢
      rw [hword, hi', pool.wordAt_putWords_apart (.inr (by omega))]
  · intro a ha
    rw [hrest.before a (by omega)]
    exact pool.read_putWords_apart (.inl ha)

/-- Slots that are laid out are cut one after another and entered into consecutive descriptors. -/
theorem layoutSlots_ends (count : Nat) (p : BufferPool) (c : Chip) (offset : Nat)
    (hi : p.info = ⟨c.poolBase, c.pool.size⟩) (ho : offset + Descriptor.bytes * count ≤ p.next) :
    Ends (layoutSlots offset count) (p, .emulated c)
      (fun slots s => slots.length = count ∧ ∃ pool', s.2 = .emulated (c.setPool pool') ∧
        SlotsCut p c.pool offset slots pool')
      (fun _ _ => True) := by
  induction count generalizing p c offset with
  | zero =>
      exact ⟨rfl, c.pool, rfl, nofun, nofun, .nil, nofun, nofun, fun _ _ => rfl, rfl⟩
  | succ count ih =>
      have hslot : 0 < slotBytes := by decide
      have hwords : Descriptor.bytes = 64 := rfl
      rw [Nat.mul_succ] at ho
      unfold layoutSlots
      refine Ends.bind ((onPool_ends (p.alloc_ends hslot)).mono ?_ fun _ _ _ => trivial)
      rintro slot ⟨p', _⟩ ⟨rfl, hcut⟩
      change p.Cut slotBytes slot p' at hcut
      have hnext := hcut.next_le
      have hinside : slot.offset + slotBytes ≤ c.pool.size := by
        have hinside := hcut.lies.inside
        rwa [hi] at hinside
      have henter : offset + 4 * (slotWords slot).length ≤ c.pool.size := by
        change offset + 4 * 2 ≤ c.pool.size
        omega
      have hrest := ih p' (c.setPool (c.pool.putWords offset (slotWords slot)))
        (offset + Descriptor.bytes) (by rw [hcut.rest]; exact hi)
        (by rw [hcut.rest]; dsimp only; omega)
      refine Ends.of_eq ?_ (Operation.bind_ok (onDevice_ok (Device.writePoolWords_ok henter)))
      refine Ends.bind (hrest.mono ?_ fun _ _ _ => trivial)
      rintro slots ⟨p'', _⟩ ⟨hlength, pool', rfl, hslots⟩
      exact ⟨congrArg Nat.succ hlength, pool', rfl, .cons hcut hslots⟩

theorem ringBytes_eq : ringBytes = Descriptor.bytes * ringSize + Descriptor.bytes := rfl

/-- A clear ring of `len` bytes whose slots are laid out above it. -/
theorem ring_ends (p : BufferPool) (c : Chip) (ring : Buffer) (build : List Buffer → PacketBuffers)
    {len : Nat} (hi : p.info = ⟨c.poolBase, c.pool.size⟩) (hn : p.next = ring.offset + len)
    (hring : ring.Lies p.info len) (hlen : len = Descriptor.bytes * ringSize + Descriptor.bytes) :
    Ends (do
        onDevice (Device.writePool ring.offset (List.replicate len 0))
        let slots ← layoutSlots ring.offset ringSize
        return build slots) (p, .emulated c)
      (fun b s => ∃ slots pool pool', b = build slots ∧ slots.length = ringSize ∧
        s.2 = .emulated (c.setPool pool') ∧ pool'.size = c.pool.size ∧
        SlotsCut p pool ring.offset slots pool' ∧
        ∀ i < slots.length, statusAt pool' ring.offset i = 0)
      (fun _ _ => True) := by
  have hinside := hring.inside
  rw [hi] at hinside
  have hclear : ring.offset + (List.replicate len (0 : UInt8)).length ≤ c.pool.size := by
    rwa [List.length_replicate]
  have hzero : (c.pool.put ring.offset (List.replicate len 0)).get ring.offset len =
      List.replicate len 0 := by
    have hself := c.pool.get_put_self ring.offset (List.replicate len 0)
    rwa [List.length_replicate] at hself
  refine Ends.of_eq ?_ (Operation.bind_ok (onDevice_ok (Device.writePool_ok hclear)))
  have hslots := layoutSlots_ends ringSize p
    (c.setPool (c.pool.put ring.offset (List.replicate len 0))) ring.offset hi (by omega)
  refine Ends.bind (hslots.mono ?_ fun _ _ _ => trivial)
  rintro slots ⟨p', _⟩ ⟨hlength, pool', rfl, hslots⟩
  refine ⟨slots, _, pool', rfl, hlength, rfl, hslots.size, hslots, fun i hlt => ?_⟩
  have hbytes : Descriptor.bytes = 64 := rfl
  have hstatus : 4 * Descriptor.statusWord = 60 := rfl
  rw [hslots.status i hlt]
  refine DmaRegion.wordAt_of_clear hzero (by omega) ?_
  rw [hlength] at hlt
  rw [hlen, hbytes]
  omega

-- Unfolded, a clear ring is a list of thousands of zeros.
attribute [local irreducible] ringBytes

/-- Buffers that are laid out above the part that is kept for exchanges. -/
theorem layout_ends (p : BufferPool) (c : Chip) (hi : p.info = ⟨c.poolBase, c.pool.size⟩)
    (hn : Channel.reservedBytes ≤ p.next) :
    Ends layout (p, .emulated c)
      (fun b s => b.Placed p.info ∧ ∃ pool', s.2 = .emulated (c.setPool pool') ∧
        pool'.size = c.pool.size ∧ b.Armed pool')
      (fun _ _ => True) := by
  have hpos : 0 < ringBytes := by
    rw [ringBytes_eq]
    decide
  unfold layout
  refine Ends.bind ((onPool_ends (p.alloc_ends (by decide))).mono ?_ fun _ _ _ => trivial)
  rintro descriptor ⟨p₁, _⟩ ⟨rfl, hdescriptor⟩
  refine Ends.bind ((onPool_ends (p₁.alloc_ends (by decide))).mono ?_ fun _ _ _ => trivial)
  rintro frame ⟨p₂, _⟩ ⟨rfl, hframe⟩
  refine Ends.bind ((onPool_ends (p₂.alloc_ends hpos)).mono ?_ fun _ _ _ => trivial)
  intro ring s hring
  obtain ⟨p₃, _⟩ := s
  obtain ⟨rfl, hring⟩ := hring
  change p.Cut Descriptor.bytes descriptor p₁ at hdescriptor
  change p₁.Cut frameBytesMax frame p₂ at hframe
  change p₂.Cut ringBytes ring p₃ at hring
  obtain ⟨hdescriptor_le, hdescriptor, rfl⟩ := hdescriptor
  obtain ⟨hframe_le, hframe, rfl⟩ := hframe
  obtain ⟨hring_le, hring, rfl⟩ := hring
  refine (ring_ends ⟨p.info, ring.offset + ringBytes⟩ c ring (⟨descriptor, frame, ring, ·⟩) hi rfl
    hring ringBytes_eq).mono ?_ fun _ _ _ => trivial
  rintro b s ⟨slots, pool, pool', rfl, hlength, hs, hsize, hslots, hstatus⟩
  exact ⟨⟨Nat.le_trans hn hdescriptor_le, hframe_le, hring_le, hslots.next_le, hslots.apart, hlength,
    hdescriptor, hframe, hring, hslots.lies⟩, pool', hs, hsize, hslots.named, hstatus⟩

/-- Buffers that are laid out in a chip's pool. -/
theorem open?_ends (c : Chip) :
    Ends open? (.emulated c)
      (fun b d => b.Placed ⟨c.poolBase, c.pool.size⟩ ∧
        ∃ pool', d = .emulated (c.setPool pool') ∧ pool'.size = c.pool.size ∧ b.Armed pool')
      (fun _ _ => True) := by
  have hlayout := layout_ends ⟨⟨c.poolBase, c.pool.size⟩, Channel.reservedBytes⟩ c rfl (Nat.le_refl _)
  have hinfo : (do
      let info ← Device.dmaInfo
      let _ ← Device.mapPool
      return info : DeviceOperation Device DmaInfo).lift (.emulated c) =
        .ok ⟨c.poolBase, c.pool.size⟩ (.emulated c) := rfl
  unfold Ends at hlayout
  unfold Ends open?
  rw [hinfo]
  dsimp only
  cases hop : layout (⟨⟨c.poolBase, c.pool.size⟩, Channel.reservedBytes⟩, .emulated c) with
  | ok b s =>
      rw [hop] at hlayout
      exact hlayout
  | error e s => trivial

end PacketBuffers

end ControlPlane
