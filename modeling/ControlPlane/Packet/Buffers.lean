import ControlPlane.Device.Channel

/-! # Buffers in the shared pool

Descriptors, frames and the receive ring lie in the shared pool, above the part that is kept for
command exchanges.  A `BufferPool` cuts buffers from the pool from low offsets to high ones and
never takes one back.

A buffer starts at a multiple of its alignment, ends inside the pool, and lies below bus address
`2 ^ 32`, because descriptors carry 32-bit addresses.  A request that fails leaves the pool as it
was. -/

namespace ControlPlane

/-- A part of the pool: its offset, and the bus address that the chip reaches it by. -/
structure Buffer where
  offset : Nat
  bus : Nat
  deriving DecidableEq

structure BufferPool where
  info : DmaInfo
  /-- Offset of the first byte that belongs to no buffer. -/
  next : Nat

namespace BufferPool

/-- The least multiple of `align` from `n` on. -/
def roundUp (n align : Nat) : Nat := (n + (align - 1)) / align * align

/-- Sizes and addresses have 64 bits. -/
def wordLimit : Nat := 2 ^ 64

/-- Cuts a buffer of `size` bytes from the pool. -/
def alloc (size align : Nat) : Operation BufferPool Buffer := fun p =>
  let offset := roundUp p.next align
  let stop := offset + size
  if align = 0 ∨ wordLimit ≤ stop then
    .error .overflow p
  else if p.info.size < stop then
    .error (.full (.dmaPool size (p.info.size - offset))) p
  else if wordLimit ≤ p.info.base + stop then
    .error .overflow p
  else if 2 ^ 32 < p.info.base + stop then
    .error (.invalid (.unreachable (p.info.base + offset))) p
  else
    .ok ⟨offset, (p.info.base + offset) % 2 ^ 32⟩ { p with next := stop }

theorem le_roundUp (n : Nat) {align : Nat} (h : 0 < align) : n ≤ roundUp n align := by
  have h1 := Nat.div_add_mod (n + (align - 1)) align
  have h2 := Nat.mod_lt (n + (align - 1)) h
  rw [roundUp, Nat.mul_comm]
  omega

end BufferPool

end ControlPlane
