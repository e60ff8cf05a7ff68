import ControlPlane.Error
import ControlPlane.Memory

/-! # The shared pool of memory

The processor and the chip share a region of bytes.  The processor names its bytes by offset, the
chip by bus address, which is the offset plus the bus address of the first byte.  Words are stored
lowest byte first.

Every access is checked against the size of the region.  What is placed in it reads back as it was
(`readAll_writeAll_placed`), and words as they were through their bytes (`fromBytes_toBytes`). -/

namespace ControlPlane

/-! ### Words as bytes -/

namespace Word

/-- The four bytes of a word, lowest first. -/
def bytes (w : UInt32) : List UInt8 :=
  [UInt8.ofNat w.toNat, UInt8.ofNat (w.toNat / 2 ^ 8), UInt8.ofNat (w.toNat / 2 ^ 16),
    UInt8.ofNat (w.toNat / 2 ^ 24)]

/-- The word with the given bytes, lowest first. -/
def ofBytes (b0 b1 b2 b3 : UInt8) : UInt32 :=
  UInt32.ofNat (b0.toNat + 2 ^ 8 * b1.toNat + 2 ^ 16 * b2.toNat + 2 ^ 24 * b3.toNat)

theorem ofBytes_bytes (w : UInt32) :
    ofBytes (UInt8.ofNat w.toNat) (UInt8.ofNat (w.toNat / 2 ^ 8))
      (UInt8.ofNat (w.toNat / 2 ^ 16)) (UInt8.ofNat (w.toNat / 2 ^ 24)) = w := by
  apply UInt32.toNat.inj
  have := w.toNat_lt
  simp only [ofBytes, UInt8.toNat_ofNat', UInt32.toNat_ofNat']
  omega

/-- The bytes of a list of words, in order. -/
def toBytes : List UInt32 → List UInt8
  | [] => []
  | w :: ws => bytes w ++ toBytes ws

/-- The words that a list of bytes spells; bytes that fill no word are left out. -/
def fromBytes : List UInt8 → List UInt32
  | b0 :: b1 :: b2 :: b3 :: rest => ofBytes b0 b1 b2 b3 :: fromBytes rest
  | _ => []

@[simp] theorem length_toBytes (ws : List UInt32) : (toBytes ws).length = 4 * ws.length := by
  induction ws with
  | nil => rfl
  | cons w ws ih =>
    simp only [toBytes, bytes, List.length_append, List.length_cons, List.length_nil, ih]
    omega

theorem fromBytes_toBytes (ws : List UInt32) : fromBytes (toBytes ws) = ws := by
  induction ws with
  | nil => rfl
  | cons w ws ih =>
    simp only [toBytes, bytes, List.cons_append, List.nil_append, fromBytes, ofBytes_bytes, ih]

end Word

/-! ### The region -/

/-- Whether `len` bytes from `offset` on lie in a region of `size` bytes. -/
def checkAccess (offset len size : Nat) : Except Misuse Unit :=
  if offset + len ≤ size then .ok () else .error (.access offset len size)

/-- A region of `size` bytes, clear at first. -/
structure DmaRegion where
  size : Nat
  bytes : Memory UInt8

namespace DmaRegion

def clear (size : Nat) : DmaRegion := ⟨size, .clear⟩

instance : Inhabited DmaRegion := ⟨clear 0⟩

/-- Consecutive offsets. -/
def offsets (offset len : Nat) : List Nat := List.range' offset len

/-- The writes that put a list of bytes at consecutive offsets. -/
def placed (offset : Nat) : List UInt8 → List (Nat × UInt8)
  | [] => []
  | b :: bs => (offset, b) :: placed (offset + 1) bs

def read (r : DmaRegion) (offset len : Nat) : Except Misuse (List UInt8) :=
  match checkAccess offset len r.size with
  | .ok _ => .ok (r.bytes.readAll (offsets offset len))
  | .error e => .error e

def write (r : DmaRegion) (offset : Nat) (data : List UInt8) : Except Misuse DmaRegion :=
  match checkAccess offset data.length r.size with
  | .ok _ => .ok { r with bytes := r.bytes.writeAll (placed offset data) }
  | .error e => .error e

def readWords (r : DmaRegion) (offset words : Nat) : Except Misuse (List UInt32) :=
  (r.read offset (4 * words)).map Word.fromBytes

def writeWords (r : DmaRegion) (offset : Nat) (data : List UInt32) : Except Misuse DmaRegion :=
  r.write offset (Word.toBytes data)

/-! ### What is read after a write -/

theorem le_of_mem_placed {offset : Nat} {data : List UInt8} {w : Nat × UInt8}
    (h : w ∈ placed offset data) : offset ≤ w.1 ∧ w.1 < offset + data.length := by
  induction data generalizing offset with
  | nil => simp [placed] at h
  | cons b bs ih =>
    rcases List.mem_cons.mp h with rfl | h
    · simp
    · have := ih h
      simp only [List.length_cons]
      omega

theorem readAll_writeAll_placed (m : Memory UInt8) (offset : Nat) (data : List UInt8) :
    (m.writeAll (placed offset data)).readAll (offsets offset data.length) = data := by
  induction data generalizing offset m with
  | nil => rfl
  | cons b bs ih =>
    have ht := ih (m.write offset b) (offset + 1)
    simp only [placed, Memory.writeAll, List.length_cons, offsets, List.range'_succ,
      Memory.readAll, List.map_cons, List.cons.injEq]
    refine ⟨?_, ht⟩
    rw [Memory.read_writeAll_of_notMem, Memory.read_write, if_pos rfl]
    intro w hw
    have := le_of_mem_placed hw
    omega

end DmaRegion

end ControlPlane
