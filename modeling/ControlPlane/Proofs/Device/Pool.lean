import ControlPlane.Device.Dma

/-! # Bytes and words of the shared pool

An access that stays inside a region never fails.  `get` and `put` are what such an access comes to,
without the check: a list of bytes, and the region with a list of bytes in its place.

* **In bounds.**  `read_ok`, `write_ok` and their versions for words say that an access is `get` or
  `put`.
* **What a write leaves.**  `get_put_self`: bytes are read as they were put.  `get_put_apart`: bytes
  apart from those that are put stay as they are.
* **Parts.**  `get_add` cuts a stretch of bytes in two, and `getD_getWords` takes one word out of a
  stretch of words. -/

namespace ControlPlane

namespace Word

theorem fromBytes_append {a : List UInt8} (b : List UInt8) {n : Nat} (h : a.length = 4 * n) :
    fromBytes (a ++ b) = fromBytes a ++ fromBytes b := by
  induction n generalizing a with
  | zero =>
      have ha : a = [] := List.length_eq_zero_iff.mp (by omega)
      rw [ha]
      rfl
  | succ n ih =>
      match a, h with
      | b0 :: b1 :: b2 :: b3 :: rest, h =>
          have hr : rest.length = 4 * n := by
            simp only [List.length_cons] at h
            omega
          simp only [List.cons_append, fromBytes, ih hr]

theorem length_fromBytes {a : List UInt8} {n : Nat} (h : a.length = 4 * n) :
    (fromBytes a).length = n := by
  induction n generalizing a with
  | zero =>
      have ha : a = [] := List.length_eq_zero_iff.mp (by omega)
      rw [ha]
      rfl
  | succ n ih =>
      match a, h with
      | b0 :: b1 :: b2 :: b3 :: rest, h =>
          have hr : rest.length = 4 * n := by
            simp only [List.length_cons] at h
            omega
          simp only [fromBytes, List.length_cons, ih hr]

end Word

namespace DmaRegion

/-- The bytes of a stretch of a region. -/
def get (r : DmaRegion) (offset len : Nat) : List UInt8 := r.bytes.readAll (offsets offset len)

/-- A region with a list of bytes put at an offset. -/
def put (r : DmaRegion) (offset : Nat) (data : List UInt8) : DmaRegion :=
  { r with bytes := r.bytes.writeAll (placed offset data) }

def getWords (r : DmaRegion) (offset words : Nat) : List UInt32 :=
  Word.fromBytes (r.get offset (4 * words))

def putWords (r : DmaRegion) (offset : Nat) (data : List UInt32) : DmaRegion :=
  r.put offset (Word.toBytes data)

/-- The word at an offset. -/
def wordAt (r : DmaRegion) (offset : Nat) : UInt32 := (r.getWords offset 1).headD 0

variable {r r' : DmaRegion} {offset other len : Nat}

@[simp] theorem size_put (r : DmaRegion) (offset : Nat) (data : List UInt8) :
    (r.put offset data).size = r.size := rfl

@[simp] theorem size_putWords (r : DmaRegion) (offset : Nat) (data : List UInt32) :
    (r.putWords offset data).size = r.size := rfl

@[simp] theorem length_get (r : DmaRegion) (offset len : Nat) : (r.get offset len).length = len := by
  simp only [get, Memory.readAll, offsets, List.length_map, List.length_range']

@[simp] theorem length_getWords (r : DmaRegion) (offset words : Nat) :
    (r.getWords offset words).length = words :=
  Word.length_fromBytes (r.length_get offset (4 * words))

/-! ### In bounds -/

theorem read_ok (h : offset + len ≤ r.size) : r.read offset len = .ok (r.get offset len) := by
  rw [read, checkAccess, if_pos h]
  rfl

theorem write_ok {data : List UInt8} (h : offset + data.length ≤ r.size) :
    r.write offset data = .ok (r.put offset data) := by
  rw [write, checkAccess, if_pos h]
  rfl

theorem readWords_ok {words : Nat} (h : offset + 4 * words ≤ r.size) :
    r.readWords offset words = .ok (r.getWords offset words) := by
  rw [readWords, read_ok h]
  rfl

theorem writeWords_ok {data : List UInt32} (h : offset + 4 * data.length ≤ r.size) :
    r.writeWords offset data = .ok (r.putWords offset data) :=
  write_ok (by rwa [Word.length_toBytes])

/-! ### What a write leaves -/

theorem get_put_self (r : DmaRegion) (offset : Nat) (data : List UInt8) :
    (r.put offset data).get offset data.length = data :=
  readAll_writeAll_placed r.bytes offset data

theorem getWords_putWords_self (r : DmaRegion) (offset : Nat) (data : List UInt32) :
    (r.putWords offset data).getWords offset data.length = data := by
  have h := r.get_put_self offset (Word.toBytes data)
  rw [Word.length_toBytes] at h
  rw [getWords, putWords, h, Word.fromBytes_toBytes]

/-- A byte outside those that are put. -/
theorem read_put_apart (r : DmaRegion) {data : List UInt8} {a : Nat}
    (h : a < offset ∨ offset + data.length ≤ a) :
    (r.put offset data).bytes.read a = r.bytes.read a := by
  refine Memory.read_writeAll_of_notMem _ _ _ fun w hw => ?_
  have := le_of_mem_placed hw
  omega

theorem read_putWords_apart (r : DmaRegion) {data : List UInt32} {a : Nat}
    (h : a < offset ∨ offset + 4 * data.length ≤ a) :
    (r.putWords offset data).bytes.read a = r.bytes.read a :=
  r.read_put_apart (by rwa [Word.length_toBytes])

theorem get_congr (h : ∀ a, offset ≤ a → a < offset + len → r'.bytes.read a = r.bytes.read a) :
    r'.get offset len = r.get offset len := by
  refine List.map_congr_left fun a ha => ?_
  obtain ⟨hle, hlt⟩ := List.mem_range'_1.mp ha
  exact h a hle hlt

theorem getWords_congr {words : Nat}
    (h : ∀ a, offset ≤ a → a < offset + 4 * words → r'.bytes.read a = r.bytes.read a) :
    r'.getWords offset words = r.getWords offset words :=
  congrArg Word.fromBytes (get_congr h)

theorem get_put_apart (r : DmaRegion) {data : List UInt8}
    (h : other + len ≤ offset ∨ offset + data.length ≤ other) :
    (r.put offset data).get other len = r.get other len :=
  get_congr fun _ _ _ => r.read_put_apart (by omega)

/-! ### Parts -/

theorem get_add (r : DmaRegion) (offset len len' : Nat) :
    r.get offset (len + len') = r.get offset len ++ r.get (offset + len) len' := by
  have h : List.range' offset len ++ List.range' (offset + len) len' =
      List.range' offset (len + len') := List.range'_append_1
  rw [get, get, get, offsets, offsets, offsets, ← h, Memory.readAll, List.map_append]
  rfl

theorem getWords_add (r : DmaRegion) (offset words words' : Nat) :
    r.getWords offset (words + words') =
      r.getWords offset words ++ r.getWords (offset + 4 * words) words' := by
  rw [getWords, Nat.mul_add, get_add, Word.fromBytes_append _ (r.length_get _ _)]
  rfl

theorem getWords_one (r : DmaRegion) (offset : Nat) : r.getWords offset 1 = [r.wordAt offset] := by
  obtain ⟨w, hw⟩ := List.length_eq_one_iff.mp (r.length_getWords offset 1)
  rw [wordAt, hw]
  rfl

/-- A word of a stretch of words. -/
theorem getD_getWords (r : DmaRegion) (offset : Nat) {words i : Nat} (h : i < words) :
    (r.getWords offset words)[i]?.getD 0 = r.wordAt (offset + 4 * i) := by
  obtain ⟨rest, rfl⟩ : ∃ rest, words = i + (1 + rest) := ⟨words - i - 1, by omega⟩
  rw [getWords_add, getWords_add, getWords_one, List.getElem?_append_right (by simp), length_getWords,
    Nat.sub_self]
  rfl

theorem wordAt_congr (h : ∀ a, offset ≤ a → a < offset + 4 → r'.bytes.read a = r.bytes.read a) :
    r'.wordAt offset = r.wordAt offset := by
  rw [wordAt, wordAt, getWords_congr h]

theorem wordAt_putWords_self (r : DmaRegion) (offset : Nat) {data : List UInt32} {i : Nat}
    (h : i < data.length) : (r.putWords offset data).wordAt (offset + 4 * i) = data[i]?.getD 0 := by
  have hd := (r.putWords offset data).getD_getWords offset h
  rw [getWords_putWords_self] at hd
  exact hd.symm

/-- The first of the words that are put. -/
theorem wordAt_putWords_cons (r : DmaRegion) (offset : Nat) (w : UInt32) (ws : List UInt32) :
    (r.putWords offset (w :: ws)).wordAt offset = w := by
  have hself : (r.putWords offset (w :: ws)).wordAt (offset + 4 * 0) = (w :: ws)[0]?.getD 0 :=
    r.wordAt_putWords_self offset (Nat.succ_pos ws.length)
  rwa [Nat.mul_zero, Nat.add_zero, List.getElem?_cons_zero, Option.getD_some] at hself

theorem wordAt_putWords_apart (r : DmaRegion) {data : List UInt32}
    (h : other + 4 ≤ offset ∨ offset + 4 * data.length ≤ other) :
    (r.putWords offset data).wordAt other = r.wordAt other :=
  wordAt_congr fun _ _ _ => r.read_putWords_apart (by omega)

/-- A byte of a stretch of zeros. -/
theorem read_of_clear {a : Nat} (h : r.get offset len = List.replicate len 0) (hle : offset ≤ a)
    (hlt : a < offset + len) : r.bytes.read a = 0 := by
  have hmem : r.bytes.read a ∈ r.get offset len :=
    List.mem_map.mpr ⟨a, List.mem_range'_1.mpr ⟨hle, hlt⟩, rfl⟩
  rw [h] at hmem
  exact List.eq_of_mem_replicate hmem

theorem wordAt_of_zero (h : ∀ a, other ≤ a → a < other + 4 → r.bytes.read a = 0) :
    r.wordAt other = 0 := by
  have hbytes : r.get other 4 = List.replicate 4 0 := by
    refine List.eq_replicate_iff.mpr ⟨r.length_get other 4, fun b hb => ?_⟩
    obtain ⟨a, ha, rfl⟩ := List.mem_map.mp hb
    obtain ⟨hle, hlt⟩ := List.mem_range'_1.mp ha
    exact h a hle hlt
  rw [wordAt, getWords, hbytes]
  rfl

/-- A word of a stretch of zeros. -/
theorem wordAt_of_clear (h : r.get offset len = List.replicate len 0) (hle : offset ≤ other)
    (hlt : other + 4 ≤ offset + len) : r.wordAt other = 0 :=
  wordAt_of_zero fun _ _ _ => read_of_clear h (by omega) (by omega)

end DmaRegion

end ControlPlane
