import ControlPlane.KeyMap

/-! # Memories that start out clear

A `Memory` gives every natural address a cell.  Cells that were never written hold the default
value, so a memory is a total function from addresses that differs from the default at finitely
many places.

* **View.**  `read` is the view; `read_write` says what a write does to it.
* **Several cells.**  `writeAll` makes a list of writes in order and leaves every other cell
  alone (`read_writeAll_of_notMem`). -/

namespace ControlPlane

/-- A memory of cells of type `α`, all `default` at first. -/
structure Memory (α : Type) where
  cells : KeyMap Nat α

namespace Memory

variable {α : Type} [Inhabited α]

def clear : Memory α := ⟨∅⟩

instance : Inhabited (Memory α) := ⟨clear⟩

def read (m : Memory α) (a : Nat) : α := (m.cells.get? a).getD default

def write (m : Memory α) (a : Nat) (x : α) : Memory α := ⟨m.cells.insert a x⟩

/-- Writes a list of values to the listed addresses, in order. -/
def writeAll (m : Memory α) : List (Nat × α) → Memory α
  | [] => m
  | (a, x) :: rest => (m.write a x).writeAll rest

def readAll (m : Memory α) (addresses : List Nat) : List α := addresses.map m.read

@[simp] theorem read_clear (a : Nat) : (clear : Memory α).read a = default := by
  simp [read, clear]

theorem read_write (m : Memory α) (a : Nat) (x : α) (b : Nat) :
    (m.write a x).read b = if a = b then x else m.read b := by
  simp only [read, write, KeyMap.get?_insert]
  split <;> rfl

theorem read_writeAll_of_notMem (m : Memory α) (writes : List (Nat × α)) (b : Nat)
    (h : ∀ w ∈ writes, w.1 ≠ b) : (m.writeAll writes).read b = m.read b := by
  induction writes generalizing m with
  | nil => rfl
  | cons w rest ih =>
    rw [writeAll, ih _ fun w hw => h w (List.mem_cons_of_mem _ hw), read_write,
      if_neg (h w List.mem_cons_self)]

end Memory

end ControlPlane
