import ControlPlane.Error

/-! # Operations

An operation changes a state and answers or fails.  A failure keeps the state that was reached:
what the hardware was told before the failure has been told.  `EStateM` is that monad, and this
module adds the ways in which operations are put together here: on a part of a larger state, under
another type of failure, and with a failure taken as an answer. -/

namespace ControlPlane

/-- An operation of the control plane on states of type `σ`. -/
abbrev Operation (σ α : Type) := EStateM Error σ α

/-- An operation of a device. -/
abbrev DeviceOperation (σ α : Type) := EStateM DeviceError σ α

namespace Operation

variable {ε ε' σ τ α : Type}

/-- An operation on the part of a state that `get` reads and `put` replaces. -/
def focus (get : σ → τ) (put : σ → τ → σ) (op : EStateM ε τ α) : EStateM ε σ α := fun s =>
  match op (get s) with
  | .ok a t => .ok a (put s t)
  | .error e t => .error e (put s t)

/-- The same operation with its failures renamed. -/
def mapError (f : ε → ε') (op : EStateM ε σ α) : EStateM ε' σ α := fun s =>
  match op s with
  | .ok a t => .ok a t
  | .error e t => .error (f e) t

/-- The same operation, with its failure as an answer. -/
def attempt (op : EStateM ε σ α) : EStateM ε' σ (Except ε α) := fun s =>
  match op s with
  | .ok a t => .ok (.ok a) t
  | .error e t => .ok (.error e) t

/-- The same operation, whose failure nobody hears of. -/
def quietly (op : EStateM ε σ Unit) : EStateM ε' σ Unit := fun s =>
  match op s with
  | .ok _ t => .ok () t
  | .error _ t => .ok () t

/-- Does `op`; if it fails, does `undo` and fails all the same. -/
def orUndo (op : EStateM ε σ α) (undo : EStateM ε σ Unit) : EStateM ε σ α := fun s =>
  match op s with
  | .ok a t => .ok a t
  | .error e t =>
    match undo t with
    | .ok _ u => .error e u
    | .error _ u => .error e u

/-- Fails with `e` unless `p` holds. -/
def require (p : Prop) [Decidable p] (e : ε) : EStateM ε σ Unit := fun s =>
  if p then .ok () s else .error e s

/-- The value of an option, or the failure `e`. -/
def demand (e : ε) : Option α → EStateM ε σ α
  | some a => fun s => .ok a s
  | none => fun s => .error e s

/-- Does `op` for every element of a list, in order, up to the first failure. -/
def forAll (op : α → EStateM ε σ Unit) : List α → EStateM ε σ Unit
  | [] => fun s => .ok () s
  | a :: as => fun s =>
    match op a s with
    | .ok _ t => forAll op as t
    | .error e t => .error e t

/-- The state after an operation, whatever became of it. -/
def after (op : EStateM ε σ α) (s : σ) : σ :=
  match op s with
  | .ok _ t => t
  | .error _ t => t

/-- The answer of an operation, or its failure. -/
def answer (op : EStateM ε σ α) (s : σ) : Except ε α :=
  match op s with
  | .ok a _ => .ok a
  | .error e _ => .error e

end Operation

/-- A device's operation as one of the control plane. -/
def DeviceOperation.lift {σ α : Type} (op : DeviceOperation σ α) : Operation σ α :=
  Operation.mapError Error.ofDevice op

end ControlPlane
