import ControlPlane.Proofs.Operation
import ControlPlane.Table.Access

/-! # Refused commands

Whether a device has refused a command is a question about its whole past.  `Bus.Tells refused` says
that `refused` answers it: the predicate holds once a write has failed, and from then on.

* Every device can be made to tell: `Watched δ` is a device `δ` that remembers whether it has ever
  refused a read or a write (`tells_refused`).
* `write_ends` says what a table write does under such a predicate.  An entry of the right width
  inside its table is only ever refused by the device, and never for want of room (`write_ne_full`). -/

namespace ControlPlane

open Operation (Ends)

variable {δ : Type} [Bus δ]

/-- Holds of a device once it has refused a write, and goes on holding. -/
structure Bus.Tells (refused : δ → Prop) : Prop where
  of_error : ∀ address words {bus e bus'},
    (Bus.write address words : DeviceOperation δ Unit) bus = .error e bus' → refused bus'
  persists : ∀ address words {bus}, refused bus →
    refused (Operation.after (Bus.write address words : DeviceOperation δ Unit) bus)

/-- A predicate that holds of all devices tells nothing, but tells it truly. -/
theorem Bus.tells_true : Bus.Tells fun _ : δ => True :=
  ⟨fun _ _ _ _ _ _ => trivial, fun _ _ _ _ => trivial⟩

/-! ### Devices that remember -/

/-- A device, and whether it has ever refused a command. -/
structure Watched (δ : Type) where
  device : δ
  refused : Bool

namespace Watched

/-- A device that has not been asked anything. -/
def start (device : δ) : Watched δ := ⟨device, false⟩

/-- An operation of the device, whose failure is remembered. -/
def noting {δ α : Type} (op : DeviceOperation δ α) : DeviceOperation (Watched δ) α := fun w =>
  match op w.device with
  | .ok a d => .ok a { w with device := d }
  | .error e d => .error e ⟨d, true⟩

instance : Bus (Watched δ) where
  write address data := noting (Bus.write address data)
  read address words := noting (Bus.read address words)
  readable w := Bus.readable w.device

theorem tells_refused : Bus.Tells fun w : Watched δ => w.refused = true where
  of_error := by
    intro address words w e w' h
    change noting (Bus.write address words : DeviceOperation δ Unit) w = _ at h
    unfold noting at h
    split at h
    · cases h
    · cases h
      rfl
  persists := by
    intro address words w h
    change (Operation.after (noting (Bus.write address words : DeviceOperation δ Unit)) w).refused = _
    unfold Operation.after noting
    cases (Bus.write address words : DeviceOperation δ Unit) w.device with
    | ok a d => exact h
    | error e d => rfl

end Watched

/-- A device that does whatever it is told, and reads as zeros. -/
structure Willing where

instance : Bus Willing where
  write _ _ device := .ok () device
  read _ words device := .ok (List.replicate words 0) device
  readable _ := true

theorem tells_willing : Bus.Tells fun _ : Willing => False := ⟨nofun, nofun⟩

/-- A device that takes some writes and refuses all that come after. -/
structure Tiring where
  left : Nat

instance : Bus Tiring where
  write _ _ device :=
    if device.left = 0 then .error .unsupported device else .ok () ⟨device.left - 1⟩
  read _ words device := .ok (List.replicate words 0) device
  readable _ := false

/-! ### Writing to tables -/

namespace Table

variable {refused : δ → Prop}

theorem write_ends (ht : Bus.Tells refused) (t : Table) (index : Nat) (words : List UInt32)
    (hi : index < t.depth) (hw : words.length = t.words) (bus : δ) :
    Ends (t.write index words) bus (fun _ bus' => refused bus → refused bus')
      (fun _ bus' => refused bus') := by
  unfold Ends write DeviceOperation.lift Operation.mapError
  rw [if_neg (not_not_intro hi), if_neg (not_not_intro hw)]
  cases hb : (Bus.write (t.address index) words : DeviceOperation δ Unit) bus with
  | ok a bus' =>
      intro h
      have := ht.persists (t.address index) words h
      rwa [Operation.after, hb] at this
  | error e bus' => exact ht.of_error _ _ hb

/-- No write to a table makes a device forget. -/
theorem after_write (ht : Bus.Tells refused) (t : Table) (index : Nat) (words : List UInt32)
    {bus : δ} (h : refused bus) : refused (Operation.after (t.write index words) bus) := by
  by_cases hr : t.depth ≤ index ∨ words.length ≠ t.words
  · rwa [t.after_write_of_refused bus hr]
  · have hi : index < t.depth := by omega
    have hw : words.length = t.words := Decidable.of_not_not fun hw => hr (.inr hw)
    exact Ends.after ((write_ends ht t index words hi hw bus).mono (fun _ _ hk => hk h) fun _ _ hk => hk)

theorem after_clear (ht : Bus.Tells refused) (t : Table) (index : Nat) {bus : δ}
    (h : refused bus) : refused (Operation.after (t.clear index) bus) :=
  after_write ht t index _ h

/-- What is refused in writing an entry is never for want of room. -/
theorem write_ne_full (t : Table) (index : Nat) (words : List UInt32) (bus : δ) :
    Ends (t.write index words) bus (fun _ _ => True) fun e _ => ∀ what, e ≠ .full what := by
  unfold Table.write
  by_cases hi : index < t.depth
  · by_cases hw : words.length = t.words
    · have hdevice : Ends (Bus.write (t.address index) words : DeviceOperation δ Unit).lift bus
          (fun _ _ => True) fun e _ => ∀ what, e ≠ .full what := by
        refine Ends.mapError (Operation.ends_of_forall (fun _ _ => trivial) fun e _ what => ?_)
        cases e <;> simp [Error.ofDevice]
      exact Ends.of_eq hdevice (by simp only [hi, hw, not_true, if_false, ne_eq])
    · exact Operation.ends_error
        (by simp only [hi, hw, not_true, not_false_iff, if_false, if_true, ne_eq]; rfl) (by simp)
  · exact Operation.ends_error (by simp only [hi, not_false_iff, if_true]; rfl) (by simp)

end Table

end ControlPlane
