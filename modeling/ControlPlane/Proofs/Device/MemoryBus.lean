import ControlPlane.Proofs.Device.Transfers
import ControlPlane.Proofs.Device.Refusals

/-! # Transports to a chip's memory

What becomes of a write depends on the chip behind a transport and on the transport's mode.  A `Backing`
is all that matters of both: the memory, the writes that leave it alone, and whether those that are made
are ever reported.  A `MemoryBus` is a transport with a backing that each write changes as
`Backing.write` says, and that succeeds exactly on the writes that the backing takes.

* **Channels.**  `Channel.writeMemory_ends`: a channel to an emulated chip is a `MemoryBus` in either
  mode, although the modes differ on a chip that is stalled.
* **Watched transports.**  What watches a `MemoryBus` is one. -/

namespace ControlPlane

open Operation (Ends)

/-- A chip's memory as a bus reaches it, and what becomes of the writes to it. -/
structure Backing where
  memory : Memory UInt32
  /-- The writes, by address and number of words, that leave the memory alone. -/
  refuses : Nat → Nat → Bool
  /-- Whether nobody hears of the writes that are made. -/
  stalls : Bool

namespace Backing

/-- A write as the memory sees it. -/
def write (b : Backing) (address : Nat) (words : List UInt32) : Backing :=
  if b.refuses address words.length then b
  else { b with memory := b.memory.writeAll (wordWrites address words) }

/-- Whether a write is made and reported. -/
def takes (b : Backing) (address words : Nat) : Bool := !b.refuses address words && !b.stalls

/-- Every write is taken. -/
def takesAll : Nat → Nat → Bool := fun _ _ => true

/-- No write is taken. -/
def takesNone : Nat → Nat → Bool := fun _ _ => false

variable {b : Backing} {address : Nat} {words : List UInt32}

theorem stalls_of_takesAll (h : b.takes = takesAll) : b.stalls = false := by
  have htakes : b.takes 0 0 = true := congrFun (congrFun h 0) 0
  rw [takes, Bool.and_eq_true, Bool.not_eq_true', Bool.not_eq_true'] at htakes
  exact htakes.2

theorem write_eq (b : Backing) (address : Nat) (words : List UInt32) :
    b.write address words = { b with
      memory := if b.refuses address words.length then b.memory
        else b.memory.writeAll (wordWrites address words) } := by
  unfold write
  split <;> rfl

@[simp] theorem write_refuses : (b.write address words).refuses = b.refuses := by
  unfold write
  split <;> rfl

@[simp] theorem write_stalls : (b.write address words).stalls = b.stalls := by
  unfold write
  split <;> rfl

@[simp] theorem write_takes : (b.write address words).takes = b.takes := by
  funext address words
  rw [takes, takes, write_refuses, write_stalls]

end Backing

/-- A bus to a chip's memory. -/
class MemoryBus (δ : Type) [Bus δ] where
  /-- Whether the bus reaches its chip. -/
  Sound : δ → Prop
  backing : δ → Backing
  write_ends : ∀ {bus : δ} {address : Nat} {words : List UInt32}, Sound bus → address < 2 ^ 32 →
    words.length ≤ payloadWordsMax →
    Ends (Bus.write address words : DeviceOperation δ Unit) bus
      (fun _ bus' => Sound bus' ∧ backing bus' = (backing bus).write address words ∧
        (backing bus).takes address words.length = true)
      (fun _ bus' => Sound bus' ∧ backing bus' = (backing bus).write address words ∧
        (backing bus).takes address words.length = false)

/-! ### Channels -/

namespace Channel

/-- Whether a channel reaches an emulated chip. -/
def Sound (ch : Channel) : Prop :=
  ∃ c, ch.device = .emulated c ∧
    (ch.settings.mode = .pool → ch.staging = some c.poolBase ∧ reservedBytes ≤ c.pool.size)

/-- The memory of a chip as a channel of a given mode reaches it.  The driver does not try to write to
a chip that is stalled; through the pool the write is made, and its completion awaited in vain. -/
def backingOf (mode : ChannelMode) (c : Chip) : Backing :=
  match mode with
  | .pool => ⟨c.memory, fun a n => decide (2 ^ 32 ≤ c.poolBase) || c.refuses a n, c.stalled⟩
  | .driver => ⟨c.memory, fun a n => c.stalled || c.refuses a n, false⟩

/-- The chip behind a channel. -/
def backing (ch : Channel) : Backing :=
  backingOf ch.settings.mode (ch.device.chip?.getD default)

theorem memory_backingOf (mode : ChannelMode) (c : Chip) : (backingOf mode c).memory = c.memory := by
  cases mode <;> rfl

theorem stalls_backingOf (mode : ChannelMode) {c : Chip} (h : c.stalled = false) :
    (backingOf mode c).stalls = false := by
  cases mode with
  | pool => exact h
  | driver => rfl

theorem backingOf_of_alike {mode : ChannelMode} {c c' : Chip} (hl : c.Alike c') :
    backingOf mode c' = { backingOf mode c with memory := c'.memory } := by
  cases mode with
  | pool => simp only [backingOf, hl.poolBase, hl.refuses_eq, hl.stalled]
  | driver => simp only [backingOf, hl.refuses_eq, hl.stalled]

/-- A channel after a write. -/
structure Wrote (ch : Channel) (address : Nat) (words : List UInt32) (ch' : Channel) : Prop where
  sound : ch'.Sound
  backing_eq : ch'.backing = ch.backing.write address words

/-- The chip has answered a write, with a status that tells whether it was refused. -/
structure Answered (ch : Channel) (address : Nat) (words : List UInt32)
    (answer : UInt32 × List UInt32) (ch' : Channel) : Prop extends Wrote ch address words ch' where
  stalls : ch.backing.stalls = false
  status_iff : answer.1 = 0 ↔ ch.backing.refuses address words.length = false

/-- Nothing was heard of a write. -/
structure Unanswered (ch : Channel) (address : Nat) (words : List UInt32) (ch' : Channel) : Prop
    extends Wrote ch address words ch' where
  takes : ch.backing.takes address words.length = false

section write

variable {settings : ChannelSettings} {staging : Option Nat} {c c' : Chip} {address : Nat}
  {words : List UInt32}

theorem wrote_of_alike (h : Sound ⟨.emulated c, settings, staging⟩) (hl : c.Alike c')
    (hm : c'.memory = if (backingOf settings.mode c).refuses address words.length then c.memory
      else c.memory.writeAll (wordWrites address words)) :
    Wrote ⟨.emulated c, settings, staging⟩ address words ⟨.emulated c', settings, staging⟩ where
  sound := by
    obtain ⟨_, hd, hpool⟩ := h
    cases hd
    refine ⟨c', rfl, fun hm => ?_⟩
    rw [hl.poolBase, hl.poolSize]
    exact hpool hm
  backing_eq := by
    change backingOf settings.mode c' = (backingOf settings.mode c).write address words
    rw [backingOf_of_alike hl, Backing.write_eq, hm, memory_backingOf]

/-- Through the pool. -/
theorem exchange_write_pool (h : Sound ⟨.emulated c, settings, staging⟩)
    (hm : settings.mode = .pool) (ha : address < 2 ^ 32) (hw : words.length ≤ payloadWordsMax) :
    Ends (exchange (Command.encode .write address words.length) words)
      ⟨.emulated c, settings, staging⟩
      (Answered ⟨.emulated c, settings, staging⟩ address words)
      (fun _ ch' => Unanswered ⟨.emulated c, settings, staging⟩ address words ch') := by
  obtain ⟨rfl, hs⟩ : staging = some c.poolBase ∧ reservedBytes ≤ c.pool.size := by
    obtain ⟨_, hd, hpool⟩ := h
    cases hd
    exact hpool hm
  have heq : exchange (Command.encode .write address words.length) words
      ⟨.emulated c, settings, some c.poolBase⟩ =
      exchangeStaged c.poolBase (Command.encode .write address words.length) words
        ⟨.emulated c, settings, some c.poolBase⟩ := by
    simp only [exchange, hm]
  obtain ⟨-, hcommand⟩ := Command.encode_fits .write address words.length
  have hends := exchangeStaged_ends settings (some c.poolBase) c hcommand hw hs
  rw [c.outcome_write ha hw] at hends
  refine Ends.of_eq (hends.mono ?_ ?_) heq
  · rintro answer ch' ⟨hb, hst, rfl, c', rfl, hexchanged⟩
    have hrefuses : (backingOf settings.mode c).refuses = c.refuses := by
      have hbeyond : decide (2 ^ 32 ≤ c.poolBase) = false := decide_eq_false (by omega)
      rw [hm]
      simp only [backingOf, hbeyond, Bool.false_or]
    refine ⟨wrote_of_alike h hexchanged.toAlike ?_, ?_, ?_⟩
    · rw [hrefuses]
      exact hexchanged.memory
    · change (backingOf settings.mode c).stalls = false
      rw [hm]
      exact hst
    · change c.writeStatus address words.length = 0 ↔
        (backingOf settings.mode c).refuses address words.length = false
      rw [hrefuses]
      exact c.writeStatus_eq_zero_iff address words.length
  · rintro e ch' ⟨hfail, c', rfl, hlike, hmem⟩
    have hrefuses : (backingOf settings.mode c).refuses address words.length =
        (decide (2 ^ 32 ≤ c.poolBase) || c.refuses address words.length) := by
      rw [hm]
      rfl
    refine ⟨wrote_of_alike h hlike ?_, ?_⟩
    · rw [hrefuses, hmem]
      by_cases hb : c.poolBase < 2 ^ 32
      · rw [if_pos hb, decide_eq_false (by omega), Bool.false_or]
        rfl
      · rw [if_neg hb, decide_eq_true (by omega), Bool.true_or, if_pos rfl]
    · change (backingOf settings.mode c).takes address words.length = false
      rw [Backing.takes, hrefuses]
      rcases hfail with hb | hst
      · rw [decide_eq_true hb, Bool.true_or, Bool.not_true, Bool.false_and]
      · have hstalls : (backingOf settings.mode c).stalls = true := by
          rw [hm]
          exact hst
        rw [hstalls, Bool.not_true, Bool.and_false]

/-- Through the driver. -/
theorem exchange_write_driver (h : Sound ⟨.emulated c, settings, staging⟩)
    (hm : settings.mode = .driver) (ha : address < 2 ^ 32) (hw : words.length ≤ payloadWordsMax) :
    Ends (exchange (Command.encode .write address words.length) words)
      ⟨.emulated c, settings, staging⟩
      (Answered ⟨.emulated c, settings, staging⟩ address words)
      (fun _ ch' => Unanswered ⟨.emulated c, settings, staging⟩ address words ch') := by
  have hrefuses : (backingOf settings.mode c).refuses address words.length =
      (c.stalled || c.refuses address words.length) := by
    rw [hm]
    rfl
  obtain ⟨hsome, hcommand⟩ := Command.encode_fits .write address words.length
  have hrun := exchange_driver c settings staging hm hsome hcommand hw
  have hexecute := c.execute_write [] ha hw (Nat.le_refl words.length)
  rw [List.append_nil, List.take_length] at hexecute
  rw [hexecute] at hrun
  cases hst : c.stalled with
  | true =>
      rw [if_pos hst] at hrun
      rw [hst, Bool.true_or] at hrefuses
      refine Operation.ends_error hrun ⟨wrote_of_alike h ⟨rfl, rfl, rfl, rfl⟩ ?_, ?_⟩
      · rw [if_pos hrefuses]
      · change (backingOf settings.mode c).takes address words.length = false
        rw [Backing.takes, hrefuses, Bool.not_true, Bool.false_and]
  | false =>
      rw [if_neg (by simp [hst])] at hrun
      rw [hst, Bool.false_or] at hrefuses
      refine Operation.ends_ok hrun ⟨wrote_of_alike h ⟨rfl, rfl, rfl, rfl⟩ ?_, ?_, ?_⟩
      · rw [hrefuses]
        rfl
      · change (backingOf settings.mode c).stalls = false
        rw [hm]
        rfl
      · change c.writeStatus address words.length = 0 ↔
          (backingOf settings.mode c).refuses address words.length = false
        rw [hrefuses]
        exact c.writeStatus_eq_zero_iff address words.length

end write

/-- A write in either mode. -/
theorem exchange_write {ch : Channel} (h : ch.Sound) {address : Nat} {words : List UInt32}
    (ha : address < 2 ^ 32) (hw : words.length ≤ payloadWordsMax) :
    Ends (exchange (Command.encode .write address words.length) words) ch
      (Answered ch address words) fun _ ch' => Unanswered ch address words ch' := by
  obtain ⟨device, settings, staging⟩ := ch
  obtain ⟨c, rfl, -⟩ := id h
  cases hm : settings.mode with
  | pool => exact exchange_write_pool h hm ha hw
  | driver => exact exchange_write_driver h hm ha hw

/-- A write changes the backing as it would by itself, and succeeds exactly if the backing takes it. -/
theorem writeMemory_ends {ch : Channel} (h : ch.Sound) {address : Nat} {words : List UInt32}
    (ha : address < 2 ^ 32) (hw : words.length ≤ payloadWordsMax) :
    Ends (writeMemory address words) ch
      (fun _ ch' => Wrote ch address words ch' ∧ ch.backing.takes address words.length = true)
      (fun _ ch' => Wrote ch address words ch' ∧ ch.backing.takes address words.length = false) := by
  have hpadded : padded words 0 = words := by
    rw [padded, Nat.zero_sub, List.replicate_zero, List.append_nil]
  unfold writeMemory transfer
  refine Ends.bind ?_
  refine Ends.of_eq ?_ (Operation.bind_ok (if_pos ⟨hw, Nat.zero_le _⟩))
  rw [hpadded]
  refine Ends.bind ((exchange_write h ha hw).mono ?_ ?_)
  · rintro ⟨status, payload⟩ ch' hans
    by_cases hs : status = 0
    · refine Ends.of_eq ?_ (Operation.bind_ok (if_pos hs))
      exact ⟨hans.toWrote, by rw [Backing.takes, hans.status_iff.mp hs, hans.stalls]; rfl⟩
    · have hrefused : ch.backing.refuses address words.length = true := by
        rw [← Bool.not_eq_false, ← hans.status_iff]
        exact hs
      refine Ends.bind (Operation.ends_error (if_neg hs) ⟨hans.toWrote, ?_⟩)
      rw [Backing.takes, hrefused, Bool.not_true, Bool.false_and]
  · rintro e ch' hun
    exact ⟨hun.toWrote, hun.takes⟩

instance : MemoryBus Channel where
  Sound := Sound
  backing := backing
  write_ends h ha hw := (writeMemory_ends h ha hw).mono
    (fun _ _ hq => ⟨hq.1.sound, hq.1.backing_eq, hq.2⟩)
    fun _ _ he => ⟨he.1.sound, he.1.backing_eq, he.2⟩

theorem memory_backing (ch : Channel) : (MemoryBus.backing ch).memory = ch.memory :=
  memory_backingOf _ _

end Channel

/-! ### Watched transports -/

namespace Watched

instance {δ : Type} [Bus δ] [MemoryBus δ] : MemoryBus (Watched δ) where
  Sound w := MemoryBus.Sound w.device
  backing w := MemoryBus.backing w.device
  write_ends := by
    intro w address words h ha hw
    have hdevice := MemoryBus.write_ends h ha hw
    change Ends (noting (Bus.write address words : DeviceOperation δ Unit)) w _ _
    cases hop : (Bus.write address words : DeviceOperation δ Unit) w.device with
    | ok a d => exact Operation.ends_ok (by simp only [noting, hop]; rfl) (hdevice.of_ok hop)
    | error e d =>
        exact Operation.ends_error (by simp only [noting, hop]; rfl) (hdevice.of_error hop)

end Watched

end ControlPlane
