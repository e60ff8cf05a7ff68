import ControlPlane.Device.Channel
import ControlPlane.Proofs.Device.Pool
import ControlPlane.Proofs.Operation

/-! # Exchanges through the pool

An exchange that goes through the pool takes eight steps: it is staged in the pool, the completion
bit is cleared, the command channel is pointed at the pool and started, the chip runs what is staged,
and the processor awaits the bit, halts the channel and reads the answer back.

* **Transfer channels.**  `clearDone_eq`, `launch_eq`, `awaitDone_eq` and `halt_eq` say what the
  processor does to the registers of any channel.
* **Frames.**  What one channel does is `Confined` to its own registers, its own completion bit and
  a stretch of the pool.
* **The chip's half.**  `runStaged_eq`: the command that is staged is executed, and its payload and
  status are put back.
* **The whole exchange.**  `exchangeStaged_ends`: it ends in the payload and status of the command,
  unless the chip is stalled, which executes it all the same and never reports it, or the pool lies
  where the command channel cannot reach. -/

namespace ControlPlane

open Operation (Ends)

/-! ### Completion bits -/

namespace Registers

theorem toBitVec_dmaDone (channel : Nat) :
    (dmaDone channel).toBitVec = BitVec.twoPow 32 channel := by
  apply BitVec.eq_of_toNat_eq
  rw [BitVec.toNat_twoPow]
  exact UInt32.toNat_ofNat'

/-- Whether a channel is done is a bit of the status word. -/
theorem isDone_eq (status : UInt32) (channel : Nat) :
    isDone status channel = status.toBitVec.getLsbD channel := by
  have hand : (status &&& dmaDone channel).toBitVec =
      if status.toBitVec.getLsbD channel then BitVec.twoPow 32 channel else 0#32 := by
    rw [UInt32.toBitVec_and, toBitVec_dmaDone, BitVec.and_twoPow]
  cases hb : status.toBitVec.getLsbD channel with
  | false =>
      rw [hb, if_neg (by decide)] at hand
      have hzero : status &&& dmaDone channel = 0 := UInt32.toBitVec_inj.mp hand
      rw [isDone, hzero]
      rfl
  | true =>
      rw [hb, if_pos rfl] at hand
      have hlt := BitVec.lt_of_getLsbD hb
      rw [isDone, bne_iff_ne]
      intro hzero
      have hset := congrArg (BitVec.getLsbD · channel) hand
      rw [hzero, BitVec.getLsbD_twoPow] at hset
      simp [hlt] at hset

theorem getLsbD_dmaDone {channel : Nat} (h : channel < 32) (k : Nat) :
    (dmaDone channel).toBitVec.getLsbD k = decide (k = channel) := by
  rw [toBitVec_dmaDone, BitVec.getLsbD_twoPow, decide_eq_true h, Bool.true_and]
  exact decide_eq_decide.mpr eq_comm

/-- Setting a channel's bit sets no other. -/
theorem isDone_or (status : UInt32) {channel : Nat} (h : channel < 32) (k : Nat) :
    isDone (status ||| dmaDone channel) k = (isDone status k || decide (k = channel)) := by
  rw [isDone_eq, isDone_eq, UInt32.toBitVec_or, BitVec.getLsbD_or, getLsbD_dmaDone h]

/-- Clearing a channel's bit clears no other. -/
theorem isDone_and_not (status : UInt32) {channel : Nat} (h : channel < 32) (k : Nat) :
    isDone (status &&& ~~~ dmaDone channel) k = (isDone status k && !decide (k = channel)) := by
  rw [isDone_eq, isDone_eq, UInt32.toBitVec_and, UInt32.toBitVec_not, BitVec.getLsbD_and,
    BitVec.getLsbD_not, getLsbD_dmaDone h]
  cases hb : status.toBitVec.getLsbD k with
  | false => rw [Bool.false_and, Bool.false_and]
  | true => rw [decide_eq_true (BitVec.lt_of_getLsbD hb), Bool.true_and]

end Registers

/-! ### Consecutive words -/

theorem length_wordAddresses (address words : Nat) :
    (wordAddresses address words).length = words := by
  induction words generalizing address with
  | zero => rfl
  | succ words ih => rw [wordAddresses, List.length_cons, ih]

theorem getElem?_wordAddresses {address words i : Nat} (h : i < words) :
    (wordAddresses address words)[i]? = some ((address + 4 * i) % 2 ^ 32) := by
  induction words generalizing address i with
  | zero => cases h
  | succ words ih =>
      cases i with
      | zero => rfl
      | succ i =>
          rw [wordAddresses, List.getElem?_cons_succ, ih (Nat.lt_of_succ_lt_succ h)]
          congr 2
          omega

/-- Addresses do not come round to the same word in fewer than `2 ^ 30` words. -/
theorem nodup_wordAddresses (address : Nat) {words : Nat} (h : words ≤ 2 ^ 30) :
    (wordAddresses address words).Nodup := by
  refine List.pairwise_iff_getElem.mpr fun i j hi hj hij => ?_
  rw [length_wordAddresses] at hi hj
  rw [(List.getElem_eq_iff _).mpr (getElem?_wordAddresses hi),
    (List.getElem_eq_iff _).mpr (getElem?_wordAddresses hj)]
  omega

namespace Memory

/-- What is written to different addresses is read back. -/
theorem readAll_writeAll_zip {α : Type} [Inhabited α] (m : Memory α) {addresses : List Nat}
    {data : List α} (hn : addresses.Nodup) (hl : addresses.length = data.length) :
    (m.writeAll (addresses.zip data)).readAll addresses = data := by
  induction addresses generalizing m data with
  | nil => exact (List.length_eq_zero_iff.mp hl.symm).symm
  | cons a rest ih =>
      obtain ⟨x, xs, rfl⟩ := List.exists_cons_of_length_eq_add_one hl.symm
      obtain ⟨ha, hrest⟩ := List.nodup_cons.mp hn
      have hself : ((m.write a x).writeAll (rest.zip xs)).read a = x := by
        rw [read_writeAll_of_notMem, read_write, if_pos rfl]
        rintro w hw rfl
        exact ha (List.of_mem_zip hw).1
      change _ :: _ = _
      rw [List.cons.injEq]
      exact ⟨hself, ih _ hrest (Nat.succ.inj hl)⟩

theorem readAll_writeAll_words (m : Memory UInt32) (address : Nat) {words : List UInt32}
    (h : words.length ≤ 2 ^ 30) :
    (m.writeAll (wordWrites address words)).readAll (wordAddresses address words.length) = words :=
  m.readAll_writeAll_zip (nodup_wordAddresses address h) (length_wordAddresses _ _)

end Memory

/-! ### Chips that differ in few places -/

namespace Chip

/-- The same place and size of the pool and the same faults: what no exchange changes. -/
structure Alike (c c' : Chip) : Prop where
  poolBase : c'.poolBase = c.poolBase
  poolSize : c'.pool.size = c.pool.size
  stalled : c'.stalled = c.stalled
  failing : c'.failing = c.failing

/-- Whether a channel's completion bit is set. -/
def done (c : Chip) (channel : Nat) : Bool :=
  Registers.isDone (c.registers.read Registers.dmaStatus) channel

def setRegister (c : Chip) (offset : Nat) (value : UInt32) : Chip :=
  { c with registers := c.registers.write offset value }

def setPool (c : Chip) (pool : DmaRegion) : Chip := { c with pool := pool }

/-- `c'` is `c` up to one channel's registers and completion bit, a stretch of the pool, the memory and
the frames sent. -/
structure Confined (channel first stop : Nat) (c c' : Chip) : Prop extends c.Alike c' where
  bytes : ∀ a, a < first ∨ stop ≤ a → c'.pool.bytes.read a = c.pool.bytes.read a
  done : ∀ k, k ≠ channel → c'.done k = c.done k
  registers : ∀ a, a ≠ Registers.dmaStatus → a ≠ Registers.dmaControl channel →
    a ≠ Registers.dmaDescriptor channel → c'.registers.read a = c.registers.read a

variable {c c' c'' : Chip} {channel first stop : Nat}

theorem Alike.trans (h : c.Alike c') (h' : c'.Alike c'') : c.Alike c'' :=
  ⟨h'.poolBase.trans h.poolBase, h'.poolSize.trans h.poolSize, h'.stalled.trans h.stalled,
    h'.failing.trans h.failing⟩

theorem Alike.refuses_eq (h : c.Alike c') : c'.refuses = c.refuses := by
  funext address words
  rw [refuses, refuses, h.failing]

theorem Confined.trans (h : c.Confined channel first stop c')
    (h' : c'.Confined channel first stop c'') : c.Confined channel first stop c'' where
  toAlike := h.toAlike.trans h'.toAlike
  bytes a ha := (h'.bytes a ha).trans (h.bytes a ha)
  done k hk := (h'.done k hk).trans (h.done k hk)
  registers a hs hc hd := (h'.registers a hs hc hd).trans (h.registers a hs hc hd)

/-- Neither the memory nor the list of frames is part of the frame. -/
theorem Confined.setMemory (h : c.Confined channel first stop c') (memory : Memory UInt32)
    (sent : List Frame) :
    c.Confined channel first stop { c' with memory := memory, sent := sent } :=
  ⟨⟨h.poolBase, h.poolSize, h.stalled, h.failing⟩, h.bytes, h.done, h.registers⟩

theorem confined_refl (c : Chip) (channel first stop : Nat) : c.Confined channel first stop c :=
  ⟨⟨rfl, rfl, rfl, rfl⟩, fun _ _ => rfl, fun _ _ => rfl, fun _ _ _ _ => rfl⟩

theorem confined_putWords (c : Chip) {offset : Nat} {data : List UInt32} (hf : first ≤ offset)
    (hs : offset + 4 * data.length ≤ stop) :
    c.Confined channel first stop (c.setPool (c.pool.putWords offset data)) where
  toAlike := ⟨rfl, rfl, rfl, rfl⟩
  bytes _ ha := c.pool.read_putWords_apart (by omega)
  done _ _ := rfl
  registers _ _ _ _ := rfl

theorem confined_put (c : Chip) {offset : Nat} {data : List UInt8} (hf : first ≤ offset)
    (hs : offset + data.length ≤ stop) :
    c.Confined channel first stop (c.setPool (c.pool.put offset data)) where
  toAlike := ⟨rfl, rfl, rfl, rfl⟩
  bytes _ ha := c.pool.read_put_apart (by omega)
  done _ _ := rfl
  registers _ _ _ _ := rfl

@[simp] theorem registers_setRegister (c : Chip) (offset : Nat) (value : UInt32) (a : Nat) :
    (c.setRegister offset value).registers.read a =
      if offset = a then value else c.registers.read a := by
  rw [setRegister, Memory.read_write]

theorem done_setRegister (c : Chip) {offset : Nat} (value : UInt32)
    (h : offset ≠ Registers.dmaStatus) (k : Nat) : (c.setRegister offset value).done k = c.done k := by
  rw [done, registers_setRegister, if_neg h, done]

/-- The registers of the channels that are used lie apart from the status register. -/
theorem dmaControl_ne (h : channel < 4) : Registers.dmaControl channel ≠ Registers.dmaStatus := by
  rw [Registers.dmaControl, Registers.dmaStatus]
  omega

theorem dmaDescriptor_ne : Registers.dmaDescriptor channel ≠ Registers.dmaStatus := by
  rw [Registers.dmaDescriptor, Registers.dmaStatus]
  omega

theorem confined_setRegister (c : Chip) {offset : Nat} (value : UInt32)
    (h : offset = Registers.dmaControl channel ∨ offset = Registers.dmaDescriptor channel)
    (h4 : channel < 4) : c.Confined channel first stop (c.setRegister offset value) where
  toAlike := ⟨rfl, rfl, rfl, rfl⟩
  bytes _ _ := rfl
  done k _ := by
    refine c.done_setRegister value ?_ k
    rcases h with rfl | rfl
    · exact dmaControl_ne h4
    · exact dmaDescriptor_ne
  registers a _ hc hd := by
    rw [registers_setRegister, if_neg]
    rcases h with rfl | rfl
    · exact hc.symm
    · exact hd.symm

/-- A change of the status register that is one of the channel's own bit. -/
theorem confined_setStatus (c : Chip) {status : UInt32}
    (h : ∀ k, k ≠ channel → Registers.isDone status k = c.done k) :
    c.Confined channel first stop (c.setRegister Registers.dmaStatus status) where
  toAlike := ⟨rfl, rfl, rfl, rfl⟩
  bytes _ _ := rfl
  done k hk := by
    rw [done, registers_setRegister, if_pos rfl, h k hk]
  registers a hs _ _ := by
    rw [registers_setRegister, if_neg hs.symm]

/-! ### Completion -/

/-- A chip with a channel's completion bit cleared. -/
def cleared (c : Chip) (channel : Nat) : Chip :=
  c.setRegister Registers.dmaStatus
    (c.registers.read Registers.dmaStatus &&& ~~~ Registers.dmaDone channel)

theorem done_cleared (c : Chip) (h : channel < 32) (k : Nat) :
    (c.cleared channel).done k = (c.done k && !decide (k = channel)) := by
  rw [done, cleared, registers_setRegister, if_pos rfl, Registers.isDone_and_not _ h, done]

theorem confined_cleared (c : Chip) (h : channel < 32) :
    c.Confined channel first stop (c.cleared channel) :=
  c.confined_setStatus fun k hk => by
    rw [Registers.isDone_and_not _ h, decide_eq_false hk, Bool.not_false, Bool.and_true, done]

theorem done_complete (c : Chip) (h : channel < 32) :
    (c.complete channel).done channel = (c.done channel || !c.stalled) := by
  unfold complete
  cases hs : c.stalled with
  | true => rw [if_pos rfl, Bool.not_true, Bool.or_false]
  | false =>
      rw [if_neg (by decide), done, Memory.read_write, if_pos rfl, Registers.isDone_or _ h,
        decide_eq_true rfl, Bool.or_true, Bool.not_false, Bool.or_true]

theorem confined_complete (c : Chip) (h : channel < 32) :
    c.Confined channel first stop (c.complete channel) := by
  unfold complete
  split
  · exact c.confined_refl channel first stop
  · refine c.confined_setStatus fun k hk => ?_
    rw [Registers.isDone_or _ h, decide_eq_false hk, Bool.or_false, done]

@[simp] theorem complete_memory (c : Chip) (channel : Nat) :
    (c.complete channel).memory = c.memory := by
  unfold complete
  split <;> rfl

@[simp] theorem complete_pool (c : Chip) (channel : Nat) : (c.complete channel).pool = c.pool := by
  unfold complete
  split <;> rfl

@[simp] theorem complete_sent (c : Chip) (channel : Nat) : (c.complete channel).sent = c.sent := by
  unfold complete
  split <;> rfl

/-! ### Executed commands -/

theorem length_execute (c : Chip) (command payload : List UInt32) :
    (c.execute command payload).payload.length = payload.length := by
  unfold execute
  split
  · dsimp only
    split
    · split <;> rfl
    · simp only [readMemory, Memory.readAll, List.length_append, List.length_map,
        length_wordAddresses, List.length_drop]
      omega
  · rfl

/-- A command sees no more of a chip than its memory and its faults, and changes no more than the
memory. -/
theorem execute_congr {c c' : Chip} (hf : c'.failing = c.failing) (hm : c'.memory = c.memory)
    (command payload : List UInt32) :
    c'.execute command payload = ⟨(c.execute command payload).status,
      (c.execute command payload).payload,
      { c' with memory := (c.execute command payload).chip.memory }⟩ := by
  have hr : c'.refuses = c.refuses := by
    funext address words
    rw [refuses, refuses, hf]
  unfold execute
  rw [hr]
  split
  · dsimp only
    split
    · split
      · simp only [← hm]
      · simp only [writeMemory, hm]
    · simp only [readMemory, ← hm]
  · simp only [← hm]

/-- What comes of a command and a payload that are staged, or handed over, with nothing after them. -/
def outcome (c : Chip) (command payload : List UInt32) : Execution :=
  c.execute (Channel.padded command commandWordsMax) (Channel.padded payload payloadWordsMax)

/-- A chip after an exchange that leaves it with the memory `m`. -/
structure Exchanged (c : Chip) (m : Memory UInt32) (c' : Chip) : Prop
    extends Confined Registers.commandChannel 0 (4 * stagedWords) c c' where
  memory : c'.memory = m
  sent : c'.sent = c.sent

theorem Exchanged.halted {m : Memory UInt32} (h : c.Exchanged m c') :
    c.Exchanged m (c'.setRegister (Registers.dmaControl Registers.commandChannel) 0) where
  toConfined := h.toConfined.trans (c'.confined_setRegister 0 (.inl rfl) (by decide))
  memory := h.memory
  sent := h.sent

/-! ### The chip's half -/

theorem poolOffset_of_lt {c : Chip} {offset : Nat} (hb : c.poolBase + offset < 2 ^ 32)
    (hs : offset < c.pool.size) :
    c.poolOffset (UInt32.ofNat (c.poolBase + offset)).toNat = .ok offset := by
  have hbus : (UInt32.ofNat (c.poolBase + offset)).toNat = c.poolBase + offset := by
    rw [UInt32.toNat_ofNat']
    omega
  rw [poolOffset, hbus, if_pos (by omega), Nat.add_sub_cancel_left]

/-- A pool that lies beyond the addresses of 32 bits is out of a channel's reach. -/
theorem poolOffset_beyond {c : Chip} (hb : 2 ^ 32 ≤ c.poolBase) (bus : UInt32) :
    c.poolOffset bus.toNat = .error (.outsidePool bus.toNat) := by
  have := bus.toNat_lt
  rw [poolOffset, if_neg (by omega)]

/-- The chip executes what is staged at the start of the pool and puts the answer back. -/
theorem runStaged_eq {c : Chip} {command payload : List UInt32} {status : UInt32}
    (hc : command.length = commandWordsMax) (hp : payload.length = payloadWordsMax)
    (hb : c.poolBase < 2 ^ 32) (hs : 4 * stagedWords ≤ c.pool.size)
    (hd : c.registers.read (Registers.dmaDescriptor Registers.commandChannel) =
      UInt32.ofNat c.poolBase)
    (hw : c.pool.getWords 0 stagedWords = command ++ payload ++ [status]) :
    c.runStaged = .ok (({ c with
        memory := (c.execute command payload).chip.memory
        pool := c.pool.putWords (4 * commandWordsMax)
          ((c.execute command payload).payload ++ [(c.execute command payload).status])
      } : Chip).complete Registers.commandChannel) := by
  have hoffset : c.poolOffset (UInt32.ofNat (c.poolBase + 0)).toNat = .ok 0 :=
    poolOffset_of_lt hb (Nat.lt_of_lt_of_le (by decide) hs)
  have hread : c.pool.readWords 0 stagedWords = .ok (command ++ payload ++ [status]) := by
    rw [DmaRegion.readWords_ok (by rwa [Nat.zero_add]), hw]
  have hlen : 0 + 4 * commandWordsMax + 4 * ((c.execute command payload).payload ++
      [(c.execute command payload).status]).length ≤ c.pool.size := by
    rw [List.length_append, c.length_execute, hp]
    exact hs
  have hchip := c.execute_congr rfl rfl command payload
  have hpool : (c.execute command payload).chip.pool = c.pool := by
    rw [hchip]
  rw [Nat.add_zero] at hoffset
  simp only [runStaged, hd, hoffset, bind, Except.bind, hread]
  rw [List.append_assoc, List.take_left' hc, List.drop_left' hc, List.take_left' hp, hpool,
    DmaRegion.writeWords_ok hlen, Nat.zero_add, hchip]
  rfl

theorem runStaged_beyond {c : Chip} (hb : 2 ^ 32 ≤ c.poolBase) : c.runStaged = .error (.outsidePool
    (c.registers.read (Registers.dmaDescriptor Registers.commandChannel)).toNat) := by
  simp only [runStaged, poolOffset_beyond hb, bind, Except.bind]

end Chip

/-! ### The mapped pool -/

namespace Device

variable {c : Chip} {offset : Nat}

theorem readPool_ok {len : Nat} (h : offset + len ≤ c.pool.size) :
    readPool offset len (.emulated c) = .ok (c.pool.get offset len) (.emulated c) := by
  simp only [readPool, pool, chip?, DmaRegion.read_ok h]

theorem readPoolWords_ok {words : Nat} (h : offset + 4 * words ≤ c.pool.size) :
    readPoolWords offset words (.emulated c) = .ok (c.pool.getWords offset words) (.emulated c) := by
  simp only [readPoolWords, pool, chip?, DmaRegion.readWords_ok h]

theorem writePool_ok {data : List UInt8} (h : offset + data.length ≤ c.pool.size) :
    writePool offset data (.emulated c) = .ok () (.emulated (c.setPool (c.pool.put offset data))) := by
  simp only [writePool, pool, chip?, DmaRegion.write_ok h, mapChip, Chip.setPool]

theorem writePoolWords_ok {words : List UInt32} (h : offset + 4 * words.length ≤ c.pool.size) :
    writePoolWords offset words (.emulated c) =
      .ok () (.emulated (c.setPool (c.pool.putWords offset words))) := by
  simp only [writePoolWords, pool, chip?, DmaRegion.writeWords_ok h, mapChip, Chip.setPool]

end Device

/-! ### The processor's half -/

namespace Channel

variable {settings : ChannelSettings} {staging : Option Nat}

theorem onDevice_ok {α : Type} {op : DeviceOperation Device α} {d d' : Device} {a : α}
    (h : op d = .ok a d') : onDevice op ⟨d, settings, staging⟩ = .ok a ⟨d', settings, staging⟩ := by
  simp only [onDevice, Operation.focus, h]

theorem readRegister_ok (c : Chip) {offset : Nat} (ho : offset < Registers.window) :
    onDevice (Device.readRegister offset) ⟨.emulated c, settings, staging⟩ =
      .ok (c.registers.read offset) ⟨.emulated c, settings, staging⟩ :=
  onDevice_ok (by simp only [Device.readRegister, Device.onChip, Chip.readRegister, if_pos ho])

/-- A register that starts nothing. -/
theorem writeRegister_ok (c : Chip) {offset : Nat} {value : UInt32}
    (ho : offset < Registers.window)
    (hn : value &&& Registers.start = 0 ∨ offset ≠ Registers.dmaControl Registers.commandChannel ∧
      offset ≠ Registers.dmaControl Registers.transmitChannel) :
    onDevice (Device.writeRegister offset value) ⟨.emulated c, settings, staging⟩ =
      .ok () ⟨.emulated (c.setRegister offset value), settings, staging⟩ := by
  have hidle : Chip.writeRegister offset value c = .ok () (c.setRegister offset value) := by
    unfold Chip.writeRegister
    rw [if_pos ho]
    by_cases hv : value &&& Registers.start = 0
    · rw [if_pos hv]
      rfl
    · obtain ⟨hc, ht⟩ := hn.resolve_left hv
      rw [if_neg hv, if_neg hc, if_neg ht]
      rfl
  exact onDevice_ok (by simp only [Device.writeRegister, Device.onChip, hidle])

theorem clearDone_eq (c : Chip) (channel : Nat) :
    clearDone channel ⟨.emulated c, settings, staging⟩ =
      .ok () ⟨.emulated (c.cleared channel), settings, staging⟩ := by
  unfold clearDone
  rw [Operation.bind_ok (readRegister_ok c (by decide))]
  exact writeRegister_ok c (by decide) (.inr (by decide))

theorem awaitDone_eq (settings : ChannelSettings) (staging : Option Nat) (c : Chip) (channel : Nat)
    (operation : String) :
    awaitDone channel operation ⟨.emulated c, settings, staging⟩ =
      if c.done channel then
        .ok () ⟨.emulated c, settings, staging⟩
      else
        .error (.timeout operation settings.timeoutMs) ⟨.emulated c, settings, staging⟩ := by
  unfold awaitDone
  rw [Operation.bind_ok (readRegister_ok c (by decide))]
  rfl

variable {channel : Nat}

theorem halt_eq (c : Chip) (h4 : channel < 4) :
    halt channel ⟨.emulated c, settings, staging⟩ =
      .ok () ⟨.emulated (c.setRegister (Registers.dmaControl channel) 0), settings, staging⟩ :=
  writeRegister_ok c (by simp only [Registers.dmaControl, Registers.window]; omega) (.inl (by decide))

/-- A chip whose channel is pointed at a bus address and about to be started. -/
def launched (c : Chip) (channel bus : Nat) : Chip :=
  (c.setRegister (Registers.dmaDescriptor channel) (UInt32.ofNat bus)).setRegister
    (Registers.dmaControl channel) Registers.start

/-- Starting a channel does what the chip does for it. -/
theorem launch_eq (c : Chip) (bus : Nat) {run : Chip → Except Misuse Chip} (h4 : channel < 4)
    (hrun : ∀ c : Chip, Chip.writeRegister (Registers.dmaControl channel) Registers.start c =
      Chip.step run (c.setRegister (Registers.dmaControl channel) Registers.start)) :
    launch channel bus ⟨.emulated c, settings, staging⟩ =
      match run (launched c channel bus) with
      | .ok c' => .ok () ⟨.emulated c', settings, staging⟩
      | .error e => .error (.misuse e) ⟨.emulated (launched c channel bus), settings, staging⟩ := by
  have hdescriptor : onDevice (Device.writeRegister (Registers.dmaDescriptor channel)
      (UInt32.ofNat bus)) ⟨.emulated c, settings, staging⟩ = .ok () ⟨.emulated (c.setRegister
        (Registers.dmaDescriptor channel) (UInt32.ofNat bus)), settings, staging⟩ := by
    refine writeRegister_ok c ?_ (.inr ?_)
    · simp only [Registers.dmaDescriptor, Registers.window]
      omega
    · simp only [Registers.dmaDescriptor, Registers.dmaControl, Registers.commandChannel,
        Registers.transmitChannel]
      omega
  unfold launch
  rw [Operation.bind_ok hdescriptor]
  simp only [onDevice, Operation.focus, Device.writeRegister, Device.onChip, hrun, Chip.step,
    launched]
  cases run _ <;> rfl

theorem launch_command_eq (settings : ChannelSettings) (staging : Option Nat) (c : Chip) (bus : Nat) :
    launch Registers.commandChannel bus ⟨.emulated c, settings, staging⟩ =
      match (launched c Registers.commandChannel bus).runStaged with
      | .ok c' => .ok () ⟨.emulated c', settings, staging⟩
      | .error e => .error (.misuse e)
          ⟨.emulated (launched c Registers.commandChannel bus), settings, staging⟩ := by
  refine launch_eq c bus (by decide) fun c => ?_
  unfold Chip.writeRegister
  rw [if_pos (by decide), if_neg (by decide), if_pos rfl]
  rfl

variable {first stop : Nat}

theorem confined_launched (c : Chip) (bus : Nat) (h4 : channel < 4) :
    c.Confined channel first stop (launched c channel bus) :=
  (c.confined_setRegister _ (.inr rfl) h4).trans
    (Chip.confined_setRegister _ _ (.inl rfl) h4)

theorem done_launched (c : Chip) (bus : Nat) (h4 : channel < 4) (k : Nat) :
    (launched c channel bus).done k = c.done k := by
  rw [launched, Chip.done_setRegister _ _ (Chip.dmaControl_ne h4),
    Chip.done_setRegister _ _ Chip.dmaDescriptor_ne]

theorem descriptor_launched (c : Chip) (channel bus : Nat) :
    (launched c channel bus).registers.read (Registers.dmaDescriptor channel) = UInt32.ofNat bus := by
  rw [launched, Chip.registers_setRegister, if_neg, Chip.registers_setRegister, if_pos rfl]
  simp only [Registers.dmaControl, Registers.dmaDescriptor]
  omega

/-! ### The whole exchange -/

theorem length_padded {words : List UInt32} {length : Nat} (h : words.length ≤ length) :
    (padded words length).length = length := by
  rw [padded, List.length_append, List.length_replicate]
  omega

theorem length_staged {command payload : List UInt32} (hc : command.length ≤ commandWordsMax)
    (hp : payload.length ≤ payloadWordsMax) : (staged command payload).length = stagedWords := by
  rw [staged, List.length_append, List.length_append, length_padded hc, length_padded hp]
  rfl

/-- The chip once an exchange is staged and the command channel is pointed at it. -/
def readied (c : Chip) (command payload : List UInt32) : Chip :=
  launched ((c.setPool (c.pool.putWords 0 (staged command payload))).cleared
    Registers.commandChannel) Registers.commandChannel c.poolBase

/-- A chip that has answered an exchange. -/
def answered (c : Chip) (command payload : List UInt32) : Chip :=
  ({ readied c command payload with
      memory := (c.outcome command payload).chip.memory
      pool := (readied c command payload).pool.putWords (4 * commandWordsMax)
        ((c.outcome command payload).payload ++ [(c.outcome command payload).status])
    } : Chip).complete Registers.commandChannel

section

variable (c : Chip) {command payload : List UInt32}

theorem confined_readied (hc : command.length ≤ commandWordsMax)
    (hp : payload.length ≤ payloadWordsMax) :
    c.Confined Registers.commandChannel 0 (4 * stagedWords) (readied c command payload) := by
  have hstaged : 0 + 4 * (staged command payload).length ≤ 4 * stagedWords :=
    Nat.le_of_eq (by rw [length_staged hc hp, Nat.zero_add])
  exact ((c.confined_putWords (Nat.zero_le 0) hstaged).trans
    (Chip.confined_cleared _ (by decide))).trans (confined_launched _ _ (by decide))

theorem done_readied (command payload : List UInt32) :
    (readied c command payload).done Registers.commandChannel = false := by
  rw [readied, done_launched _ _ (by decide), Chip.done_cleared _ (by decide), decide_eq_true rfl,
    Bool.not_true, Bool.and_false]

/-- The chip executes what was staged. -/
theorem runStaged_readied (hc : command.length ≤ commandWordsMax)
    (hp : payload.length ≤ payloadWordsMax) (hs : reservedBytes ≤ c.pool.size)
    (hb : c.poolBase < 2 ^ 32) :
    (readied c command payload).runStaged = .ok (answered c command payload) := by
  have hpool : (readied c command payload).pool = c.pool.putWords 0 (staged command payload) := rfl
  have hwords := c.pool.getWords_putWords_self 0 (staged command payload)
  rw [length_staged hc hp] at hwords
  have hrun : (readied c command payload).runStaged = _ := Chip.runStaged_eq (length_padded hc)
    (length_padded hp) hb (Nat.le_trans (by decide) hs) (descriptor_launched _ _ _)
    (hpool ▸ hwords)
  have hfailing : (readied c command payload).failing = c.failing := rfl
  have hmemory : (readied c command payload).memory = c.memory := rfl
  have hexecute := Chip.execute_congr hfailing hmemory (padded command commandWordsMax)
    (padded payload payloadWordsMax)
  rw [hrun, hexecute]
  rfl

theorem length_outcome (command : List UInt32) (hp : payload.length ≤ payloadWordsMax) :
    (c.outcome command payload).payload.length = payloadWordsMax := by
  rw [Chip.outcome, Chip.length_execute, length_padded hp]

theorem exchanged_answered (hc : command.length ≤ commandWordsMax)
    (hp : payload.length ≤ payloadWordsMax) :
    c.Exchanged (c.outcome command payload).chip.memory (answered c command payload) where
  toConfined := by
    have hput : 4 * commandWordsMax + 4 * ((c.outcome command payload).payload ++
        [(c.outcome command payload).status]).length ≤ 4 * stagedWords := by
      rw [List.length_append, length_outcome c command hp]
      exact (by decide : 4 * commandWordsMax + 4 * (payloadWordsMax + 1) ≤ 4 * stagedWords)
    exact ((confined_readied c hc hp).trans
      (((readied c command payload).confined_putWords (Nat.zero_le _) hput).setMemory
        (c.outcome command payload).chip.memory c.sent)).trans
      (Chip.confined_complete _ (by decide))
  memory := Chip.complete_memory _ _
  sent := Chip.complete_sent _ _

theorem done_answered (command payload : List UInt32) :
    (answered c command payload).done Registers.commandChannel = !c.stalled := by
  have hdone := done_readied c command payload
  rw [answered, Chip.done_complete _ (by decide)]
  change ((readied c command payload).done Registers.commandChannel || !c.stalled) = _
  rw [hdone, Bool.false_or]

/-- The processor finds the status and the payload of the command where it looks for them. -/
theorem getWords_answered (command : List UInt32) (hp : payload.length ≤ payloadWordsMax) :
    ((answered c command payload).pool.getWords 0 stagedWords)[
        commandWordsMax + payloadWordsMax]?.getD 0 = (c.outcome command payload).status ∧
      (((answered c command payload).pool.getWords 0 stagedWords).drop commandWordsMax).take
        payload.length = (c.outcome command payload).payload.take payload.length := by
  let answer := (c.outcome command payload).payload ++ [(c.outcome command payload).status]
  let before := (answered c command payload).pool.getWords 0 commandWordsMax
  have houtcome := length_outcome c command hp
  have hanswer : answer.length = payloadWordsMax + 1 := by
    rw [List.length_append, houtcome]
    rfl
  have hbefore : before.length = commandWordsMax := DmaRegion.length_getWords _ _ _
  have hpool : (answered c command payload).pool =
      (readied c command payload).pool.putWords (4 * commandWordsMax) answer :=
    Chip.complete_pool _ _
  have hself := (readied c command payload).pool.getWords_putWords_self (4 * commandWordsMax) answer
  rw [hanswer, ← hpool] at hself
  have hwords : (answered c command payload).pool.getWords 0 stagedWords = before ++ answer := by
    rw [stagedWords, Nat.add_assoc, DmaRegion.getWords_add, Nat.zero_add, hself]
  rw [hwords, List.drop_left' hbefore, List.getElem?_append_right (by omega), hbefore,
    Nat.add_sub_cancel_left]
  refine ⟨?_, List.take_append_of_le_length (by omega)⟩
  rw [List.getElem?_append_right (by omega), houtcome, Nat.sub_self]
  rfl

end

/-- Starting the command channel, with the exchange staged, has the chip execute it. -/
theorem launch_readied (settings : ChannelSettings) (staging : Option Nat) (c : Chip)
    (command payload : List UInt32) :
    launch Registers.commandChannel c.poolBase ⟨.emulated ((c.setPool (c.pool.putWords 0
        (staged command payload))).cleared Registers.commandChannel), settings, staging⟩ =
      match (readied c command payload).runStaged with
      | .ok c' => .ok () ⟨.emulated c', settings, staging⟩
      | .error e => .error (.misuse e) ⟨.emulated (readied c command payload), settings, staging⟩ :=
  launch_command_eq settings staging _ c.poolBase

/-- A pool that lies beyond the addresses of 32 bits is taken for one that the chip does not have. -/
theorem exchangeStaged_beyond (settings : ChannelSettings) (staging : Option Nat) {c : Chip}
    {command payload : List UInt32} (hc : command.length ≤ commandWordsMax)
    (hp : payload.length ≤ payloadWordsMax) (hs : reservedBytes ≤ c.pool.size)
    (hb : 2 ^ 32 ≤ c.poolBase) :
    exchangeStaged c.poolBase command payload ⟨.emulated c, settings, staging⟩ =
      .error (.misuse (.outsidePool (c.poolBase % 2 ^ 32)))
        ⟨.emulated (readied c command payload), settings, staging⟩ := by
  have hstaged : 0 + 4 * (staged command payload).length ≤ c.pool.size := by
    rw [length_staged hc hp]
    exact Nat.le_trans (by decide) hs
  have hlaunch := launch_readied settings staging c command payload
  have hbeyond : 2 ^ 32 ≤ (readied c command payload).poolBase := hb
  have hdescriptor : (readied c command payload).registers.read
      (Registers.dmaDescriptor Registers.commandChannel) = UInt32.ofNat c.poolBase :=
    descriptor_launched _ _ _
  rw [Chip.runStaged_beyond hbeyond, hdescriptor, UInt32.toNat_ofNat'] at hlaunch
  unfold exchangeStaged
  rw [Operation.bind_ok (onDevice_ok (Device.writePoolWords_ok hstaged)),
    Operation.bind_ok (clearDone_eq _ _)]
  exact Operation.bind_error hlaunch

/-- An exchange through the pool. -/
theorem exchangeStaged_ends (settings : ChannelSettings) (staging : Option Nat) (c : Chip)
    {command payload : List UInt32} (hc : command.length ≤ commandWordsMax)
    (hp : payload.length ≤ payloadWordsMax) (hs : reservedBytes ≤ c.pool.size) :
    Ends (exchangeStaged c.poolBase command payload) ⟨.emulated c, settings, staging⟩
      (fun answer ch' => c.poolBase < 2 ^ 32 ∧ c.stalled = false ∧
        answer = ((c.outcome command payload).status,
          (c.outcome command payload).payload.take payload.length) ∧
        ∃ c' : Chip, ch' = ⟨.emulated c', settings, staging⟩ ∧
          c.Exchanged (c.outcome command payload).chip.memory c')
      (fun _ ch' => (2 ^ 32 ≤ c.poolBase ∨ c.stalled = true) ∧
        ∃ c' : Chip, ch' = ⟨.emulated c', settings, staging⟩ ∧ c.Alike c' ∧
          c'.memory = if c.poolBase < 2 ^ 32 then (c.outcome command payload).chip.memory
            else c.memory) := by
  by_cases hb : c.poolBase < 2 ^ 32
  · have hstaged : 0 + 4 * (staged command payload).length ≤ c.pool.size := by
      rw [length_staged hc hp]
      exact Nat.le_trans (by decide) hs
    have hlaunch := launch_readied settings staging c command payload
    have hanswered := exchanged_answered c hc hp
    have hawait := awaitDone_eq settings staging (answered c command payload)
      Registers.commandChannel "schan"
    rw [runStaged_readied c hc hp hs hb] at hlaunch
    rw [done_answered] at hawait
    unfold exchangeStaged
    refine Ends.of_eq ?_ (Operation.bind_ok (onDevice_ok (Device.writePoolWords_ok hstaged)))
    refine Ends.of_eq ?_ (Operation.bind_ok (clearDone_eq _ _))
    refine Ends.of_eq ?_ (Operation.bind_ok hlaunch)
    cases hst : c.stalled with
    | true =>
        rw [hst] at hawait
        refine Ends.bind (Operation.ends_error hawait
          ⟨.inr rfl, _, rfl, hanswered.toAlike, ?_⟩)
        rw [if_pos hb]
        exact hanswered.memory
    | false =>
        rw [hst] at hawait
        have hsize : 0 + 4 * stagedWords ≤ ((answered c command payload).setRegister
            (Registers.dmaControl Registers.commandChannel) 0).pool.size := by
          change _ ≤ (answered c command payload).pool.size
          rw [hanswered.poolSize]
          exact Nat.le_trans (by decide) hs
        obtain ⟨hstatus, hpayload⟩ := getWords_answered c command hp
        refine Ends.of_eq ?_ (Operation.bind_ok hawait)
        refine Ends.of_eq ?_ (Operation.bind_ok (halt_eq _ (by decide)))
        refine Ends.of_eq ?_ (Operation.bind_ok (onDevice_ok (Device.readPoolWords_ok hsize)))
        exact Operation.ends_pure ⟨hb, rfl, Prod.ext hstatus hpayload, _, rfl, hanswered.halted⟩
  · have hbeyond : 2 ^ 32 ≤ c.poolBase := Nat.le_of_not_lt hb
    refine Operation.ends_error (exchangeStaged_beyond settings staging hc hp hs hbeyond)
      ⟨.inl hbeyond, _, rfl, (confined_readied c hc hp).toAlike, ?_⟩
    rw [if_neg hb]
    rfl

end Channel

end ControlPlane
