import ControlPlane.Proofs.Device.Exchanges

/-! # Transfers

A transfer is an operation at an address of the chip's memory, with the words that are sent along and
the number of words that are wanted back.  A channel carries it through the pool or through the driver.

* **Commands.**  `execute_write` and `execute_read` say what the command of a transfer does, whatever
  a channel puts after it and after its payload.
* **Either mode.**  `Transfer.run_served`: on a chip that answers, a transfer gives the reply and leaves
  the memory that `reply` and `leaves` tell from the chip alone, in either mode.
* **The modes agree.**  `runAll_agree` for channels over the same chip, in whatever modes they are, and
  `transfer_same_in_modes` for those that are opened over it. -/

namespace ControlPlane

open Operation (Ends)

/-! ### Commands -/

/-- An exchange has room for every command of a transfer. -/
theorem Command.encode_fits (op : Opcode) (address words : Nat) :
    (encode op address words).length ≠ 0 ∧ (encode op address words).length ≤ commandWordsMax :=
  (by decide : 2 ≠ 0 ∧ 2 ≤ commandWordsMax)

namespace Chip

variable {c c' : Chip} {address words : Nat}

/-- The status of a write. -/
def writeStatus (c : Chip) (address words : Nat) : UInt32 :=
  if c.refuses address words then refusedStatus else 0

/-- The memory after a write. -/
def memoryAfter (c : Chip) (address : Nat) (words : List UInt32) : Memory UInt32 :=
  if c.refuses address words.length then c.memory else (c.writeMemory address words).memory

theorem writeStatus_eq_zero_iff (c : Chip) (address words : Nat) :
    c.writeStatus address words = 0 ↔ c.refuses address words = false := by
  unfold writeStatus
  cases c.refuses address words <;> decide

theorem header?_append (op : Opcode) (address : Nat) (rest : List UInt32)
    (hw : words ≤ payloadWordsMax) :
    (Command.encode op address words ++ rest).head?.bind Command.header? = some (op, words) := by
  have h32 : words % 32 = words := by
    simp only [payloadWordsMax] at hw
    omega
  have hh := Command.header?_encode op address words
  rw [h32] at hh
  exact hh

theorem toNat_address (ha : address < 2 ^ 32) : (UInt32.ofNat address).toNat = address := by
  rw [UInt32.toNat_ofNat']
  omega

/-- A command to write, with anything after it and after the words that are written. -/
theorem execute_write (c : Chip) (rest : List UInt32) {payload : List UInt32}
    (ha : address < 2 ^ 32) (hw : words ≤ payloadWordsMax) (hp : words ≤ payload.length) :
    c.execute (Command.encode .write address words ++ rest) payload =
      ⟨c.writeStatus address words, payload,
        { c with memory := c.memoryAfter address (payload.take words) }⟩ := by
  have hsnd : (Command.encode .write address words ++ rest)[1]? = some (UInt32.ofNat address) := rfl
  have htake : (payload.take words).length = words := by
    rw [List.length_take]
    omega
  unfold execute
  simp only [header?_append .write address rest hw, hsnd, toNat_address ha, Nat.min_eq_left hp]
  cases hr : c.refuses address words <;> simp [writeStatus, memoryAfter, hr, htake, writeMemory]

/-- A command to read, with anything after it and after the words that are read. -/
theorem execute_read (c : Chip) (rest : List UInt32) {payload : List UInt32}
    (ha : address < 2 ^ 32) (hw : words ≤ payloadWordsMax) (hp : words ≤ payload.length) :
    c.execute (Command.encode .read address words ++ rest) payload =
      ⟨0, c.readMemory address words ++ payload.drop words, c⟩ := by
  have hsnd : (Command.encode .read address words ++ rest)[1]? = some (UInt32.ofNat address) := rfl
  unfold execute
  simp only [header?_append .read address rest hw, hsnd, toNat_address ha, Nat.min_eq_left hp]

/-- A write through the pool, with the zeros that are staged after it. -/
theorem outcome_write (c : Chip) {data : List UInt32} (ha : address < 2 ^ 32)
    (hw : data.length ≤ payloadWordsMax) :
    c.outcome (Command.encode .write address data.length) data =
      ⟨c.writeStatus address data.length, Channel.padded data payloadWordsMax,
        { c with memory := c.memoryAfter address data }⟩ := by
  have hlength : data.length ≤ (Channel.padded data payloadWordsMax).length := by
    rw [Channel.length_padded hw]
    exact hw
  have hdata : (Channel.padded data payloadWordsMax).take data.length = data := by
    rw [Channel.padded, List.take_left' rfl]
  rw [outcome, Channel.padded, c.execute_write _ ha hw hlength, hdata]

end Chip

/-! ### Either mode -/

namespace Channel

variable {ch : Channel} {c c' : Chip}

/-- A channel to an emulated chip that answers every exchange. -/
structure Serves (ch : Channel) (c : Chip) : Prop where
  device : ch.device = .emulated c
  unstalled : c.stalled = false
  staged : ch.settings.mode = .pool →
    ch.staging = some c.poolBase ∧ reservedBytes ≤ c.pool.size ∧ c.poolBase < 2 ^ 32

theorem Serves.of_alike (h : ch.Serves c) (hl : c.Alike c') :
    ({ ch with device := .emulated c' } : Channel).Serves c' where
  device := rfl
  unstalled := hl.stalled.trans h.unstalled
  staged hm := by
    rw [hl.poolBase, hl.poolSize]
    exact h.staged hm

/-- The memory of the chip behind a channel. -/
def memory (ch : Channel) : Memory UInt32 := (ch.device.chip?.getD default).memory

theorem Serves.memory_eq (h : ch.Serves c) : ch.memory = c.memory := by
  rw [memory, h.device]
  rfl

/-- Through the driver. -/
theorem exchange_driver (c : Chip) (settings : ChannelSettings) (staging : Option Nat)
    {command payload : List UInt32} (hm : settings.mode = .driver) (h0 : command.length ≠ 0)
    (hc : command.length ≤ commandWordsMax) (hp : payload.length ≤ payloadWordsMax) :
    exchange command payload ⟨.emulated c, settings, staging⟩ =
      if c.stalled then
        .error (.timeout "schan ioctl" 500) ⟨.emulated c, settings, staging⟩
      else
        .ok ((c.execute command payload).status, (c.execute command payload).payload)
          ⟨.emulated { c with memory := (c.execute command payload).chip.memory }, settings,
            staging⟩ := by
  have hcheck : Chip.checkCommand command.length payload.length = .ok () := by
    rw [Chip.checkCommand, if_neg (by omega), if_neg (by omega)]
  have hchip := c.execute_congr rfl rfl command payload
  simp only [exchange, hm, onDevice, Operation.focus, Device.runCommand, Device.onChip,
    Chip.runCommand, hcheck]
  by_cases hst : c.stalled = true
  · simp only [if_pos hst]
  · simp only [if_neg hst]
    rw [hchip]

/-- An exchange answers with the status and the payload of its command.  Which words a mode puts after
the command and after the payload is left open. -/
theorem exchange_served (h : ch.Serves c) {command payload : List UInt32} (h0 : command.length ≠ 0)
    (hc : command.length ≤ commandWordsMax) (hp : payload.length ≤ payloadWordsMax) :
    ∃ (rest extra : List UInt32) (ran : Chip.Execution) (c' : Chip),
      ran = c.execute (command ++ rest) (payload ++ extra) ∧
      exchange command payload ch =
        .ok (ran.status, ran.payload.take payload.length) { ch with device := .emulated c' } ∧
      c.Exchanged ran.chip.memory c' := by
  obtain ⟨_, settings, staging⟩ := ch
  obtain ⟨rfl, hst, hpool⟩ := h
  cases hm : settings.mode with
  | pool =>
      obtain ⟨rfl, hs, hb⟩ := hpool hm
      have hends := exchangeStaged_ends settings (some c.poolBase) c hc hp hs
      have hexchange : exchange command payload ⟨.emulated c, settings, some c.poolBase⟩ =
          exchangeStaged c.poolBase command payload ⟨.emulated c, settings, some c.poolBase⟩ := by
        simp only [exchange, hm]
      cases hop : exchangeStaged c.poolBase command payload
          ⟨.emulated c, settings, some c.poolBase⟩ with
      | ok answer ch' =>
          obtain ⟨-, -, rfl, c', rfl, hexchanged⟩ := hends.of_ok hop
          exact ⟨_, _, _, c', rfl, hexchange.trans hop, hexchanged⟩
      | error e ch' =>
          obtain ⟨hbeyond | hstalled, -⟩ := hends.of_error hop
          · omega
          · rw [hst] at hstalled
            cases hstalled
  | driver =>
      have hrun := exchange_driver c settings staging hm h0 hc hp
      have htake : (c.execute command payload).payload.take payload.length =
          (c.execute command payload).payload := by
        rw [List.take_of_length_le]
        exact Nat.le_of_eq (c.length_execute command payload)
      rw [if_neg (by simp [hst])] at hrun
      refine ⟨[], [], _, _, rfl, ?_, ⟨(c.confined_refl _ _ _).setMemory _ c.sent, rfl, rfl⟩⟩
      rw [List.append_nil, List.append_nil, htake]
      exact hrun

end Channel

/-- What is asked of a channel: an operation at an address, the words that are sent along, and how
many words of the answer are wanted. -/
structure Transfer where
  op : Opcode
  address : UInt32
  data : List UInt32
  answer : Nat

namespace Transfer

/-- The transfer over a channel. -/
def run (t : Transfer) : DeviceOperation Channel (List UInt32) :=
  Channel.transfer t.op t.address.toNat t.data t.answer

/-- Whether one exchange can carry a transfer. -/
def Fits (t : Transfer) : Prop := t.data.length ≤ payloadWordsMax ∧ t.answer ≤ payloadWordsMax

instance (t : Transfer) : Decidable t.Fits := inferInstanceAs (Decidable (_ ∧ _))

/-- What a transfer answers, told from the chip that it reaches. -/
def reply (t : Transfer) (c : Chip) : Except DeviceError (List UInt32) :=
  if t.Fits then
    match t.op with
    | .write =>
      if c.refuses t.address.toNat t.data.length then
        .error (.commandFailed Chip.refusedStatus.toNat)
      else
        .ok ((Channel.padded t.data t.answer).take t.answer)
    | .read => .ok (c.readMemory t.address.toNat t.answer)
  else
    .error (.misuse .exchangeLength)

/-- The memory that a transfer leaves. -/
def leaves (t : Transfer) (c : Chip) : Memory UInt32 :=
  if t.Fits then
    match t.op with
    | .write => c.memoryAfter t.address.toNat t.data
    | .read => c.memory
  else
    c.memory

/-- How many words a transfer moves. -/
def moves (t : Transfer) : Nat :=
  match t.op with
  | .write => t.data.length
  | .read => t.answer

/-- The payload of a transfer's exchange. -/
def payload (t : Transfer) : List UInt32 := Channel.padded t.data t.answer

theorem length_payload (t : Transfer) : t.payload.length = max t.data.length t.answer := by
  rw [payload, Channel.padded, List.length_append, List.length_replicate]
  omega

theorem Fits.moves_le {t : Transfer} (h : t.Fits) : t.moves ≤ payloadWordsMax := by
  unfold moves
  cases t.op with
  | write => exact h.1
  | read => exact h.2

theorem moves_le (t : Transfer) : t.moves ≤ t.payload.length := by
  rw [length_payload, moves]
  cases t.op with
  | write => exact Nat.le_max_left _ _
  | read => exact Nat.le_max_right _ _

/-- What the command of a transfer comes to, with anything after it and after its payload. -/
theorem execute_eq (t : Transfer) (c : Chip) (h : t.Fits) (rest extra : List UInt32) :
    ∃ status payload, c.execute (Command.encode t.op t.address.toNat t.moves ++ rest)
        (t.payload ++ extra) = ⟨status, payload, { c with memory := t.leaves c }⟩ ∧
      t.reply c = if status = 0 then .ok ((payload.take t.payload.length).take t.answer)
        else .error (.commandFailed status.toNat) := by
  have hlength : t.moves ≤ (t.payload ++ extra).length := by
    rw [List.length_append]
    exact Nat.le_add_right_of_le t.moves_le
  have hmoves := h.moves_le
  rw [reply, leaves, if_pos h, if_pos h]
  unfold moves at hlength hmoves ⊢
  cases hop : t.op with
  | write =>
      simp only [hop] at hlength hmoves
      have hdata : (t.payload ++ extra).take t.data.length = t.data := by
        rw [payload, Channel.padded, List.append_assoc, List.take_left' rfl]
      refine ⟨c.writeStatus t.address.toNat t.data.length, t.payload ++ extra, ?_, ?_⟩
      · rw [c.execute_write rest t.address.toNat_lt hmoves hlength, hdata]
      · rw [List.take_left' rfl]
        dsimp only
        cases hr : c.refuses t.address.toNat t.data.length with
        | true => rw [Chip.writeStatus, hr, if_pos rfl, if_pos rfl, if_neg (by decide)]
        | false =>
            rw [Chip.writeStatus, hr, if_neg Bool.false_ne_true, if_neg Bool.false_ne_true, if_pos rfl]
            rfl
  | read =>
      simp only [hop] at hlength hmoves
      have hread : (c.readMemory t.address.toNat t.answer).length = t.answer := by
        rw [Chip.readMemory, Memory.readAll, List.length_map, length_wordAddresses]
      refine ⟨0, c.readMemory t.address.toNat t.answer ++ (t.payload ++ extra).drop t.answer,
        c.execute_read rest t.address.toNat_lt hmoves hlength, ?_⟩
      rw [if_pos rfl, List.take_take, length_payload, Nat.min_eq_left (Nat.le_max_right _ _),
        List.take_left' hread]

variable {ch : Channel} {c : Chip}

/-- A transfer over a channel that serves. -/
theorem run_served (t : Transfer) (h : ch.Serves c) :
    ∃ c', Operation.answer t.run ch = t.reply c ∧
      Operation.after t.run ch = { ch with device := .emulated c' } ∧
      c.Exchanged (t.leaves c) c' := by
  by_cases hfits : t.Fits
  · obtain ⟨hsome, hcommand⟩ := Command.encode_fits t.op t.address.toNat t.moves
    have hpayload : t.payload.length ≤ payloadWordsMax := by
      rw [length_payload]
      exact Nat.max_le.mpr hfits
    obtain ⟨rest, extra, ran, c', hran, hexchange, hexchanged⟩ :=
      Channel.exchange_served h hsome hcommand hpayload
    obtain ⟨status, payload, hexecute, hreply⟩ := t.execute_eq c hfits rest extra
    rw [hexecute] at hran
    cases hran
    have hrun : t.run ch = (do
        Operation.require (status = 0) (.commandFailed status.toNat)
        return (payload.take t.payload.length).take t.answer :
          DeviceOperation Channel (List UInt32)) { ch with device := .emulated c' } := by
      unfold run Channel.transfer
      exact (Operation.bind_ok (Operation.require_ok hfits)).trans (Operation.bind_ok hexchange)
    rw [Operation.answer, Operation.after, hrun, hreply]
    by_cases hs : status = 0
    · rw [Operation.bind_ok (Operation.require_ok hs), if_pos hs]
      exact ⟨c', rfl, rfl, hexchanged⟩
    · rw [Operation.bind_error (Operation.require_error hs), if_neg hs]
      exact ⟨c', rfl, rfl, hexchanged⟩
  · have hrun : t.run ch = .error (.misuse .exchangeLength) ch :=
      Operation.bind_error (Operation.require_error hfits)
    rw [Operation.answer, Operation.after, hrun, reply, leaves, if_neg hfits, if_neg hfits]
    refine ⟨c, rfl, ?_, c.confined_refl _ _ _, rfl, rfl⟩
    rw [← h.device]

/-! ### What a transfer does -/

/-- The four ends that a transfer can come to. -/
theorem reply_cases (t : Transfer) (c : Chip) :
    (¬ t.Fits ∧ t.reply c = .error (.misuse .exchangeLength) ∧ t.leaves c = c.memory) ∨
    (t.Fits ∧ t.op = .read ∧ t.reply c = .ok (c.readMemory t.address.toNat t.answer) ∧
      t.leaves c = c.memory) ∨
    (t.Fits ∧ t.op = .write ∧ t.reply c = .error (.commandFailed Chip.refusedStatus.toNat) ∧
      t.leaves c = c.memory) ∨
    (t.Fits ∧ t.op = .write ∧ t.reply c = .ok (t.payload.take t.answer) ∧
      t.leaves c = c.memory.writeAll (wordWrites t.address.toNat t.data)) := by
  unfold reply leaves
  by_cases hfits : t.Fits
  · rw [if_pos hfits, if_pos hfits]
    cases hop : t.op with
    | read => exact .inr (.inl ⟨hfits, rfl, rfl, rfl⟩)
    | write =>
        dsimp only [Chip.memoryAfter]
        cases c.refuses t.address.toNat t.data.length with
        | true => exact .inr (.inr (.inl ⟨hfits, rfl, rfl, rfl⟩))
        | false => exact .inr (.inr (.inr ⟨hfits, rfl, rfl, rfl⟩))
  · rw [if_neg hfits, if_neg hfits]
    exact .inl ⟨hfits, rfl, rfl⟩

/-- What a transfer of a chip with memory `m` answers, and the memory `m'` that it leaves. -/
structure Does (t : Transfer) (m : Memory UInt32) (answer : Except DeviceError (List UInt32))
    (m' : Memory UInt32) : Prop where
  unfit : ¬ t.Fits → answer = .error (.misuse .exchangeLength)
  fit : t.Fits → (∃ payload, answer = .ok payload ∧ payload.length = t.answer) ∨
    t.op = .write ∧ ∃ status, answer = .error (.commandFailed status)
  failed : ∀ e, answer = .error e → m' = m
  read : t.op = .read → m' = m
  found : t.op = .read → ∀ payload, answer = .ok payload →
    payload = m.readAll (wordAddresses t.address.toNat t.answer)
  written : t.op = .write → ∀ payload, answer = .ok payload →
    m'.readAll (wordAddresses t.address.toNat t.data.length) = t.data
  spared : t.op = .write → ∀ a, a ∉ wordAddresses t.address.toNat t.data.length →
    m'.read a = m.read a

theorem does (t : Transfer) (c : Chip) : t.Does c.memory (t.reply c) (t.leaves c) := by
  obtain ⟨hfits, hreply, hleaves⟩ | ⟨hfits, hop, hreply, hleaves⟩ | ⟨hfits, hop, hreply, hleaves⟩ |
    ⟨hfits, hop, hreply, hleaves⟩ := t.reply_cases c
  · rw [hreply, hleaves]
    exact ⟨fun _ => rfl, fun h => (hfits h).elim, fun _ _ => rfl, fun _ => rfl,
      fun _ _ h => (by cases h), fun _ _ h => (by cases h),
      fun _ _ _ => rfl⟩
  · have hlength : (c.readMemory t.address.toNat t.answer).length = t.answer := by
      rw [Chip.readMemory, Memory.readAll, List.length_map, length_wordAddresses]
    rw [hreply, hleaves]
    refine ⟨fun h => (h hfits).elim, fun _ => .inl ⟨_, rfl, hlength⟩, fun _ _ => rfl, fun _ => rfl,
      fun _ payload h => (Except.ok.inj h).symm, fun h => ?_, fun _ _ _ => rfl⟩
    rw [hop] at h
    cases h
  · rw [hreply, hleaves]
    exact ⟨fun h => (h hfits).elim, fun _ => .inr ⟨hop, _, rfl⟩, fun _ _ => rfl, fun _ => rfl,
      fun _ _ h => (by cases h), fun _ _ h => (by cases h), fun _ _ _ => rfl⟩
  · have hlength : (t.payload.take t.answer).length = t.answer := by
      rw [List.length_take, length_payload]
      exact Nat.min_eq_left (Nat.le_max_right _ _)
    have hread : t.op ≠ .read := by
      rw [hop]
      decide
    rw [hreply, hleaves]
    refine ⟨fun h => (h hfits).elim, fun _ => .inl ⟨_, rfl, hlength⟩, fun _ h => (by cases h),
      fun h => (hread h).elim, fun h => (hread h).elim, fun _ _ _ => ?_, fun _ a ha => ?_⟩
    · exact c.memory.readAll_writeAll_words _ (Nat.le_trans hfits.1 (by decide))
    · refine Memory.read_writeAll_of_notMem _ _ _ fun w hw hwa => ha ?_
      rw [← hwa]
      exact (List.of_mem_zip hw).1

/-- A transfer tells chips apart only by their memory and their faults. -/
theorem reply_congr {c c' : Chip} (t : Transfer) (hm : c'.memory = c.memory)
    (hf : c'.failing = c.failing) : t.reply c' = t.reply c ∧ t.leaves c' = t.leaves c := by
  have hr : c'.refuses = c.refuses := by
    funext address words
    rw [Chip.refuses, Chip.refuses, hf]
  unfold reply leaves Chip.memoryAfter Chip.readMemory Chip.writeMemory
  rw [hm, hr]
  exact ⟨rfl, rfl⟩

/-! ### The modes agree -/

/-- Transfers one after another: what they answer, and the channel afterwards. -/
def runAll : List Transfer → Channel → List (Except DeviceError (List UInt32)) × Channel
  | [], ch => ([], ch)
  | t :: ts, ch =>
    let rest := runAll ts (Operation.after t.run ch)
    (Operation.answer t.run ch :: rest.1, rest.2)

theorem runAll_concat (ts : List Transfer) (t : Transfer) (ch : Channel) :
    (runAll (ts ++ [t]) ch).2 = Operation.after t.run (runAll ts ch).2 := by
  induction ts generalizing ch with
  | nil => rfl
  | cons t' ts ih => exact ih _

/-- Two channels that serve chips with the same memory and faults give the same answers and leave the
same memory, in whatever modes they are. -/
theorem runAll_agree (ts : List Transfer) {ch ch' : Channel} {c c' : Chip} (h : ch.Serves c)
    (h' : ch'.Serves c') (hm : c'.memory = c.memory) (hf : c'.failing = c.failing) :
    (runAll ts ch').1 = (runAll ts ch).1 ∧ (runAll ts ch').2.memory = (runAll ts ch).2.memory := by
  induction ts generalizing ch ch' c c' with
  | nil => exact ⟨rfl, by rw [runAll, runAll, h.memory_eq, h'.memory_eq, hm]⟩
  | cons t ts ih =>
      obtain ⟨hreply, hleaves⟩ := t.reply_congr hm hf
      obtain ⟨d, hanswer, hafter, hd⟩ := t.run_served h
      obtain ⟨d', hanswer', hafter', hd'⟩ := t.run_served h'
      have hmemory : d'.memory = d.memory := by rw [hd.memory, hd'.memory, hleaves]
      have hfailing : d'.failing = d.failing := by rw [hd.failing, hd'.failing, hf]
      obtain ⟨hanswers, hrest⟩ := ih (h.of_alike hd.toAlike) (h'.of_alike hd'.toAlike) hmemory hfailing
      rw [runAll, runAll, hafter, hafter', hanswer, hanswer', hreply]
      exact ⟨congrArg (t.reply c :: ·) hanswers, hrest⟩

end Transfer

namespace Channel

section opening

variable {settings : ChannelSettings} {c : Chip}

theorem dmaInfo_eq (c : Chip) :
    Device.dmaInfo (.emulated c) = .ok ⟨c.poolBase, c.pool.size⟩ (.emulated c) := rfl

/-- A channel can be opened over a chip whose pool is large enough. -/
theorem open_ok (settings : ChannelSettings) (hs : reservedBytes ≤ c.pool.size) :
    ∃ ch, open? settings (.emulated c) = .ok ch := by
  cases hm : settings.mode with
  | driver =>
      refine ⟨⟨.emulated c, settings, none⟩, ?_⟩
      simp only [open?, connect, hm]
      rfl
  | pool =>
      refine ⟨⟨.emulated c, settings, some c.poolBase⟩, ?_⟩
      simp only [open?, connect, hm]
      rw [Operation.bind_ok (dmaInfo_eq c), Operation.bind_ok (Operation.require_ok hs)]
      rfl

/-- Opening a channel changes nothing.  A pool that exchanges are to go through has been found large
enough. -/
theorem opened {ch : Channel} (h : open? settings (.emulated c) = .ok ch) :
    ch.device = .emulated c ∧ ch.settings = settings ∧
      (settings.mode = .pool → ch.staging = some c.poolBase ∧ reservedBytes ≤ c.pool.size) := by
  unfold open? connect at h
  cases hm : settings.mode with
  | driver =>
      simp only [hm] at h
      cases h
      exact ⟨rfl, rfl, nofun⟩
  | pool =>
      simp only [hm] at h
      rw [Operation.bind_ok (dmaInfo_eq c)] at h
      by_cases hs : reservedBytes ≤ c.pool.size
      · rw [Operation.bind_ok (Operation.require_ok hs)] at h
        cases h
        exact ⟨rfl, rfl, fun _ => ⟨rfl, hs⟩⟩
      · rw [Operation.bind_error (Operation.require_error hs)] at h
        cases h

/-- A channel that is opened over a chip that answers and whose pool is within reach. -/
theorem serves_of_open {ch : Channel} (h : open? settings (.emulated c) = .ok ch)
    (hst : c.stalled = false) (hb : c.poolBase < 2 ^ 32) : ch.Serves c := by
  obtain ⟨hdevice, hsettings, hstaging⟩ := opened h
  refine ⟨hdevice, hst, fun hm => ?_⟩
  rw [hsettings] at hm
  obtain ⟨hstaged, hs⟩ := hstaging hm
  exact ⟨hstaged, hs, hb⟩

end opening

/-- What was written is read back, if the board's chip can be read. -/
theorem readMemory_of_written {ch ch' : Channel} {c : Chip} (h : ch.Serves c) {address : UInt32}
    {data : List UInt32} (hw : writeMemory address.toNat data ch = .ok () ch') :
    Operation.answer (readMemory address.toNat data.length) ch' =
      if ch.settings.readable then .ok data else .error .unsupported := by
  let write : Transfer := ⟨.write, address, data, 0⟩
  let read : Transfer := ⟨.read, address, [], data.length⟩
  obtain ⟨payload, hrun⟩ : ∃ payload, write.run ch = .ok payload ch' := by
    cases hop : write.run ch with
    | ok payload ch'' =>
        cases hw.symm.trans (Operation.bind_ok hop)
        exact ⟨payload, rfl⟩
    | error e ch'' => cases hw.symm.trans (Operation.bind_error hop)
  obtain ⟨c', hanswer, hafter, hexchanged⟩ := write.run_served h
  have hreply : .ok payload = write.reply c := by
    rw [← hanswer, Operation.answer, hrun]
  have hch' : ch' = { ch with device := .emulated c' } := by
    rw [← hafter, Operation.after, hrun]
  have hdoes := write.does c
  rw [← hreply, ← hexchanged.memory] at hdoes
  have hstored : c'.readMemory address.toNat data.length = data := hdoes.written rfl payload rfl
  have hwrite : write.Fits := by
    refine Decidable.byContradiction fun hn => ?_
    cases hdoes.unfit hn
  have hread : read.Fits := ⟨Nat.zero_le _, hwrite.1⟩
  obtain ⟨_, hfound, -, -⟩ := read.run_served (h.of_alike hexchanged.toAlike)
  rw [Transfer.reply, if_pos hread, ← hch'] at hfound
  have hsettings : ch'.settings = ch.settings := by rw [hch']
  have hget : (get : DeviceOperation Channel Channel) ch' = .ok ch' ch' := rfl
  unfold readMemory
  rw [Operation.answer, Operation.bind_ok hget]
  by_cases hr : ch'.settings.readable = true
  · rw [Operation.bind_ok (Operation.require_ok hr), ← hsettings, if_pos hr]
    exact hfound.trans (congrArg _ hstored)
  · rw [Operation.bind_error (Operation.require_error hr), ← hsettings, if_neg hr]

/-- The pool and the driver are the same transport: over a chip that answers and whose pool is within
reach, a transfer gives the same answer and leaves the same memory in both modes, and so do transfers one
after another. -/
theorem transfer_same_in_modes (settings : ChannelSettings) (c : Chip) (hst : c.stalled = false)
    (hs : reservedBytes ≤ c.pool.size) (hb : c.poolBase + c.pool.size ≤ 2 ^ 32) :
    (∀ t : Transfer, ∃ answer m', t.Does c.memory answer m' ∧
      ∀ mode, ∃ ch, open? { settings with mode := mode } (.emulated c) = .ok ch ∧
        Operation.answer t.run ch = answer ∧ (Operation.after t.run ch).memory = m') ∧
    (∀ mode, ∃ ch, open? { settings with mode := mode } (.emulated c) = .ok ch ∧
      ∀ (address : UInt32) (data : List UInt32) (ch' : Channel),
        writeMemory address.toNat data ch = .ok () ch' →
          Operation.answer (readMemory address.toNat data.length) ch' =
            if settings.readable then .ok data else .error .unsupported) ∧
    ∀ ts : List Transfer, ∃ answers m',
      ∀ mode, ∃ ch, open? { settings with mode := mode } (.emulated c) = .ok ch ∧
        (Transfer.runAll ts ch).1 = answers ∧ (Transfer.runAll ts ch).2.memory = m' := by
  have hreach : c.poolBase < 2 ^ 32 := by
    have : 0 < reservedBytes := by decide
    omega
  have hopened (mode : ChannelMode) : ∃ ch, open? { settings with mode := mode } (.emulated c) = .ok ch ∧
      ch.Serves c ∧ ch.settings.readable = settings.readable := by
    obtain ⟨ch, hopen⟩ := open_ok { settings with mode := mode } hs
    exact ⟨ch, hopen, serves_of_open hopen hst hreach, by rw [(opened hopen).2.1]⟩
  refine ⟨fun t => ⟨t.reply c, t.leaves c, t.does c, fun mode => ?_⟩, fun mode => ?_, fun ts => ?_⟩
  · obtain ⟨ch, hopen, hserves, -⟩ := hopened mode
    obtain ⟨c', hanswer, hafter, hexchanged⟩ := t.run_served hserves
    refine ⟨ch, hopen, hanswer, ?_⟩
    rw [hafter]
    exact hexchanged.memory
  · obtain ⟨ch, hopen, hserves, hreadable⟩ := hopened mode
    refine ⟨ch, hopen, fun address data ch' hw => ?_⟩
    rw [readMemory_of_written hserves hw, hreadable]
  · obtain ⟨ch, -, hserves, -⟩ := hopened .pool
    refine ⟨(Transfer.runAll ts ch).1, (Transfer.runAll ts ch).2.memory, fun mode => ?_⟩
    obtain ⟨ch', hopen', hserves', -⟩ := hopened mode
    exact ⟨ch', hopen', Transfer.runAll_agree ts hserves hserves' rfl rfl⟩

theorem transfer_same_in_modes_failing :
    let c : Chip := { Chip.fresh 0x10000000 4096 with failing := [(0x7120000, 0x7120010)] }
    let t : Transfer := ⟨.write, 0x7120008, [1, 2, 3], 0⟩
    c.stalled = false ∧ reservedBytes ≤ c.pool.size ∧ c.poolBase + c.pool.size ≤ 2 ^ 32 ∧
      ∃ answer m', t.Does c.memory answer m' ∧
        ∀ mode, ∃ ch,
          open? { ChannelSettings.defaults with mode := mode } (.emulated c) = .ok ch ∧
            Operation.answer t.run ch = answer ∧ (Operation.after t.run ch).memory = m' :=
  ⟨rfl, by decide, by decide,
    (transfer_same_in_modes ChannelSettings.defaults
      { Chip.fresh 0x10000000 4096 with failing := [(0x7120000, 0x7120010)] } rfl (by decide)
      (by decide)).1 _⟩

end Channel

end ControlPlane
