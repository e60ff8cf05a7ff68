import ControlPlane.Proofs.Device.Transfers
import ControlPlane.Proofs.Packet.Layout

/-! # Which transports can be used

A channel through the pool tells the chip by a register of 32 bits where an exchange is staged.  The chip
finds nothing there if the pool begins at a bus address beyond those; yet a channel opens over any pool that
is large enough.

* **In reach.**  A channel that serves goes on serving, so that every write is made and reported
  (`Channel.write_served`).
* **Out of reach.**  Every transfer fails and leaves the chip's memory alone (`Transfer.run_stranded`), from
  the first one on.
* `Channel.usable_iff_reached`: which of both it is shows in the bus address alone.  Buffers for frames are
  refused over just such a pool. -/

namespace ControlPlane

namespace Transfer

/-- What every transfer keeps holds after any number of them. -/
theorem runAll_holds {P : Channel → Prop} (hstep : ∀ t ch, P ch → P (Operation.after (run t) ch))
    (ts : List Transfer) {ch : Channel} (h : P ch) : P (runAll ts ch).2 := by
  induction ts generalizing ch with
  | nil => exact h
  | cons t ts ih => exact ih (hstep t ch h)

end Transfer

namespace Channel

variable {ch : Channel} {c : Chip}

/-! ### In reach -/

/-- A channel to a chip without faults writes what it is given. -/
theorem write_served (h : ch.Serves c) (hf : c.failing = []) (address : UInt32) {data : List UInt32}
    (hd : data.length ≤ payloadWordsMax) :
    ∃ ch', writeMemory address.toNat data ch = .ok () ch' ∧
      ch'.memory.readAll (wordAddresses address.toNat data.length) = data := by
  let write : Transfer := ⟨.write, address, data, 0⟩
  have hfits : write.Fits := ⟨hd, Nat.zero_le _⟩
  have hrefuses : c.refuses address.toNat data.length = false := by
    rw [Chip.refuses, hf]
    rfl
  obtain ⟨c', hanswer, hafter, hexchanged⟩ := write.run_served h
  have hreply : write.reply c = .ok [] := by
    simp only [Transfer.reply, hfits, if_true, write, hrefuses, Bool.false_eq_true, if_false,
      List.take_zero]
  rw [hreply] at hanswer
  have hrun : write.run ch = .ok [] { ch with device := .emulated c' } := by
    cases hop : write.run ch with
    | ok payload ch' =>
        rw [Operation.answer, hop] at hanswer
        rw [Operation.after, hop] at hafter
        rw [Except.ok.inj hanswer, show ch' = _ from hafter]
    | error e ch' =>
        rw [Operation.answer, hop] at hanswer
        cases hanswer
  refine ⟨_, Operation.bind_ok hrun, ?_⟩
  change c'.memory.readAll _ = data
  rw [hexchanged.memory]
  exact (write.does c).written rfl [] hreply

/-- A channel to an emulated chip without faults, whatever was transferred. -/
theorem runAll_served (h : ch.Serves c) (hf : c.failing = []) (ts : List Transfer) :
    ∃ c', (Transfer.runAll ts ch).2.Serves c' ∧ c'.failing = [] := by
  refine Transfer.runAll_holds (P := fun ch => ∃ c : Chip, ch.Serves c ∧ c.failing = []) ?_ ts
    ⟨c, h, hf⟩
  rintro t ch ⟨c, hserves, hnone⟩
  obtain ⟨c', -, hafter, hexchanged⟩ := t.run_served hserves
  rw [hafter]
  exact ⟨c', hserves.of_alike hexchanged.toAlike, hexchanged.failing.trans hnone⟩

/-! ### Out of reach -/

/-- A channel through a pool that the chip does not find. -/
structure Stranded (ch : Channel) (c : Chip) : Prop where
  device : ch.device = .emulated c
  mode : ch.settings.mode = .pool
  staging : ch.staging = some c.poolBase
  size : reservedBytes ≤ c.pool.size
  beyond : 2 ^ 32 ≤ c.poolBase

theorem Stranded.of_alike {c' : Chip} (h : ch.Stranded c) (hl : c.Alike c') :
    ({ ch with device := .emulated c' } : Channel).Stranded c' where
  device := rfl
  mode := h.mode
  staging := hl.poolBase ▸ h.staging
  size := hl.poolSize ▸ h.size
  beyond := hl.poolBase ▸ h.beyond

theorem stranded_of_open {settings : ChannelSettings} (hm : settings.mode = .pool)
    (h : open? settings (.emulated c) = .ok ch) (hb : 2 ^ 32 ≤ c.poolBase) : ch.Stranded c := by
  obtain ⟨hdevice, hsettings, hstaging⟩ := opened h
  obtain ⟨hstaged, hsize⟩ := hstaging hm
  exact ⟨hdevice, hsettings ▸ hm, hstaged, hsize, hb⟩

end Channel

/-- A transfer that a channel can carry goes astray. -/
theorem Transfer.run_stranded {ch : Channel} {c : Chip} (t : Transfer) (h : ch.Stranded c) (ht : t.Fits) :
    ∃ c', t.run ch = .error (.misuse (.outsidePool (c.poolBase % 2 ^ 32)))
        { ch with device := .emulated c' } ∧ c.Alike c' ∧ c'.memory = c.memory := by
  obtain ⟨device, settings, staging⟩ := ch
  obtain ⟨rfl, hmode, rfl, hsize, hbeyond⟩ := h
  change settings.mode = .pool at hmode
  obtain ⟨-, hcommand⟩ := Command.encode_fits t.op t.address.toNat t.moves
  have hpayload : t.payload.length ≤ payloadWordsMax := by
    rw [length_payload]
    exact Nat.max_le.mpr ht
  have hexchange : Channel.exchange (Command.encode t.op t.address.toNat t.moves) t.payload
      ⟨.emulated c, settings, some c.poolBase⟩ = .error (.misuse (.outsidePool (c.poolBase % 2 ^ 32)))
        ⟨.emulated (Channel.readied c (Command.encode t.op t.address.toNat t.moves) t.payload), settings,
          some c.poolBase⟩ := by
    simp only [Channel.exchange, hmode]
    exact Channel.exchangeStaged_beyond settings _ hcommand hpayload hsize hbeyond
  refine ⟨_, ?_, (Channel.confined_readied c hcommand hpayload).toAlike, rfl⟩
  unfold run Channel.transfer
  exact (Operation.bind_ok (Operation.require_ok ht)).trans (Operation.bind_error hexchange)

namespace Channel

variable {ch : Channel} {c : Chip}

/-- No transfer brings a pool into reach, or gets at the memory. -/
theorem runAll_stranded (h : ch.Stranded c) (ts : List Transfer) : ∃ c',
    (Transfer.runAll ts ch).2.Stranded c' ∧ c'.poolBase = c.poolBase ∧ c'.memory = c.memory := by
  refine Transfer.runAll_holds (P := fun ch => ∃ c' : Chip,
    ch.Stranded c' ∧ c'.poolBase = c.poolBase ∧ c'.memory = c.memory) ?_ ts ⟨c, h, rfl, rfl⟩
  rintro t ch ⟨c', hstranded, hbase, hmemory⟩
  by_cases ht : t.Fits
  · obtain ⟨c'', hrun, hlike, hsame⟩ := t.run_stranded hstranded ht
    rw [Operation.after, hrun]
    exact ⟨c'', hstranded.of_alike hlike, hlike.poolBase.trans hbase, hsame.trans hmemory⟩
  · have hrun : t.run ch = .error (.misuse .exchangeLength) ch :=
      Operation.bind_error (Operation.require_error ht)
    rw [Operation.after, hrun]
    exact ⟨c', hstranded, hbase, hmemory⟩

/-! ### Both -/

/-- Whatever was transferred before, words are written wherever they are sent. -/
def Usable (ch : Channel) : Prop :=
  ∀ (earlier : List Transfer) (address : UInt32) (data : List UInt32),
    1 ≤ data.length → data.length ≤ payloadWordsMax →
      ∃ ch', writeMemory address.toNat data (Transfer.runAll earlier ch).2 = .ok () ch' ∧
        ch'.memory.readAll (wordAddresses address.toNat data.length) = data

/-- Over a chip without faults, a channel that opens through the pool can be used exactly if the pool begins
within 32 bits.  Beyond, every transfer fails, the memory stays as it is, and no buffer can be cut. -/
theorem usable_iff_reached {settings : ChannelSettings} (hm : settings.mode = .pool)
    (hst : c.stalled = false) (hf : c.failing = []) (hopen : open? settings (.emulated c) = .ok ch) :
    (ch.Usable ↔ c.poolBase < 2 ^ 32) ∧
      (2 ^ 32 ≤ c.poolBase → ∀ (earlier : List Transfer) (t : Transfer), t.Fits →
        Operation.answer t.run (Transfer.runAll earlier ch).2 =
            .error (.misuse (.outsidePool (c.poolBase % 2 ^ 32))) ∧
          (Operation.after t.run (Transfer.runAll earlier ch).2).memory = c.memory) ∧
      (2 ^ 32 ≤ c.poolBase → ∀ (p : BufferPool) (size align : Nat), p.info.base = c.poolBase →
        0 < size → (Operation.answer (BufferPool.alloc size align) p).isOk = false) := by
  have hastray (hb : 2 ^ 32 ≤ c.poolBase) (earlier : List Transfer) (t : Transfer) (ht : t.Fits) :
      ∃ c', t.run (Transfer.runAll earlier ch).2 =
        .error (.misuse (.outsidePool (c.poolBase % 2 ^ 32)))
          { (Transfer.runAll earlier ch).2 with device := .emulated c' } ∧ c'.memory = c.memory := by
    obtain ⟨c', hstranded, hbase, hmemory⟩ := runAll_stranded (stranded_of_open hm hopen hb) earlier
    obtain ⟨c'', hrun, -, hsame⟩ := t.run_stranded hstranded ht
    rw [hbase] at hrun
    exact ⟨c'', hrun, hsame.trans hmemory⟩
  refine ⟨⟨fun husable => ?_, fun hb earlier address data _ hd => ?_⟩, fun hb earlier t ht => ?_,
    fun hb p size align hbase hsize => ?_⟩
  · apply Nat.lt_of_not_le
    intro hb
    obtain ⟨ch', hwrite, -⟩ := husable [] 0 [0] (Nat.le_refl 1) (by decide)
    obtain ⟨c', hrun, -⟩ := hastray hb [] ⟨.write, 0, [0], 0⟩ (by decide)
    cases hwrite.symm.trans (Operation.bind_error hrun)
  · obtain ⟨c', hserves, hnone⟩ := runAll_served (serves_of_open hopen hst hb) hf earlier
    exact write_served hserves hnone address hd
  · obtain ⟨c', hrun, hmemory⟩ := hastray hb earlier t ht
    rw [Operation.answer, Operation.after, hrun]
    exact ⟨rfl, hmemory⟩
  · have hcut : Operation.Ends (BufferPool.alloc size align) p _ _ := p.alloc_ends hsize
    cases hop : BufferPool.alloc size align p with
    | ok b p' =>
        have hreach := (hcut.of_ok hop).lies.reach
        omega
    | error e p' =>
        rw [Operation.answer, hop]
        rfl

/-- A channel over a chip whose pool begins at a bus address. -/
def pooledAt (base : Nat) : Channel := ⟨.emulated (.fresh base 256), .defaults, some base⟩

/-- The last bus address that the chip's register can name, and the first that it cannot. -/
theorem usable_iff_reached_boundary : (pooledAt (2 ^ 32 - 1)).Usable ∧ ¬ (pooledAt (2 ^ 32)).Usable := by
  have hlast : open? .defaults (.emulated (.fresh (2 ^ 32 - 1) 256)) = .ok (pooledAt (2 ^ 32 - 1)) := rfl
  have hfirst : open? .defaults (.emulated (.fresh (2 ^ 32) 256)) = .ok (pooledAt (2 ^ 32)) := rfl
  refine ⟨(usable_iff_reached rfl rfl rfl hlast).1.mpr (by decide), fun husable => ?_⟩
  exact absurd ((usable_iff_reached rfl rfl rfl hfirst).1.mp husable) (by decide)

/-- A channel that opens, and does not carry a single word. -/
theorem opened_unusable :
    open? .defaults (.emulated (.fresh (2 ^ 32) 256)) = .ok (pooledAt (2 ^ 32)) ∧
      Operation.answer (writeMemory 0x7120000 [1]) (pooledAt (2 ^ 32)) = .error (.misuse (.outsidePool 0)) :=
  ⟨rfl, rfl⟩

end Channel

end ControlPlane
