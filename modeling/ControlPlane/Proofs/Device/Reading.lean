import ControlPlane.Proofs.Device.MemoryBus

/-! # Reading a chip's memory

A read over a channel tells what the memory holds, or fails; which of the two it is does not depend on the
address (`Channel.Heard`).  An exchange that reads leaves traces in the pool and in the registers of its
channel, but none that a later read could find (`Channel.Reread`).

* **One read.**  `Channel.readMemory_ends`: the answer, and that the channel is as it was to other reads. -/

namespace ControlPlane

open Operation (Ends)

/-- A read through the pool, whose answer is staged over the zeros that were sent. -/
theorem Chip.outcome_read (c : Chip) {address words : Nat} {payload : List UInt32} (ha : address < 2 ^ 32)
    (hw : words ≤ payloadWordsMax) (hp : payload.length = words) :
    c.outcome (Command.encode .read address words) payload =
      ⟨0, c.readMemory address words ++ (Channel.padded payload payloadWordsMax).drop words, c⟩ := by
  have hlength : words ≤ (Channel.padded payload payloadWordsMax).length := by
    rw [Channel.length_padded (hp ▸ hw)]
    exact hw
  rw [outcome, Channel.padded, c.execute_read _ ha hw hlength]

namespace Channel

variable {ch ch' ch'' : Channel} {address words : Nat}

/-- Whether reads over a channel to an emulated chip are answered. -/
def Heard (ch : Channel) : Prop :=
  ch.settings.readable = true ∧ ∀ c, ch.device = .emulated c →
    c.stalled = false ∧ (ch.settings.mode = .pool → c.poolBase < 2 ^ 32)

/-- A channel that is as another to every read: to the same memory, with the same settings and faults. -/
structure Reread (ch ch' : Channel) : Prop where
  sound : ch'.Sound
  heard_iff : ch'.Heard ↔ ch.Heard
  memory_eq : ch'.memory = ch.memory

namespace Reread

theorem refl (h : ch.Sound) : Reread ch ch := ⟨h, Iff.rfl, rfl⟩

theorem trans (h : Reread ch ch') (h' : Reread ch' ch'') : Reread ch ch'' :=
  ⟨h'.sound, h'.heard_iff.trans h.heard_iff, h'.memory_eq.trans h.memory_eq⟩

end Reread

section read

variable {settings : ChannelSettings} {staging : Option Nat} {c c' : Chip}

theorem heard_iff : Heard ⟨.emulated c, settings, staging⟩ ↔
    settings.readable = true ∧ c.stalled = false ∧ (settings.mode = .pool → c.poolBase < 2 ^ 32) := by
  refine and_congr_right fun _ => ⟨fun h => h c rfl, fun h c' hc => ?_⟩
  cases hc
  exact h

/-- Only the place of the pool, the faults and the memory matter to reads. -/
theorem reread_of_alike (h : Sound ⟨.emulated c, settings, staging⟩) (hl : c.Alike c')
    (hm : c'.memory = c.memory) :
    Reread ⟨.emulated c, settings, staging⟩ ⟨.emulated c', settings, staging⟩ where
  sound := by
    obtain ⟨_, hd, hpool⟩ := h
    cases hd
    refine ⟨c', rfl, fun hm => ?_⟩
    rw [hl.poolBase, hl.poolSize]
    exact hpool hm
  heard_iff := by rw [heard_iff, heard_iff, hl.stalled, hl.poolBase]
  memory_eq := hm

/-- An exchange that reads, in either mode. -/
theorem exchange_read (h : Sound ⟨.emulated c, settings, staging⟩) (hr : settings.readable = true)
    (ha : address < 2 ^ 32) (hw : words ≤ payloadWordsMax) :
    Ends (exchange (Command.encode .read address words) (List.replicate words 0))
      ⟨.emulated c, settings, staging⟩
      (fun answer ch' => Heard ⟨.emulated c, settings, staging⟩ ∧
        answer = (0, c.readMemory address words) ∧ Reread ⟨.emulated c, settings, staging⟩ ch')
      fun _ ch' => ¬ Heard ⟨.emulated c, settings, staging⟩ ∧
        Reread ⟨.emulated c, settings, staging⟩ ch' := by
  obtain ⟨hsome, hcommand⟩ := Command.encode_fits .read address words
  have hlength : (List.replicate words (0 : UInt32)).length = words := List.length_replicate
  have hread : (c.readMemory address words).length = words := by
    rw [Chip.readMemory, Memory.readAll, List.length_map, length_wordAddresses]
  rw [heard_iff]
  cases hm : settings.mode with
  | pool =>
      obtain ⟨rfl, hs⟩ : staging = some c.poolBase ∧ reservedBytes ≤ c.pool.size := by
        obtain ⟨_, hd, hpool⟩ := h
        cases hd
        exact hpool hm
      have hends := exchangeStaged_ends settings (some c.poolBase) c hcommand (hlength ▸ hw) hs
      rw [c.outcome_read ha hw hlength] at hends
      refine Ends.of_eq (hends.mono ?_ ?_) (by simp only [exchange, hm])
      · rintro answer ch' ⟨hb, hst, rfl, c', rfl, hexchanged⟩
        refine ⟨⟨hr, hst, fun _ => hb⟩, ?_, reread_of_alike h hexchanged.toAlike hexchanged.memory⟩
        rw [hlength, List.take_left' hread]
      · rintro e ch' ⟨hfail, c', rfl, hlike, hmemory⟩
        refine ⟨fun hheard => ?_, reread_of_alike h hlike (hmemory.trans (ite_self c.memory))⟩
        rcases hfail with hb | hst
        · have := hheard.2.2 rfl
          omega
        · rw [hheard.2.1] at hst
          cases hst
  | driver =>
      have hrun := exchange_driver c settings staging hm hsome hcommand (hlength ▸ hw)
      have hexecute := c.execute_read [] ha hw (Nat.le_of_eq hlength.symm)
      rw [List.append_nil] at hexecute
      rw [hexecute] at hrun
      cases hst : c.stalled with
      | true =>
          rw [if_pos hst] at hrun
          exact Operation.ends_error hrun ⟨fun hheard => by simp at hheard, .refl h⟩
      | false =>
          rw [if_neg (by simp [hst])] at hrun
          refine Operation.ends_ok hrun ⟨⟨hr, rfl, fun hpool => by cases hpool⟩, ?_, .refl h⟩
          rw [List.drop_eq_nil_of_le (Nat.le_of_eq hlength), List.append_nil]

end read

/-- A read tells what the memory holds if reads are answered, and leaves the channel as it was to others. -/
theorem readMemory_ends (h : ch.Sound) (ha : address < 2 ^ 32) (hw : words ≤ payloadWordsMax) :
    Ends (readMemory address words) ch
      (fun answer ch' => ch.Heard ∧ answer = ch.memory.readAll (wordAddresses address words) ∧
        Reread ch ch')
      fun _ ch' => ¬ ch.Heard ∧ Reread ch ch' := by
  obtain ⟨device, settings, staging⟩ := ch
  obtain ⟨c, rfl, -⟩ := id h
  have hpadded : padded [] words = List.replicate words 0 := by
    rw [padded, List.nil_append, List.length_nil, Nat.sub_zero]
  have hread : (c.readMemory address words).length = words := by
    rw [Chip.readMemory, Memory.readAll, List.length_map, length_wordAddresses]
  refine Ends.bind (Operation.ends_get ?_)
  by_cases hr : settings.readable = true
  · refine Ends.of_eq ?_ (Operation.bind_ok (if_pos hr))
    unfold transfer
    refine Ends.of_eq ?_ (Operation.bind_ok (if_pos ⟨Nat.zero_le _, hw⟩))
    rw [hpadded]
    refine Ends.bind ((exchange_read h hr ha hw).mono ?_ fun _ _ he => he)
    rintro _ ch' ⟨hheard, rfl, hreread⟩
    refine Ends.of_eq ?_ (Operation.bind_ok (if_pos rfl))
    refine Operation.ends_pure ⟨hheard, ?_, hreread⟩
    rw [List.take_of_length_le (Nat.le_of_eq hread)]
    rfl
  · refine Ends.bind (Operation.ends_error (if_neg hr) ⟨fun hheard => hr hheard.1, .refl h⟩)

end Channel

end ControlPlane
