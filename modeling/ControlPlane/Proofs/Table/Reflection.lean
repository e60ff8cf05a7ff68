import ControlPlane.Proofs.Table.Sites

/-! # Memories that show a record

An `Image` says of some sites which words they store.  `Reflected` ties a transport to an image on a
family of sites: what the image says of a site is what the chip's memory holds there, and as long as no
command was refused, the sites of the family that the image says nothing about are blank.

There is one rule for each way in which an operation writes, provided that the site lies apart from
the family (`Aloof`), whether or not it belongs to it:

* `Reflected.write`: the memory shows the image with the new words, or the old image if the write
  fails.
* `Reflected.wipe`: the memory shows the image without the site, whatever becomes of the write. -/

namespace ControlPlane

open Operation (Ends)

/-- What is said of the words at some sites. -/
abbrev Image := Site → List UInt32 → Prop

namespace Image

/-- The image with the words of a site replaced. -/
def set (W : Image) (s : Site) (words : List UInt32) : Image := fun u ws =>
  if u = s then ws = words else W u ws

/-- The image with nothing said of a site. -/
def drop (W : Image) (s : Site) : Image := fun u ws => u ≠ s ∧ W u ws

variable {W : Image} {s u : Site} {words ws : List UInt32}

@[simp] theorem set_self : W.set s words s ws ↔ ws = words := by
  rw [set, if_pos rfl]

theorem set_of_ne (h : u ≠ s) : W.set s words u ws ↔ W u ws := by
  rw [set, if_neg h]

/-- An image is another with the words of a site replaced if it says these words of the site and
agrees elsewhere. -/
theorem iff_set {W' : Image} (hs : ∀ ws, W' s ws ↔ ws = words)
    (hne : u ≠ s → (W' u ws ↔ W u ws)) : W' u ws ↔ W.set s words u ws := by
  by_cases h : u = s
  · subst h
    rw [set_self, hs]
  · rw [set_of_ne h, hne h]

@[simp] theorem drop_self : ¬ W.drop s s ws := fun h => h.1 rfl

theorem drop_of_ne (h : u ≠ s) : W.drop s u ws ↔ W u ws := and_iff_right h

theorem iff_drop {W' : Image} (hs : ∀ ws, ¬ W' s ws)
    (hne : u ≠ s → (W' u ws ↔ W u ws)) : W' u ws ↔ W.drop s u ws := by
  by_cases h : u = s
  · subst h
    exact iff_of_false (hs ws) drop_self
  · rw [drop_of_ne h, hne h]

end Image

/-- A site lies apart from all others of a family. -/
def Site.Aloof (F : Site → Prop) (s : Site) : Prop := ∀ u, F u → u.OnChip → u ≠ s → s.Apart u

section

variable {δ : Type} [Bus δ] [MemoryBus δ]

/-- The chip's memory shows an image on a family of sites.  `T` says which writes the transport takes.
Of a family without sites nothing is said but that the transport reaches its chip. -/
structure Reflected (T : Nat → Nat → Bool) (refused : δ → Prop) (F : Site → Prop) (W : Image)
    (bus : δ) : Prop where
  sound : MemoryBus.Sound bus
  takes : (MemoryBus.backing bus).takes = T
  prompt : ∀ {s}, F s → (MemoryBus.backing bus).stalls = false
  onChip : ∀ {s ws}, F s → W s ws → s.OnChip
  stored : ∀ {s ws}, F s → W s ws → s.stored (MemoryBus.backing bus).memory = ws
  clean : ¬ refused bus → ∀ {s}, F s → s.OnChip → (∀ ws, ¬ W s ws) →
    s.stored (MemoryBus.backing bus).memory = s.blank

namespace Reflected

variable {T : Nat → Nat → Bool} {refused : δ → Prop} {F : Site → Prop} {W : Image} {bus bus' : δ}
  {s : Site} {words : List UInt32}

/-- Only what is said of the family's sites matters. -/
theorem congr {W' : Image} (h : Reflected T refused F W bus)
    (hw : ∀ s ws, F s → (W' s ws ↔ W s ws)) : Reflected T refused F W' bus where
  sound := h.sound
  takes := h.takes
  prompt := h.prompt
  onChip hs hws := h.onChip hs ((hw _ _ hs).mp hws)
  stored hs hws := h.stored hs ((hw _ _ hs).mp hws)
  clean hr _ hs hc hn := h.clean hr hs hc fun ws hws => hn ws ((hw _ ws hs).mpr hws)

/-- A smaller family. -/
theorem restrict {F' : Site → Prop} (h : Reflected T refused F W bus) (hF : ∀ s, F' s → F s) :
    Reflected T refused F' W bus where
  sound := h.sound
  takes := h.takes
  prompt hs := h.prompt (hF _ hs)
  onChip hs hws := h.onChip (hF _ hs) hws
  stored hs hws := h.stored (hF _ hs) hws
  clean hr _ hs hc hn := h.clean hr (hF _ hs) hc hn

/-- Once a command was refused, less may be said. -/
theorem weaken {W' : Image} (h : Reflected T refused F W bus) (hr : refused bus)
    (hw : ∀ s ws, F s → W' s ws → W s ws) : Reflected T refused F W' bus where
  sound := h.sound
  takes := h.takes
  prompt := h.prompt
  onChip hs hws := h.onChip hs (hw _ _ hs hws)
  stored hs hws := h.stored hs (hw _ _ hs hws)
  clean hn := absurd hr hn

/-- A transport to the same memory, which may take other writes. -/
theorem of_memory (h : Reflected T refused F W bus) (hsound : MemoryBus.Sound bus')
    (hmemory : (MemoryBus.backing bus').memory = (MemoryBus.backing bus).memory)
    (hprompt : ∀ {s}, F s → (MemoryBus.backing bus').stalls = false) (hr : refused bus → refused bus') :
    Reflected (MemoryBus.backing bus').takes refused F W bus' where
  sound := hsound
  takes := rfl
  prompt := hprompt
  onChip := h.onChip
  stored hs hws := hmemory ▸ h.stored hs hws
  clean hn _ hs hc hw := hmemory ▸ h.clean (fun hb => hn (hr hb)) hs hc hw

/-- Where every write is taken, there are no faults. -/
theorem not_faulty (h : Reflected Backing.takesAll refused F W bus) : ¬ Site.Faulty bus := by
  rintro ⟨address, words, ht⟩
  rw [h.takes] at ht
  cases ht

theorem of_taken (h : Reflected T refused F W bus) (hk : refused bus → refused bus')
    (hw : s.Wrote words bus bus') (ht : s.Taken bus) (hs : s.OnChip) (hl : words.length = s.words)
    (ha : s.Aloof F) : Reflected T refused F (W.set s words) bus' where
  sound := hw.sound
  takes := hw.takes_eq.trans h.takes
  prompt hs := hw.stalls_eq.trans (h.prompt hs)
  onChip := by
    intro u ws hu hws
    by_cases he : u = s
    · exact he ▸ hs
    · exact h.onChip hu ((Image.set_of_ne he).mp hws)
  stored := by
    intro u ws hu hws
    by_cases he : u = s
    · subst he
      rw [Image.set_self.mp hws]
      exact hw.stored_self hs hl ht.not_refused
    · have hws := (Image.set_of_ne he).mp hws
      have hc := h.onChip hu hws
      rw [hw.stored_of_apart hs hc hl (ha u hu hc he)]
      exact h.stored hu hws
  clean := by
    intro hr u hu hc hn
    by_cases he : u = s
    · exact absurd (he ▸ Image.set_self.mpr rfl) (hn words)
    · rw [hw.stored_of_apart hs hc hl (ha u hu hc he)]
      exact h.clean (fun hb => hr (hk hb)) hu hc fun ws hws => hn ws ((Image.set_of_ne he).mpr hws)

theorem of_not_taken (h : Reflected T refused F W bus) (hr : refused bus')
    (hw : s.Wrote words bus bus') (ht : ¬ s.Taken bus) (hl : words.length = s.words) :
    Reflected T refused F W bus' := by
  have hb (hstalls : (MemoryBus.backing bus).stalls = false) :
      MemoryBus.backing bus' = MemoryBus.backing bus :=
    hw.backing_of_refused hl (Site.refused_of_not_taken hstalls ht)
  refine ⟨hw.sound, hw.takes_eq.trans h.takes, fun hu => ?_, h.onChip, fun hu hws => ?_,
    fun hn => absurd hr hn⟩
  · rw [hb (h.prompt hu)]
    exact h.prompt hu
  · rw [hb (h.prompt hu)]
    exact h.stored hu hws

/-- A write of new words to a site. -/
theorem write (ht : Site.Tells refused) (h : Reflected T refused F W bus) (words : List UInt32)
    (hs : s.OnChip) (hl : words.length = s.words) (ha : s.Aloof F) :
    Ends (s.write words) bus
      (fun _ bus' => Reflected T refused F (W.set s words) bus' ∧ s.Wrote words bus bus' ∧ s.Taken bus)
      fun _ bus' => Reflected T refused F W bus' ∧ s.Wrote words bus bus' ∧ ¬ s.Taken bus ∧
        refused bus' :=
  ((Site.write_ends hs hl h.sound).and (ht s words bus hs hl h.sound)).mono
    (fun _ _ hq => ⟨h.of_taken hq.2 hq.1.1 hq.1.2 hs hl ha, hq.1⟩)
    fun _ _ he => ⟨h.of_not_taken he.2 he.1.1 he.1.2 hl, he.1.1, he.1.2, he.2⟩

/-- Nothing is said any more of a site that has been cleared, or could not be cleared. -/
theorem wipe (ht : Site.Tells refused) (h : Reflected T refused F W bus) (hs : s.OnChip)
    (ha : s.Aloof F) :
    Reflected T refused F (W.drop s) (Operation.after (s.write s.blank) bus) := by
  have hl : s.blank.length = s.words := List.length_replicate
  refine Ends.after ((h.write ht s.blank hs hl ha).mono ?_ ?_)
  · rintro _ bus' ⟨hset, hwrote, htaken⟩
    refine ⟨hset.sound, hset.takes, hset.prompt, ?_, ?_, ?_⟩
    · exact fun hu hws => h.onChip hu hws.2
    · exact fun hu hws => hset.stored hu ((Image.set_of_ne hws.1).mpr hws.2)
    · intro hr u hu hc hn
      by_cases he : u = s
      · subst he
        exact hset.stored hu (Image.set_self.mpr rfl)
      · exact hset.clean hr hu hc fun ws hws =>
          hn ws ((Image.drop_of_ne he).mpr ((Image.set_of_ne he).mp hws))
  · rintro _ bus' ⟨hkeep, -, -, hr⟩
    exact ⟨hkeep.sound, hkeep.takes, hkeep.prompt, fun hu hws => hkeep.onChip hu hws.2,
      fun hu hws => hkeep.stored hu hws.2, fun hn => absurd hr hn⟩

/-! ### Entries -/

variable {i : Nat}

theorem writeEntry (ht : Site.Tells refused) (h : Reflected T refused F W bus) (t : Table)
    (words : List UInt32) (hi : i < t.depth) (hl : words.length = t.words)
    (ha : (Site.entry t i).Aloof F) :
    Ends (t.write i words) bus
      (fun _ bus' => Reflected T refused F (W.set (.entry t i) words) bus' ∧
        (Site.entry t i).Wrote words bus bus' ∧ (Site.entry t i).Taken bus)
      fun _ bus' => Reflected T refused F W bus' ∧ (Site.entry t i).Wrote words bus bus' ∧
        ¬ (Site.entry t i).Taken bus ∧ refused bus' := by
  rw [t.write_eq hi hl]
  exact h.write ht words hi hl ha

/-- Where every write is taken, none fails. -/
theorem writeEntry_succeeds (h : Reflected Backing.takesAll refused F W bus) (t : Table)
    (words : List UInt32) (hi : i < t.depth) (hl : words.length = t.words) :
    Ends (t.write i words) bus (fun _ _ => True) fun _ _ => False := by
  have hs : (Site.entry t i).OnChip := hi
  rw [t.write_eq hi hl]
  refine (Site.write_ends hs hl h.sound).mono (fun _ _ _ => trivial) ?_
  rintro _ bus' ⟨-, hnot⟩
  refine hnot ?_
  rw [Site.Taken, h.takes]
  rfl

/-- Where no write is taken, none succeeds, and the memory stays as it is unless the chip is stalled. -/
theorem writeEntry_fails (h : Reflected Backing.takesNone refused F W bus) (t : Table)
    (words : List UInt32) (hi : i < t.depth) (hl : words.length = t.words) :
    Ends (t.write i words) bus (fun _ _ => False)
      fun _ bus' => (MemoryBus.backing bus).stalls = false →
        MemoryBus.backing bus' = MemoryBus.backing bus := by
  have hnot : ¬ (Site.entry t i).Taken bus := by
    rw [Site.Taken, h.takes]
    exact Bool.false_ne_true
  have hs : (Site.entry t i).OnChip := hi
  rw [t.write_eq hi hl]
  refine (Site.write_ends hs hl h.sound).mono ?_ ?_
  · rintro _ bus' ⟨-, htaken⟩
    exact hnot htaken
  · rintro _ bus' ⟨hwrote, -⟩ hstalls
    exact hwrote.backing_of_refused hl (Site.refused_of_not_taken hstalls hnot)

theorem wipeEntry (ht : Site.Tells refused) (h : Reflected T refused F W bus) (t : Table)
    (hi : i < t.depth) (ha : (Site.entry t i).Aloof F) :
    Reflected T refused F (W.drop (.entry t i)) (Operation.after (t.clear i) bus) := by
  rw [t.clear_eq hi]
  exact h.wipe ht hi ha

end Reflected

end

end ControlPlane
