import ControlPlane.Proofs.Switch.Runs

/-! # The chip's memory mirrors the record

Most tables lie apart from everything else: those of interfaces, next hops, routes and VLANs, and with
them the words of enabled lanes (`Site.Exclusive`).  What the chip's memory holds there is what the switch
has recorded, after every run of requests during which the chip was never stalled, whichever writes it
refused and whenever that changed.  As long as it has not refused any, it holds nothing else there.

* **Step.**  `SwitchEvent.apply_mirrors`: an event keeps `Switch.Mirrors`.
* **Run.**  `Switch.memory_mirrors_record`. -/

namespace ControlPlane

/-- A site whose words belong to no other. -/
def Site.Exclusive : Site → Prop
  | entry t _ => t = .interface ∨ t = .ingressHop ∨ t = .egressHop ∨ t = .route ∨ t = .vlan ∨
      t = .egressVlan
  | enables block => block < Location.blockBases.length

/-- Every site of the chip lies apart from the exclusive ones. -/
theorem Site.OnChip.aloof {s : Site} (hs : s.OnChip) : s.Aloof Site.Exclusive := by
  intro u hu hc hne
  refine apart_of_not_crosses hs hc (Ne.symm hne) fun hcross => ?_
  rcases s with ⟨t, i⟩ | b <;> rcases u with ⟨t', j⟩ | c
  · rcases (Table.overlaps_iff t t').mp hcross with (⟨-, rfl⟩ | ⟨-, rfl⟩) | ⟨-, rfl⟩ | ⟨-, rfl⟩
    all_goals simp [Exclusive] at hu
  all_goals exact hcross

/-- The chip's memory shows the record on the exclusive sites. -/
def Switch.Mirrors (sw : Switch (Watched Channel)) : Prop :=
  ∃ takes, sw.Reflects takes (fun w => w.refused = true) Site.Exclusive

/-- Whether an event leaves the chip reporting what it has done. -/
def SwitchEvent.Prompt : SwitchEvent → Prop
  | request _ => True
  | faults stalled _ => stalled = false

theorem SwitchEvent.apply_mirrors (event : SwitchEvent) (he : event.Prompt)
    {sw : Switch (Watched Channel)} (h : sw.Mirrors) : (event.apply sw).Mirrors := by
  obtain ⟨takes, h⟩ := h
  cases event with
  | request r => exact ⟨takes, r.serve_reflects Watched.tells_refused h fun s hs => hs.aloof⟩
  | faults stalled failing =>
      cases he
      obtain ⟨hsound, hmemory, hstalls⟩ := Channel.Sound.setFaults h.reflected.sound false failing
      exact ⟨_, h.intact, h.reflected.of_memory hsound hmemory (fun _ => hstalls rfl) id⟩

theorem Switch.after_mirrors (events : List SwitchEvent) (he : ∀ event ∈ events, event.Prompt)
    {sw : Switch (Watched Channel)} (h : sw.Mirrors) : (sw.after events).Mirrors := by
  induction events generalizing sw with
  | nil => exact h
  | cons event events ih =>
      refine ih (fun e hm => he e (List.mem_cons_of_mem _ hm)) ?_
      exact event.apply_mirrors (he event List.mem_cons_self) h

/-- After every run of requests on a switch over a fresh chip that is never stalled, whatever the chip
refuses: every exclusive site that is recorded stores what is recorded of it; and if no write has
failed, all others are zero. -/
theorem Switch.memory_mirrors_record (board : Board) {settings : ChannelSettings} {base size : Nat}
    {ch : Channel} (hopen : Channel.open? settings (.emulated (.fresh base size)) = .ok ch)
    (events : List SwitchEvent) (hprompt : ∀ event ∈ events, event.Prompt) :
    let sw := (Switch.fresh board (Watched.start ch)).after events
    (∀ s ws, s.Exclusive → sw.records s ws → s.OnChip ∧ s.stored sw.bus.device.memory = ws) ∧
      (sw.bus.refused = false → ∀ s : Site, s.Exclusive → s.OnChip → (∀ ws, ¬ sw.records s ws) →
        s.stored sw.bus.device.memory = s.blank) := by
  intro sw
  have hclear := Channel.clear_of_open hopen
  have hstart : (Switch.fresh board (Watched.start ch)).Mirrors :=
    ⟨_, Switch.fresh_reflects board ⟨hclear.sound, hclear.prompt, hclear.memory⟩ fun _ hb => hb⟩
  obtain ⟨takes, h⟩ : sw.Mirrors := Switch.after_mirrors events hprompt hstart
  have hmemory := Channel.memory_backing sw.bus.device
  refine ⟨fun s ws hs hws => ⟨h.reflected.onChip hs hws, ?_⟩, fun hr s hs hon hn => ?_⟩
  · rw [← hmemory]
    exact h.reflected.stored hs hws
  · rw [← hmemory]
    exact h.reflected.clean (by rw [hr]; exact Bool.false_ne_true) hs hon hn

/-- An interface, a VLAN whose entry for traffic on its way out is refused, and another VLAN. -/
def Switch.refusedOnce : List SwitchEvent := [
  .request (.routing (.createInterface ⟨2, 0, 0, 0, 0, 1⟩ 7)),
  .faults false [(0x0d260000, 0x0d280000)],
  .request (.createVlan 5),
  .faults false [],
  .request (.createVlan 6)]

theorem Switch.memory_mirrors_record_refused :
    let sw := (Switch.fresh ⟨48, Board.defaultStem, Board.defaultMacBase⟩
      (Watched.start Channel.driven)).after refusedOnce
    sw.bus.refused = true ∧
      (Site.entry .interface 1).stored sw.bus.device.memory = [0x0000e000, 2, 0x00000400, 0] ∧
      (Site.entry .egressVlan 6).stored sw.bus.device.memory = [5, 0, 0, 0, 0, 0, 0, 0] := by
  have hopen : Channel.open? ⟨.driver, 500, 1000, true⟩ (.emulated (.fresh 0 256)) =
      .ok Channel.driven := rfl
  have hprompt : ∀ event ∈ refusedOnce, event.Prompt := by
    simp [refusedOnce, SwitchEvent.Prompt]
  have hrecord := (memory_mirrors_record
    ⟨48, Board.defaultStem, Board.defaultMacBase⟩ hopen refusedOnce hprompt).1
  refine ⟨by decide +kernel, (hrecord _ _ ?_ ?_).2, (hrecord _ _ ?_ ?_).2⟩
  · exact .inl rfl
  · change Option.map _ _ = some _
    decide +kernel
  · simp [Site.Exclusive]
  · change Option.map _ _ = some _
    decide +kernel

end ControlPlane
