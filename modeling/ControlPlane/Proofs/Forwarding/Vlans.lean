import ControlPlane.Forwarding.Vlans
import ControlPlane.Proofs.KeyMap
import ControlPlane.Proofs.Table.Reflection

/-! # VLANs and their entries

There is one rule for each request, with one premise for each way in which it can go on (`ends_create`,
`ends_addPort`, `ends_removePort`, `ends_destroy`); all changes come down to `record`.

A VLAN has two entries, which are written together: the chip's memory shows both new ones, or what it
showed before (`program_reflected`).  The entry that was written first can be put back, since the chip
takes a write to a site whenever it took one just before. -/

namespace ControlPlane.Vlans

open Operation (Ends)

variable {δ : Type} [Bus δ] {bus : δ} {vlan : Nat}

theorem lt_depth (h : VlanTag.IsVlan vlan) : vlan < Table.vlan.depth := Nat.lt_succ_of_le h.isTag

/-! ### Where requests end -/

section Rules

variable {s : Vlans} {Q : Unit → Vlans × δ → Prop} {E : Error → Vlans × δ → Prop} {port : PortId}

theorem ends_record {v : VlanPorts} {prior : Option VlanPorts}
    (h : Ends (program vlan v prior) bus (fun _ bus' => Q () (⟨s.members.insert vlan v⟩, bus'))
      fun e bus' => E e (s, bus')) : Ends (record vlan v prior) (s, bus) Q E := by
  cases hb : program vlan v prior bus with
  | ok u bus' => exact Operation.ends_ok (by simp only [record, hb]) (h.of_ok hb)
  | error e bus' => exact Operation.ends_error (by simp only [record, hb]) (h.of_error hb)

theorem ends_ensure (hthere : s.members.contains vlan = true → Q () (s, bus))
    (hnew : s.members.get? vlan = none → Ends (record vlan VlanPorts.none none) (s, bus) Q E) :
    Ends (ensure vlan) (s, bus) Q E := by
  by_cases hc : s.members.contains vlan = true
  · exact Operation.ends_ok (by simp only [ensure, hc, if_true]) (hthere hc)
  · have hnone := (KeyMap.contains_eq_false_iff _ _).mp ((Bool.not_eq_true _).mp hc)
    exact Ends.of_eq (hnew hnone) (by simp only [ensure, hc, Bool.false_eq_true, if_false])

theorem ends_create (hinvalid : ¬ VlanTag.IsVlan vlan → ∀ e, E e (s, bus))
    (hvalid : VlanTag.IsVlan vlan → Ends (ensure vlan) (s, bus) Q E) :
    Ends (create vlan) (s, bus) Q E := by
  by_cases hv : VlanTag.IsVlan vlan
  · exact Ends.of_eq (hvalid hv) (by simp only [create, hv, if_true])
  · exact Operation.ends_error (by simp only [create, hv, if_false]; rfl) (hinvalid hv _)

theorem ends_addPort {board : Board} {untagged : Bool} (hinvalid : ∀ e, E e (s, bus))
    (hvalid : VlanTag.IsVlan vlan → board.Has port → Ends (ensure vlan) (s, bus)
      (fun _ t => ∀ prior, prior = (t.1.members.get? vlan).getD VlanPorts.none →
        Ends (record vlan (prior.insert port untagged) (some prior)) t Q E) E) :
    Ends (addPort board vlan port untagged) (s, bus) Q E := by
  by_cases hv : VlanTag.IsVlan vlan
  · by_cases hp : board.Has port
    · cases hb : ensure vlan (s, bus) with
      | error e t =>
          exact Operation.ends_error (by simp only [addPort, hv, hp, hb, not_true, if_false])
            ((hvalid hv hp).of_error hb)
      | ok u t =>
          exact Ends.of_eq ((hvalid hv hp).of_ok hb _ rfl)
            (by simp only [addPort, hv, hp, hb, not_true, if_false])
    · exact Operation.ends_error
        (by simp only [addPort, hv, hp, not_true, not_false_iff, if_false, if_true]; rfl) (hinvalid _)
  · exact Operation.ends_error (by simp only [addPort, hv, not_false_iff, if_true]; rfl) (hinvalid _)

theorem ends_removePort (hinvalid : ∀ e, E e (s, bus))
    (hvalid : ∀ prior, VlanTag.IsVlan vlan → s.members.get? vlan = some prior →
      Ends (record vlan (prior.erase port) (some prior)) (s, bus) Q E) :
    Ends (removePort vlan port) (s, bus) Q E := by
  by_cases hv : VlanTag.IsVlan vlan
  · cases hprior : s.members.get? vlan with
    | none =>
        exact Operation.ends_error
          (by simp only [removePort, hv, hprior, not_true, if_false]; rfl) (hinvalid _)
    | some prior =>
        by_cases hc : prior.contains port = true
        · exact Ends.of_eq (hvalid prior hv hprior)
            (by simp only [removePort, hv, hprior, hc, not_true, if_false, if_true])
        · exact Operation.ends_error
            (by simp only [removePort, hv, hprior, hc, not_true, if_false, Bool.false_eq_true]; rfl)
            (hinvalid _)
  · exact Operation.ends_error
      (by simp only [removePort, hv, not_false_iff, if_true]; rfl) (hinvalid _)

/-- A VLAN is forgotten whatever the device says. -/
theorem ends_destroy (hinvalid : ∀ e, E e (s, bus))
    (hvalid : VlanTag.IsVlan vlan → Q () (⟨s.members.erase vlan⟩,
      Operation.after (Table.egressVlan.clear vlan) (Operation.after (Table.vlan.clear vlan) bus))) :
    Ends (destroy vlan) (s, bus) Q E := by
  by_cases hv : VlanTag.IsVlan vlan
  · by_cases hc : s.members.contains vlan = true
    · exact Operation.ends_ok (by simp only [destroy, hv, hc, not_true, if_false, if_true])
        (hvalid hv)
    · exact Operation.ends_error
        (by simp only [destroy, hv, hc, not_true, if_false, Bool.false_eq_true]; rfl) (hinvalid _)
  · exact Operation.ends_error (by simp only [destroy, hv, not_false_iff, if_true]; rfl) (hinvalid _)

end Rules

/-! ### What the chip's memory shows -/

variable [MemoryBus δ] {T : Nat → Nat → Bool} {refused : δ → Prop} {F : Site → Prop} {W : Image}

/-- What is said of a VLAN's entry for traffic on its way in. -/
def Says (W : Image) (vlan : Nat) (prior : Option VlanPorts) : Prop :=
  ∀ ws, W (.entry .vlan vlan) ws ↔ prior.map (·.ingress.encode) = some ws

theorem restore_reflected (ht : Site.Tells refused) (hv : VlanTag.IsVlan vlan) (ws : List UInt32)
    (h : Reflected T refused F (W.set (.entry .vlan vlan) ws) bus)
    (htaken : (Site.entry .vlan vlan).Taken bus) (ha : (Site.entry .vlan vlan).Aloof F)
    {prior : Option VlanPorts} (hprior : Says W vlan prior) :
    Reflected T refused F W (Operation.after (restore vlan prior) bus) := by
  cases prior with
  | none =>
      refine (h.wipeEntry ht .vlan (lt_depth hv) ha).congr fun s xs _ => ?_
      by_cases hs : s = .entry .vlan vlan
      · subst hs
        exact iff_of_false (fun hxs => nomatch (hprior xs).mp hxs) Image.drop_self
      · rw [Image.drop_of_ne hs, Image.set_of_ne hs]
  | some p =>
      refine Ends.after (((h.writeEntry ht .vlan p.ingress.encode (lt_depth hv)
        (Fields.length_encode _ _) ha)).mono ?_ ?_)
      · rintro _ bus' ⟨hset, -⟩
        refine hset.congr fun s xs _ => ?_
        by_cases hs : s = .entry .vlan vlan
        · subst hs
          rw [Image.set_self, hprior, Option.map_some, Option.some.injEq, eq_comm]
        · rw [Image.set_of_ne hs, Image.set_of_ne hs]
      · rintro _ bus' ⟨-, -, hnot, -⟩
        exact absurd htaken hnot

theorem program_reflected (ht : Site.Tells refused) (h : Reflected T refused F W bus)
    (hv : VlanTag.IsVlan vlan) (v : VlanPorts) {prior : Option VlanPorts}
    (hin : (Site.entry .vlan vlan).Aloof F) (hout : (Site.entry .egressVlan vlan).Aloof F)
    (hprior : Says W vlan prior) :
    Ends (program vlan v prior) bus
      (fun _ bus' => Reflected T refused F ((W.set (.entry .vlan vlan) v.ingress.encode).set
        (.entry .egressVlan vlan) v.egress.encode) bus')
      fun _ bus' => Reflected T refused F W bus' := by
  have hfirst := h.writeEntry ht .vlan v.ingress.encode (lt_depth hv) (Fields.length_encode _ _) hin
  cases hb : Table.vlan.write vlan v.ingress.encode bus with
  | error e bus' =>
      exact Operation.ends_error (by simp only [program, hb]; rfl) (hfirst.of_error hb).1
  | ok u bus' =>
      obtain ⟨hset, hwrote, htaken⟩ := hfirst.of_ok hb
      have hsecond := hset.writeEntry ht .egressVlan v.egress.encode (lt_depth hv)
        (Fields.length_encode _ _) hout
      refine Ends.of_eq (Ends.orUndo (hsecond.mono (fun _ _ hq => hq.1) ?_))
        (by simp only [program, hb]; rfl)
      rintro e bus'' ⟨hkeep, hwrote', -, -⟩
      refine Ends.of_after (restore_reflected ht hv v.ingress.encode hkeep ?_ hin hprior)
      rw [hwrote'.taken_iff, hwrote.taken_iff]
      exact htaken

end ControlPlane.Vlans
