import ControlPlane.Proofs.Routing.Commands
import ControlPlane.Proofs.Table.Reflection

/-! # The entries of next hops and groups in the chip's memory

A next hop has two entries and a group has many.  One theorem for each of the writes that belong
together says what the chip's memory shows once they have been tried: all of them, or none. -/

namespace ControlPlane

open Operation (Ends)

namespace Image

/-- The image with members at consecutive places. -/
def setMembers (W : Image) (place : Nat) : List EgressId → Image
  | [] => W
  | m :: ms => (W.set (.entry .member place) (MemberEntry.mk m).encode).setMembers (place + 1) ms

/-- The image with nothing said of consecutive places. -/
def dropMembers (W : Image) (place : Nat) : Nat → Image
  | 0 => W
  | count + 1 => (W.drop (.entry .member place)).dropMembers (place + 1) count

/-- Nothing is said of a group's descriptor and places. -/
def FreeFor (W : Image) (id : GroupId) (base count : Nat) : Prop :=
  (∀ ws, ¬ W (.entry .group id) ws) ∧
    ∀ n, base ≤ n → n < base + count → ∀ ws, ¬ W (.entry .member n) ws

variable {W : Image} {place : Nat} {u : Site} {ws : List UInt32}

theorem setMembers_of_ne {members : List EgressId}
    (h : ∀ n, place ≤ n → n < place + members.length → u ≠ .entry .member n) :
    W.setMembers place members u ws ↔ W u ws := by
  induction members generalizing W place with
  | nil => exact Iff.rfl
  | cons m ms ih =>
      rw [List.length_cons] at h
      rw [setMembers, ih fun n h1 h2 => h n (by omega) (by omega),
        set_of_ne (h place (Nat.le_refl _) (by omega))]

theorem setMembers_member {members : List EgressId} {k : Nat} (hk : k < members.length) :
    W.setMembers place members (.entry .member (place + k)) ws ↔
      ws = (MemberEntry.mk members[k]).encode := by
  induction members generalizing W place k with
  | nil => cases hk
  | cons m ms ih =>
      rw [setMembers]
      cases k with
      | zero =>
          rw [setMembers_of_ne, Nat.add_zero, set_self]
          · rfl
          · intro n h1 h2 he
            cases he
            omega
      | succ k =>
          have := @ih (W.set (.entry .member place) (MemberEntry.mk m).encode) (place + 1) k
            (by rw [List.length_cons] at hk; omega)
          rw [show place + (k + 1) = place + 1 + k by omega, this]
          rfl

theorem dropMembers_iff {count : Nat} :
    W.dropMembers place count u ws ↔
      W u ws ∧ ∀ n, place ≤ n → n < place + count → u ≠ .entry .member n := by
  induction count generalizing W place with
  | zero => exact ⟨fun h => ⟨h, fun n h1 h2 => absurd h2 (by omega)⟩, fun h => h.1⟩
  | succ count ih =>
      rw [dropMembers, ih]
      constructor
      · rintro ⟨⟨hne, hw⟩, hrest⟩
        refine ⟨hw, fun n h1 h2 => ?_⟩
        by_cases hn : n = place
        · exact hn ▸ hne
        · exact hrest n (by omega) (by omega)
      · rintro ⟨hw, hall⟩
        exact ⟨⟨hall place (Nat.le_refl _) (by omega), hw⟩, fun n h1 h2 =>
          hall n (by omega) (by omega)⟩

theorem iff_setMembers {W' : Image} {members : List EgressId}
    (hs : ∀ k (hk : k < members.length) ws,
      W' (.entry .member (place + k)) ws ↔ ws = (MemberEntry.mk members[k]).encode)
    (hne : (∀ n, place ≤ n → n < place + members.length → u ≠ .entry .member n) →
      (W' u ws ↔ W u ws)) : W' u ws ↔ W.setMembers place members u ws := by
  by_cases h : ∀ n, place ≤ n → n < place + members.length → u ≠ .entry .member n
  · rw [setMembers_of_ne h, hne h]
  · obtain ⟨n, h1, h2, rfl⟩ : ∃ n, place ≤ n ∧ n < place + members.length ∧
        u = .entry .member n := by
      by_cases hn : ∃ n, place ≤ n ∧ n < place + members.length ∧ u = .entry .member n
      · exact hn
      · exact absurd (fun n h1 h2 he => hn ⟨n, h1, h2, he⟩) h
    have hk : n - place < members.length := by omega
    rw [show n = place + (n - place) by omega, hs _ hk, setMembers_member hk]

end Image

namespace Routing

variable {δ : Type} [Bus δ] [MemoryBus δ] {T : Nat → Nat → Bool} {refused : δ → Prop}
  {F : Site → Prop} {W : Image}
  {bus : δ}

theorem writeHop_reflected (ht : Site.Tells refused) (h : Reflected T refused F W bus) {id : EgressId}
    (hn : IndexRange.egresses.Holds id) (e : Egress)
    (hin : (Site.entry .ingressHop id).Aloof F) (hout : (Site.entry .egressHop id).Aloof F)
    (hfree : ∀ ws, ¬ W (.entry .ingressHop id) ws) :
    Ends (writeHop id e) bus
      (fun _ bus' => Reflected T refused F ((W.set (.entry .ingressHop id) (ingressHop e).encode).set
        (.entry .egressHop id) (egressHop e).encode) bus')
      fun _ bus' => Reflected T refused F W bus' := by
  have hfirst := h.writeEntry ht .ingressHop (ingressHop e).encode hn.2 (Fields.length_encode _ _)
    hin
  cases hb : Table.ingressHop.write id (ingressHop e).encode bus with
  | error why bus' =>
      refine Operation.ends_error (by simp only [writeHop, hb]; rfl) ?_
      exact (hfirst.of_error hb).1
  | ok u bus' =>
      have hset := (hfirst.of_ok hb).1
      have hsecond := hset.writeEntry ht .egressHop (egressHop e).encode hn.2
        (Fields.length_encode _ _) hout
      refine Ends.of_eq (Ends.orUndo (hsecond.mono (fun _ _ hq => hq.1) ?_))
        (by simp only [writeHop, hb]; rfl)
      rintro why bus'' ⟨hkeep, -, -, hr⟩
      have hback : Reflected T refused F W bus'' := hkeep.weaken hr fun s ws _ hws => by
        rw [Image.set_of_ne]
        · exact hws
        · rintro rfl
          exact hfree ws hws
      refine Ends.of_after ((hback.wipeEntry ht .ingressHop hn.2 hin).congr fun s ws _ => ?_)
      exact ⟨fun hws => ⟨fun he => hfree ws (he ▸ hws), hws⟩, fun hws => hws.2⟩

theorem writeMembers_reflected (ht : Site.Tells refused) (members : List EgressId)
    {place : Nat} (h : Reflected T refused F W bus)
    (hp : place + members.length ≤ Table.member.depth)
    (ha : ∀ n, place ≤ n → n < place + members.length → (Site.entry .member n).Aloof F)
    (hfree : ∀ n, place ≤ n → n < place + members.length → ∀ ws, ¬ W (.entry .member n) ws) :
    Ends (writeMembers place members) bus
      (fun _ bus' => Reflected T refused F (W.setMembers place members) bus')
      fun _ bus' => Reflected T refused F W bus' ∧ refused bus' := by
  induction members generalizing W place bus with
  | nil => exact Operation.ends_ok rfl h
  | cons m ms ih =>
      rw [List.length_cons] at hp ha hfree
      have hfirst := h.writeEntry ht .member (MemberEntry.mk m).encode (by omega)
        (Fields.length_encode _ _) (ha place (Nat.le_refl _) (by omega))
      cases hb : Table.member.write place (MemberEntry.mk m).encode bus with
      | error e bus' =>
          refine Operation.ends_error (by simp only [writeMembers, hb]; rfl) ?_
          exact ⟨(hfirst.of_error hb).1, (hfirst.of_error hb).2.2.2⟩
      | ok u bus' =>
          refine Ends.of_eq ((ih (hfirst.of_ok hb).1 (by omega) ?_ ?_).mono (fun _ _ hq => hq) ?_)
            (by simp only [writeMembers, hb])
          · exact fun n h1 h2 => ha n (by omega) (by omega)
          · intro n h1 h2 ws hws
            have hne : Site.entry .member n ≠ .entry .member place := by
              intro he
              cases he
              omega
            exact hfree n (by omega) (by omega) ws ((Image.set_of_ne hne).mp hws)
          · rintro e bus'' ⟨hkeep, hr⟩
            refine ⟨hkeep.weaken hr fun s ws _ hws => (Image.set_of_ne ?_).mpr hws, hr⟩
            rintro rfl
            exact hfree place (Nat.le_refl _) (by omega) ws hws

theorem writeGroup_reflected (ht : Site.Tells refused) (h : Reflected T refused F W bus) {id : GroupId}
    (hn : IndexRange.groups.Holds id) {g : Group}
    (hg : g.base + g.members.length ≤ Table.member.depth) (hid : (Site.entry .group id).Aloof F)
    (ha : ∀ n, g.Occupies n → (Site.entry .member n).Aloof F)
    (hfree : W.FreeFor id g.base g.members.length) :
    Ends (writeGroup id g) bus
      (fun _ bus' => Reflected T refused F ((W.setMembers g.base g.members).set (.entry .group id)
        (GroupEntry.ofMembers g.base g.members).encode) bus')
      fun _ bus' => Reflected T refused F W bus' := by
  have hmembers := writeMembers_reflected ht g.members h hg (fun n h1 h2 => ha n ⟨h1, h2⟩)
    hfree.2
  cases hb : writeMembers g.base g.members bus with
  | error e bus' =>
      exact Operation.ends_error (by simp only [writeGroup, hb]; rfl) (hmembers.of_error hb).1
  | ok u bus' =>
      have hlast := (hmembers.of_ok hb).writeEntry ht .group
        (GroupEntry.ofMembers g.base g.members).encode hn.2 (Fields.length_encode _ _) hid
      refine Ends.of_eq (hlast.mono (fun _ _ hq => hq.1) ?_) (by simp only [writeGroup, hb])
      rintro e bus'' ⟨hkeep, -, -, hr⟩
      refine hkeep.weaken hr fun s ws _ hws => (Image.setMembers_of_ne ?_).mpr hws
      rintro n h1 h2 rfl
      exact hfree.2 n h1 h2 ws hws

/-- Where every write is taken, a group is written, its descriptor last. -/
theorem writeGroup_succeeds (h : Reflected Backing.takesAll refused F W bus) {id : GroupId}
    (hn : IndexRange.groups.Holds id) {g : Group}
    (hg : g.base + g.members.length ≤ Table.member.depth) :
    Ends (writeGroup id g) bus
      (fun _ bus' => (Site.entry .group id).stored (MemoryBus.backing bus').memory =
        (GroupEntry.ofMembers g.base g.members).encode) fun _ _ => False := by
  have hbare : Reflected Backing.takesAll Site.Faulty (fun _ => False) (fun _ _ => False) bus :=
    ⟨h.sound, h.takes, fun hs => hs.elim, fun hs => hs.elim, fun hs => hs.elim, fun _ _ hs => hs.elim⟩
  have hmembers := writeMembers_reflected Site.tells_faulty g.members hbare hg
    (fun _ _ _ _ hu => hu.elim) fun _ _ _ _ hf => hf
  cases hb : writeMembers g.base g.members bus with
  | error e bus' =>
      obtain ⟨hkeep, hfaulty⟩ := hmembers.of_error hb
      exact (hkeep.not_faulty hfaulty).elim
  | ok u bus' =>
      have hbefore := hmembers.of_ok hb
      have hlast := hbefore.writeEntry Site.tells_faulty .group
        (GroupEntry.ofMembers g.base g.members).encode hn.2 (Fields.length_encode _ _)
        fun _ hu => hu.elim
      refine Ends.of_eq (hlast.mono ?_ ?_) (by simp only [writeGroup, hb])
      · rintro _ bus'' ⟨-, hwrote, htaken⟩
        have hon : (Site.entry .group id).OnChip := hn.2
        exact hwrote.stored_self hon (Fields.length_encode _ _) htaken.not_refused
      · rintro e bus'' ⟨hkeep, -, -, hfaulty⟩
        exact hkeep.not_faulty hfaulty

/-- Where no write is taken, no group is. -/
theorem writeGroup_fails (h : Reflected Backing.takesNone refused F W bus) (id : GroupId) {g : Group}
    (hpos : 0 < g.members.length) (hg : g.base + g.members.length ≤ Table.member.depth) :
    Ends (writeGroup id g) bus (fun _ _ => False) fun _ _ => True := by
  obtain ⟨members, base⟩ := g
  cases members with
  | nil => cases hpos
  | cons m ms =>
      have hfirst := h.writeEntry_fails .member (MemberEntry.mk m).encode
        (Nat.lt_of_lt_of_le (Nat.lt_add_of_pos_right hpos) hg) (Fields.length_encode _ _)
      cases hb : Table.member.write base (MemberEntry.mk m).encode bus with
      | ok u bus' => exact (hfirst.of_ok hb).elim
      | error e bus' =>
          exact Operation.ends_error (by simp only [writeGroup, writeMembers, hb]; rfl) trivial

theorem clearMembers_reflected (ht : Site.Tells refused) {count place : Nat}
    (h : Reflected T refused F W bus) (hp : place + count ≤ Table.member.depth)
    (ha : ∀ n, place ≤ n → n < place + count → (Site.entry .member n).Aloof F) :
    Reflected T refused F (W.dropMembers place count) (clearMembers place count bus) := by
  induction count generalizing W place bus with
  | zero => exact h
  | succ count ih =>
      exact ih (h.wipeEntry ht .member (by omega) (ha place (Nat.le_refl _) (by omega))) (by omega)
        fun n h1 h2 => ha n (by omega) (by omega)

/-- Nothing is said any more of a group's descriptor and places. -/
theorem clearGroup_reflected (ht : Site.Tells refused) (h : Reflected T refused F W bus) {id : GroupId}
    (hn : IndexRange.groups.Holds id) {base count : Nat} (hp : base + count ≤ Table.member.depth)
    (hid : (Site.entry .group id).Aloof F)
    (ha : ∀ n, base ≤ n → n < base + count → (Site.entry .member n).Aloof F) :
    Reflected T refused F ((W.drop (.entry .group id)).dropMembers base count)
      (clearGroup id base count bus) :=
  clearMembers_reflected ht (h.wipeEntry ht .group hn.2 hid) hp ha

end Routing

end ControlPlane
