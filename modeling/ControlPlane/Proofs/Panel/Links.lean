import Mathlib.Logic.Function.Basic
import ControlPlane.Proofs.Device.Reading
import ControlPlane.Proofs.KeyMap
import ControlPlane.Proofs.Panel.Enables

/-! # Looking at links

A poll looks at the watched ports one after the other, and keeps the states that it has seen for the next one.

* **One look.**  `Ports.linkUp_ends`: what a look at a port sees over an emulated chip, and that it leaves a
  channel that is as before to every read.
* **One poll.**  `Ports.poll_eq`: which ports are reported and which states are kept, by what its looks see one
  after the other (`Ports.lookAll`).  Over an emulated chip they see the ports as the poll has found them
  (`Ports.lookAll_reread`). -/

namespace ControlPlane

theorem PortId.modeRegister_lt (p : PortId) : p.locate.modeRegister < 2 ^ 32 := by
  have hbase : ∀ block < Location.blockBases.length,
      (Location.ofBlock block 0).base ≤ 0x40b00000 := by decide
  have hblock : p.locate.base ≤ 0x40b00000 := hbase p.block p.block_lt
  have hlane : p.locate.lane < 4 := p.lane_lt
  unfold Location.modeRegister Location.laneRegister
  omega

namespace Ports

variable {δ : Type} [Bus δ] {board : Board} {p q : PortId} {ports : Ports} {last : LinkStates}

/-! ### One look -/

/-- What a look at a port sees. -/
def look (board : Board) (s : Ports × δ) (p : PortId) : Option Bool :=
  (Operation.answer (linkUp board p) s).toOption

theorem look_eq_some_iff {s : Ports × δ} {up : Bool} :
    look board s p = some up ↔ Operation.answer (linkUp board p) s = .ok up := by
  unfold look
  cases Operation.answer (linkUp board p) s <;> simp [Except.toOption]

theorem linkUp_beyond (hp : ¬ board.Has p) (s : Ports × δ) :
    linkUp board p s = .error (.invalid (.beyondPorts p board.ports)) s :=
  if_neg hp

/-- Every port of the board can be looked at, and no other. -/
theorem look_isSome_iff (s : Ports × δ) : (∃ up, look board s p = some up) ↔ board.Has p := by
  obtain ⟨ports, bus⟩ := s
  unfold look Operation.answer linkUp
  by_cases hp : board.Has p
  · simp only [hp, if_true, iff_true]
    cases (Bus.read p.locate.modeRegister 1 : DeviceOperation δ _) bus <;> exact ⟨_, rfl⟩
  · simp [hp, Except.toOption]

theorem after_linkUp_fst (board : Board) (p : PortId) (s : Ports × δ) :
    (Operation.after (linkUp board p) s).1 = s.1 := by
  obtain ⟨ports, bus⟩ := s
  unfold Operation.after linkUp
  by_cases hp : board.Has p
  · simp only [hp, if_true]
    cases (Bus.read p.locate.modeRegister 1 : DeviceOperation δ _) bus <;> rfl
  · simp only [hp, if_false]

/-- A look sees the port's link, or whether it is enabled where no link can be read. -/
theorem linkUp_ends (ports : Ports) {ch : Channel} (h : ch.Sound) (hp : board.Has p) :
    ∃ ch', ch.Reread ch' ∧
    (ch.Heard ∧ linkUp board p (ports, ch) =
        .ok (Bits.flag (ch.memory.read p.locate.modeRegister).toNat Location.linkBit) (ports, ch') ∨
      ¬ ch.Heard ∧ linkUp board p (ports, ch) = .ok (ports.isEnabled p) (ports, ch')) := by
  have hends := Channel.readMemory_ends h p.modeRegister_lt (by decide : 1 ≤ payloadWordsMax)
  have haddress : p.locate.modeRegister % 2 ^ 32 = p.locate.modeRegister :=
    Nat.mod_eq_of_lt p.modeRegister_lt
  unfold linkUp
  simp only [hp, if_true]
  cases hb : (Bus.read p.locate.modeRegister 1 : DeviceOperation Channel _) ch with
  | ok words ch' =>
      obtain ⟨hheard, rfl, hreread⟩ := hends.of_ok hb
      refine ⟨ch', hreread, .inl ⟨hheard, ?_⟩⟩
      simp only [wordAddresses, Memory.readAll, List.map_cons, List.head?_cons, Option.any_some, haddress]
  | error e ch' =>
      obtain ⟨hnot, hreread⟩ := hends.of_error hb
      exact ⟨ch', hreread, .inr ⟨hnot, rfl⟩⟩

/-- A port is seen as it was before other looks. -/
theorem look_reread {ch ch' : Channel} (h : ch.Sound) (hr : ch.Reread ch') (p : PortId) :
    look board (ports, ch') p = look board (ports, ch) p := by
  unfold look Operation.answer
  by_cases hp : board.Has p
  · obtain ⟨_, -, hbefore⟩ := linkUp_ends ports h hp
    obtain ⟨_, -, hafter⟩ := linkUp_ends ports hr.sound hp
    rw [hr.memory_eq, hr.heard_iff] at hafter
    rcases hbefore with ⟨hheard, hbefore⟩ | ⟨hheard, hbefore⟩
    · obtain ⟨-, hafter⟩ := hafter.resolve_right fun hnot => hnot.1 hheard
      rw [hbefore, hafter]
    · obtain ⟨-, hafter⟩ := hafter.resolve_left fun hnot => hheard hnot.1
      rw [hbefore, hafter]
  · rw [linkUp_beyond hp, linkUp_beyond hp]

/-- A look leaves a channel that is as before to every read. -/
theorem reread_after_linkUp {ch : Channel} (h : ch.Sound) (board : Board) (p : PortId) :
    ch.Reread (Operation.after (linkUp board p) (ports, ch)).2 := by
  by_cases hp : board.Has p
  · obtain ⟨ch', hr, ⟨-, heq⟩ | ⟨-, heq⟩⟩ := linkUp_ends ports h hp
    · rw [Operation.after_ok heq]
      exact hr
    · rw [Operation.after_ok heq]
      exact hr
  · rw [Operation.after, linkUp_beyond hp]
    exact .refl h

/-! ### One look after another -/

/-- What looks at some ports see, one after the other: each of them finds the bus as those before it have left
it. -/
def lookAll (board : Board) : List PortId → Ports × δ → PortId → Option Bool
  | [], _ => fun _ => none
  | p :: ps, s =>
    Function.update (lookAll board ps (Operation.after (linkUp board p) s)) p (look board s p)

theorem lookAll_cons_self (p : PortId) (ps : List PortId) (s : Ports × δ) :
    lookAll board (p :: ps) s p = look board s p :=
  Function.update_self ..

theorem lookAll_cons_of_ne (h : q ≠ p) (ps : List PortId) (s : Ports × δ) :
    lookAll board (p :: ps) s q = lookAll board ps (Operation.after (linkUp board p) s) q :=
  Function.update_of_ne h ..

/-- The ports of the board are seen where they are looked at, and no others. -/
theorem lookAll_isSome_iff {ps : List PortId} {s : Ports × δ} :
    (∃ up, lookAll board ps s q = some up) ↔ q ∈ ps ∧ board.Has q := by
  induction ps generalizing s with
  | nil => simp [lookAll]
  | cons p ps ih =>
      by_cases hq : q = p
      · subst hq
        rw [lookAll_cons_self, look_isSome_iff]
        simp
      · rw [lookAll_cons_of_ne hq, ih]
        simp [hq]

theorem lookAll_eq_none {ps : List PortId} (h : q ∉ ps) (s : Ports × δ) : lookAll board ps s q = none := by
  rw [← Option.not_isSome_iff_eq_none, Option.isSome_iff_exists, lookAll_isSome_iff]
  exact fun hq => h hq.1

/-- Over an emulated chip all looks see the ports as the first one has found them. -/
theorem lookAll_reread {ch ch' : Channel} (h : ch.Sound) (hr : ch.Reread ch') (ps : List PortId) :
    lookAll board ps (ports, ch') q = if q ∈ ps then look board (ports, ch) q else none := by
  induction ps generalizing ch' with
  | nil => rfl
  | cons p ps ih =>
      by_cases hq : q = p
      · subst hq
        rw [lookAll_cons_self, look_reread h hr, if_pos List.mem_cons_self]
      · have hafter : Operation.after (linkUp board p) (ports, ch') =
            (ports, (Operation.after (linkUp board p) (ports, ch')).2) :=
          Prod.ext (after_linkUp_fst board p _) rfl
        rw [lookAll_cons_of_ne hq, hafter, ih (hr.trans (reread_after_linkUp hr.sound board p))]
        simp only [List.mem_cons, hq, false_or]

/-! ### One poll -/

/-- What is reported for a port that is seen so, by the states that were reported last. -/
def changeOf (seen last : PortId → Option Bool) (p : PortId) : Option LinkChange :=
  (seen p).bind fun up => if last p = some up then none else some ⟨p, up⟩

theorem changeOf_eq_some_iff {seen reported : PortId → Option Bool} {c : LinkChange} :
    changeOf seen reported p = some c ↔
      c.port = p ∧ seen p = some c.up ∧ reported p ≠ some c.up := by
  obtain ⟨port, up⟩ := c
  unfold changeOf
  cases seen p with
  | none => simp
  | some up' =>
      by_cases h : reported p = some up'
      · simp only [Option.bind_some, h, if_true, reduceCtorEq, Option.some.injEq, false_iff]
        rintro ⟨-, rfl, hne⟩
        exact hne rfl
      · simp only [Option.bind_some, if_neg h, Option.some.injEq, LinkChange.mk.injEq]
        constructor
        · rintro ⟨rfl, rfl⟩
          exact ⟨rfl, rfl, h⟩
        · rintro ⟨rfl, rfl, -⟩
          exact ⟨rfl, rfl⟩

/-- The looks of a poll decide what is reported, and which states are kept for the next one. -/
theorem pollAll_eq (board : Board) {ps : List PortId} (hps : ps.Nodup) (last : LinkStates) (s : Ports × δ) :
    (pollAll board ps last s).1.1 = ps.filterMap (changeOf (lookAll board ps s) last.get?) ∧
      ∀ q, (pollAll board ps last s).1.2.get? q = (lookAll board ps s q).or (last.get? q) := by
  induction ps generalizing last s with
  | nil => exact ⟨rfl, fun q => rfl⟩
  | cons p ps ih =>
      obtain ⟨hnot, hps⟩ := List.nodup_cons.mp hps
      -- the ports that are still to come are other ones
      have hrest {last' : LinkStates} (hlast : ∀ q, q ≠ p → last'.get? q = last.get? q) :
          ps.filterMap (changeOf (lookAll board ps (Operation.after (linkUp board p) s)) last'.get?) =
            ps.filterMap (changeOf (lookAll board (p :: ps) s) last.get?) := by
        refine List.filterMap_congr fun q hq => ?_
        have hne : q ≠ p := fun heq => hnot (heq ▸ hq)
        rw [changeOf, changeOf, lookAll_cons_of_ne hne, hlast q hne]
      cases hup : linkUp board p s with
      | error e t =>
          have hlook : look board s p = none := by
            rw [look, Operation.answer, hup]
            rfl
          have hafter : Operation.after (linkUp board p) s = t := by rw [Operation.after, hup]
          have hnone : changeOf (lookAll board (p :: ps) s) last.get? p = none := by
            rw [changeOf, lookAll_cons_self, hlook]
            rfl
          obtain ⟨hchanges, hlast⟩ := ih hps last t
          simp only [pollAll, hup]
          refine ⟨?_, fun q => (hlast q).trans ?_⟩
          · rw [hchanges, List.filterMap_cons_none hnone, ← hafter, hrest fun _ _ => rfl]
          · by_cases hq : q = p
            · subst hq
              rw [lookAll_cons_self, hlook, lookAll_eq_none hnot]
            · rw [lookAll_cons_of_ne hq, hafter]
      | ok up t =>
          have hlook : look board s p = some up := by
            rw [look, Operation.answer, hup]
            rfl
          have hafter : Operation.after (linkUp board p) s = t := by rw [Operation.after, hup]
          have hchange : changeOf (lookAll board (p :: ps) s) last.get? p =
              if last.get? p = some up then none else some ⟨p, up⟩ := by
            rw [changeOf, lookAll_cons_self, hlook]
            rfl
          obtain ⟨hchanges, hlast⟩ := ih hps (last.insert p up) t
          rw [← hafter, hrest fun q hq => KeyMap.get?_insert_of_ne last up (Ne.symm hq), hafter] at hchanges
          have hstates (q : PortId) : (pollAll board ps (last.insert p up) t).1.2.get? q =
              (lookAll board (p :: ps) s q).or (last.get? q) := by
            rw [hlast]
            by_cases hq : q = p
            · subst hq
              rw [lookAll_cons_self, hlook, lookAll_eq_none hnot, KeyMap.get?_insert_self]
              rfl
            · rw [lookAll_cons_of_ne hq, hafter, KeyMap.get?_insert_of_ne last up (Ne.symm hq)]
          simp only [pollAll, hup]
          by_cases hsame : last.get? p = some up
          · rw [if_pos hsame] at hchange ⊢
            exact ⟨by rw [hchanges, List.filterMap_cons_none hchange], hstates⟩
          · rw [if_neg hsame] at hchange ⊢
            exact ⟨by rw [hchanges, List.filterMap_cons_some hchange], hstates⟩

/-- What each look keeps, a poll keeps. -/
theorem pollAll_keeps {I : Ports × δ → Prop} (hlook : ∀ p s, I s → I (Operation.after (linkUp board p) s))
    (ps : List PortId) (last : LinkStates) {s : Ports × δ} (hs : I s) : I (pollAll board ps last s).2 := by
  induction ps generalizing last s with
  | nil => exact hs
  | cons p ps ih =>
      have hafter := hlook p s hs
      cases hup : linkUp board p s with
      | error e t =>
          rw [Operation.after, hup] at hafter
          simp only [pollAll, hup]
          exact ih last hafter
      | ok up t =>
          rw [Operation.after, hup] at hafter
          simp only [pollAll, hup]
          split
          · exact ih _ hafter
          · exact ih _ hafter

/-- The states of ports that are no longer watched are forgotten. -/
theorem get?_stillWatched (ports : Ports) (last : LinkStates) (q : PortId) :
    (ports.stillWatched last).get? q = if ports.watched.contains q then last.get? q else none := by
  have hall (ps : List PortId) (m : LinkStates) :
      (ps.foldl (fun m p => if ports.watched.contains p then m else m.erase p) m).get? q =
        if q ∈ ps ∧ ports.watched.contains q = false then none else m.get? q := by
    induction ps generalizing m with
    | nil => simp
    | cons p ps ih =>
        rw [List.foldl_cons, ih]
        by_cases hq : q = p
        · subst hq
          cases ports.watched.contains q <;> simp
        · cases ports.watched.contains p <;> simp [hq, KeyMap.get?_erase_of_ne m (Ne.symm hq)]
  rw [stillWatched, hall]
  cases hw : ports.watched.contains q with
  | true => simp
  | false =>
      by_cases hq : q ∈ last.keys
      · simp [hq]
      · have hnone : last.get? q = none := by
          rw [KeyMap.mem_keys_iff, ← Option.isSome_iff_exists, Option.not_isSome_iff_eq_none] at hq
          exact hq
        simp [hnone]

/-- What a poll reports, and the states that it keeps. -/
theorem poll_eq (board : Board) (last : LinkStates) (s : Ports × δ) :
    (poll board last s).1.1 = s.1.watched.keys.filterMap
        (changeOf (lookAll board s.1.watched.keys s) (s.1.stillWatched last).get?) ∧
      ∀ q, (poll board last s).1.2.get? q = if s.1.watched.contains q
        then (lookAll board s.1.watched.keys s q).or (last.get? q) else none := by
  obtain ⟨hchanges, hstates⟩ := pollAll_eq board s.1.watched.keys_nodup (s.1.stillWatched last) s
  refine ⟨hchanges, fun q => (hstates q).trans ?_⟩
  rw [get?_stillWatched]
  by_cases hw : s.1.watched.contains q = true
  · rw [if_pos hw, if_pos hw]
  · have hnot : q ∉ s.1.watched.keys := by
      rw [KeyMap.mem_keys_iff, ← KeyMap.contains_iff]
      exact hw
    rw [if_neg hw, if_neg hw, lookAll_eq_none hnot, Option.none_or]

theorem poll_fst (board : Board) (last : LinkStates) (s : Ports × δ) : (poll board last s).2.1 = s.1 :=
  pollAll_keeps (I := fun t : Ports × δ => t.1 = s.1)
    (fun p t ht => (after_linkUp_fst board p t).trans ht) _ _ rfl

/-- A poll leaves a channel that is as before to every read. -/
theorem reread_poll {ch : Channel} (h : ch.Sound) (board : Board) (ports : Ports) (last : LinkStates) :
    ch.Reread (poll board last (ports, ch)).2.2 := by
  refine pollAll_keeps (I := fun t : Ports × Channel => ch.Reread t.2) ?_ _ _ (.refl h)
  intro p t ht
  exact ht.trans (reread_after_linkUp ht.sound board p)

end Ports

end ControlPlane
