import ControlPlane.Proofs.KeyMap

/-! # Counting users

Holding and dropping an object changes how many users it counts and nothing else.
`KeyMap.Recounts m m' count` says that `m'` has the objects of `m`, and that where `m` counts `u`
users of an object `k`, `m'` counts `count k u` of them.

* What does not look at the counts is the same in both maps: which objects there are (`contains_eq`)
  and every total over the objects themselves (`total_eq`).
* `holdTarget_recounts`, `dropTarget_recounts`, `foldl_holdEgress` and `foldl_dropEgress` say how the
  ways of holding and dropping count. -/

namespace ControlPlane

/-- `m'` has the objects of `m`, each with its users counted anew. -/
def KeyMap.Recounts {κ α : Type} [Key κ] (m m' : KeyMap κ (Counted α)) (count : κ → Nat → Nat) :
    Prop :=
  ∀ k, m'.get? k = (m.get? k).map fun c => ⟨c.value, count k c.users⟩

namespace KeyMap.Recounts

variable {κ α : Type} [Key κ] {m m' m'' : KeyMap κ (Counted α)} {count count' : κ → Nat → Nat}

theorem refl (m : KeyMap κ (Counted α)) : m.Recounts m fun _ u => u := by
  intro k
  simp

theorem trans (h : m.Recounts m' count) (h' : m'.Recounts m'' count') :
    m.Recounts m'' fun k u => count' k (count k u) := by
  intro k
  rw [h' k, h k, Option.map_map]
  rfl

theorem congr (h : m.Recounts m' count) (hc : ∀ k u, count' k u = count k u) :
    m.Recounts m' count' := by
  intro k
  simp only [h k, hc]

theorem contains_eq (h : m.Recounts m' count) (k : κ) : m'.contains k = m.contains k := by
  rw [contains, contains, h k, Option.isSome_map]

/-- An object of `m'` is one of `m`. -/
theorem get?_some (h : m.Recounts m' count) {k : κ} {c' : Counted α} (hc : m'.get? k = some c') :
    ∃ c, m.get? k = some c ∧ c' = ⟨c.value, count k c.users⟩ := by
  rw [h k] at hc
  obtain ⟨c, hm, he⟩ := Option.map_eq_some_iff.mp hc
  exact ⟨c, hm, he.symm⟩

/-- A total over the objects does not see how their users are counted. -/
theorem total_eq (h : m.Recounts m' count) (f : α → Nat) :
    (m'.total fun c => f c.value) = m.total fun c => f c.value := by
  refine total_congr fun k => ?_
  rw [h k]
  cases m.get? k <;> rfl

variable [DecidableEq κ]

/-- One object counts anew. -/
theorem alter (m : KeyMap κ (Counted α)) (k : κ) {f : Counted α → Counted α} {g : Nat → Nat}
    (hf : ∀ c, f c = ⟨c.value, g c.users⟩) :
    m.Recounts (m.alter k f) fun a u => if k = a then g u else u := by
  intro a
  rw [get?_alter]
  by_cases h : k = a
  · simp only [if_pos h]
    exact congrArg (fun f => (m.get? a).map f) (funext hf)
  · simp only [if_neg h]
    exact Option.map_id'.symm

theorem alter_hold (m : KeyMap κ (Counted α)) (k : κ) :
    m.Recounts (m.alter k Counted.hold) fun a u => u + if k = a then 1 else 0 := by
  refine (alter m k (g := (· + 1)) fun _ => rfl).congr fun a u => ?_
  split <;> rfl

theorem alter_drop (m : KeyMap κ (Counted α)) (k : κ) :
    m.Recounts (m.alter k Counted.drop) fun a u => u - if k = a then 1 else 0 := by
  refine (alter m k (g := (· - 1)) fun _ => rfl).congr fun a u => ?_
  split <;> rfl

end KeyMap.Recounts

namespace Routing

/-! ### Targets of routes -/

/-- `r'` is `r` with the users of what routes can lead to counted anew. -/
structure Recounts (r r' : Routing) (count : RouteTarget → Nat → Nat) : Prop where
  eq : r' = { r with egresses := r'.egresses, groups := r'.groups }
  egresses : r.egresses.Recounts r'.egresses fun id => count (.egress id)
  groups : r.groups.Recounts r'.groups fun id => count (.group id)

theorem Recounts.trans {r r' r'' : Routing} {count count' : RouteTarget → Nat → Nat}
    (h : r.Recounts r' count) (h' : r'.Recounts r'' count') :
    r.Recounts r'' fun t u => count' t (count t u) where
  eq := by rw [h'.eq, h.eq]
  egresses := h.egresses.trans h'.egresses
  groups := h.groups.trans h'.groups

theorem holdTarget_recounts (r : Routing) (t : RouteTarget) :
    r.Recounts (r.holdTarget t) fun a u => u + if t = a then 1 else 0 := by
  cases t with
  | egress id =>
      refine ⟨rfl, (KeyMap.Recounts.alter_hold r.egresses id).congr ?_, .refl _⟩
      simp only [RouteTarget.egress.injEq, implies_true]
  | group id =>
      refine ⟨rfl, .refl _, (KeyMap.Recounts.alter_hold r.groups id).congr ?_⟩
      simp only [RouteTarget.group.injEq, implies_true]

theorem dropTarget_recounts (r : Routing) (t : RouteTarget) :
    r.Recounts (r.dropTarget t) fun a u => u - if t = a then 1 else 0 := by
  cases t with
  | egress id =>
      refine ⟨rfl, (KeyMap.Recounts.alter_drop r.egresses id).congr ?_, .refl _⟩
      simp only [RouteTarget.egress.injEq, implies_true]
  | group id =>
      refine ⟨rfl, .refl _, (KeyMap.Recounts.alter_drop r.groups id).congr ?_⟩
      simp only [RouteTarget.group.injEq, implies_true]

/-! ### Members of groups -/

theorem foldl_holdEgress (members : List EgressId) (r : Routing) :
    members.foldl holdEgress r = { r with egresses := (members.foldl holdEgress r).egresses } ∧
      r.egresses.Recounts (members.foldl holdEgress r).egresses
        fun id u => u + members.count id := by
  induction members generalizing r with
  | nil => exact ⟨rfl, .refl _⟩
  | cons m ms ih =>
      obtain ⟨he, hr⟩ := ih (r.holdEgress m)
      refine ⟨by rw [List.foldl_cons, he]; rfl, ?_⟩
      refine ((KeyMap.Recounts.alter_hold r.egresses m).trans hr).congr fun id u => ?_
      rw [List.count_cons, Nat.add_assoc, Nat.add_comm (List.count id ms)]
      simp only [beq_iff_eq]

theorem foldl_dropEgress (members : List EgressId) (r : Routing) :
    members.foldl dropEgress r = { r with egresses := (members.foldl dropEgress r).egresses } ∧
      r.egresses.Recounts (members.foldl dropEgress r).egresses
        fun id u => u - members.count id := by
  induction members generalizing r with
  | nil => exact ⟨rfl, .refl _⟩
  | cons m ms ih =>
      obtain ⟨he, hr⟩ := ih (r.dropEgress m)
      refine ⟨by rw [List.foldl_cons, he]; rfl, ?_⟩
      refine ((KeyMap.Recounts.alter_drop r.egresses m).trans hr).congr fun id u => ?_
      rw [List.count_cons, Nat.sub_sub, Nat.add_comm (List.count id ms)]
      simp only [beq_iff_eq]

end Routing

end ControlPlane
