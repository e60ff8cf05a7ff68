import ControlPlane.Proofs.Kernel.Reroute
import ControlPlane.Proofs.Subnet

/-! # Who owns an egress object

Every egress object is made for one route, the kernel's for a subnet or a neighbour's host route, and
the books name it under that owner.  `Owns record v` ties the books to what is routed:

* the egress objects that are there are those with an owner, and no two owners have the same one;
* a route leads to the egress object of an owner whose key is the route's subnet.

Owners can share a key, two subnets that differ in host bits or a neighbour and the kernel, so an owner
may be without a route.  What counts is that nothing else leads to its egress object: when the route of
its key is gone or leads elsewhere, the egress object is free to go (`Owns.drop`). -/

namespace ControlPlane.Follower

open Routing (View)

variable {δ : Type}

/-- What an egress object can be made for. -/
inductive Owner where
  /-- A route of the kernel. -/
  | kernel (subnet : Subnet)
  /-- The host route of a neighbour. -/
  | neighbor (ip : Ipv4)
  deriving DecidableEq

/-- The subnet of an owner's route, as the tables know it. -/
def Owner.key : Owner → Subnet
  | kernel subnet => subnet.canon
  | neighbor ip => .host ip

theorem Owner.neighbor_ne_kernel (ip : Ipv4) (subnet : Subnet) : neighbor ip ≠ kernel subnet := by
  simp

/-- The egress object that the books name under an owner. -/
def record (m : Follower δ) : Owner → Option EgressId
  | .kernel subnet => (m.installed.get? subnet).map InstalledRoute.egress
  | .neighbor ip => (m.hosts.get? ip).map HostRoute.egress

/-- The egress objects are those with an owner, and routes lead to those of their key's owners. -/
structure Owns (record : Owner → Option EgressId) (v : View) : Prop where
  live_iff : ∀ id, v.egress? id ≠ none ↔ ∃ o, record o = some id
  unique : ∀ o o' id, record o = some id → record o' = some id → o = o'
  routed : ∀ s route, v.route? s = some route →
    ∃ o id, record o = some id ∧ o.key = s ∧ route.target = .egress id

/-- What is routed is intact and without groups, and the books own all of it. -/
structure Owned (m : Follower δ) : Prop where
  plain : m.switch.routing.Plain
  owns : Owns m.record m.view

namespace Owns

variable {record : Owner → Option EgressId} {v : View} {o : Owner} {id a : EgressId}
  {slot : RouteSlot} {e : Egress}

theorem ne_of_fresh (h : Owns record v) {key : Subnet} (hf : v.Fresh key a slot)
    (ho : record o = some id) : id ≠ a := by
  rintro rfl
  exact (h.live_iff id).mpr ⟨o, ho⟩ hf.free

theorem record_ne (h : Owns record v) (ho : record o = some id) {o' : Owner} (hne : o' ≠ o) :
    record o' ≠ some id :=
  fun ho' => hne (h.unique o' o id ho' ho)

/-- Nothing but the route of its owner's key leads to an egress object. -/
theorem routed_key (h : Owns record v) (ho : record o = some id) {s : Subnet} {route : Route}
    (hs : v.route? s = some route) (ht : route.target = .egress id) : s = o.key := by
  obtain ⟨o', id', ho', hk, ht'⟩ := h.routed s route hs
  rw [ht] at ht'
  cases ht'
  rw [← hk, h.unique o o' id ho ho']

/-- A route that goes leaves its owner without one. -/
theorem unroute (h : Owns record v) (s : Subnet) : Owns record (v.setRoute s none) where
  live_iff := h.live_iff
  unique := h.unique
  routed := by
    intro k route hk
    by_cases hks : k = s
    · subst hks
      rw [View.setRoute_self] at hk
      cases hk
    · rw [View.setRoute_of_ne _ hks] at hk
      exact h.routed k route hk

theorem not_routed_unroute (h : Owns record v) (ho : record o = some id) :
    ¬ (v.setRoute o.key none).Routed id := by
  rintro ⟨s, route, hs, ht⟩
  by_cases hk : s = o.key
  · subst hk
    rw [View.setRoute_self] at hs
    cases hs
  · rw [View.setRoute_of_ne _ hk] at hs
    exact hk (h.routed_key ho hs ht)

/-- Once the route of a key leads to a new egress object, nothing leads to those of the key's owners. -/
theorem not_routed_provide (h : Owns record v) {key : Subnet} (hf : v.Fresh key a slot)
    (hk : o.key = key) (ho : record o = some id) : ¬ (v.provide key e a slot).Routed id := by
  have hne : id ≠ a := h.ne_of_fresh hf ho
  rintro ⟨s, route, hs, ht⟩
  rw [View.provide_route?] at hs
  split at hs
  · cases hs
    cases ht
    exact hne rfl
  · rename_i hs'
    exact hs' ((h.routed_key ho hs ht).trans hk)

/-- An egress object that no route leads to can go, and its owner goes with it. -/
theorem drop (h : Owns record v) (hr : ∀ id, record o = some id → ¬ v.Routed id) :
    Owns (Function.update record o none) (v.drop? (record o)) where
  live_iff := by
    intro id
    by_cases ho : record o = some id
    · rw [ho, View.drop?_self]
      refine ⟨fun hn => absurd rfl hn, ?_⟩
      rintro ⟨o', ho'⟩
      by_cases he : o' = o
      · subst he
        rw [Function.update_self] at ho'
        cases ho'
      · rw [Function.update_of_ne he] at ho'
        exact absurd (h.unique o' o id ho' ho) he
    · rw [View.drop?_egress?_of_ne ho, h.live_iff]
      constructor
      · rintro ⟨o', ho'⟩
        have he : o' ≠ o := fun he => ho (he ▸ ho')
        exact ⟨o', (Function.update_of_ne he _ _).trans ho'⟩
      · rintro ⟨o', ho'⟩
        by_cases he : o' = o
        · subst he
          rw [Function.update_self] at ho'
          cases ho'
        · exact ⟨o', (Function.update_of_ne he _ _).symm.trans ho'⟩
  unique := by
    intro o₁ o₂ id h₁ h₂
    rw [Function.update_apply] at h₁ h₂
    split at h₁
    · cases h₁
    · split at h₂
      · cases h₂
      · exact h.unique o₁ o₂ id h₁ h₂
  routed := by
    intro s route hs
    rw [View.drop?_route?] at hs
    obtain ⟨o', id, ho', hk, ht⟩ := h.routed s route hs
    have he : o' ≠ o := by
      rintro rfl
      exact hr id ho' ⟨s, route, hs, ht⟩
    exact ⟨o', id, (Function.update_of_ne he _ _).trans ho', hk, ht⟩

/-- An owner takes a new egress object, which the route of its key leads to, for its old one. -/
theorem take (h : Owns record v) (hf : v.Fresh o.key id slot) :
    Owns (Function.update record o (some id)) ((v.provide o.key e id slot).drop? (record o)) where
  live_iff := by
    intro a
    have hid : ∀ o', record o' ≠ some id := fun o' ho' => h.ne_of_fresh hf ho' rfl
    by_cases ha : record o = some a
    · have hne : a ≠ id := fun he => hid o (he ▸ ha)
      rw [ha, View.drop?_self]
      refine ⟨fun hn => absurd rfl hn, ?_⟩
      rintro ⟨o', ho'⟩
      by_cases he : o' = o
      · subst he
        rw [Function.update_self] at ho'
        cases ho'
        exact absurd rfl hne
      · rw [Function.update_of_ne he] at ho'
        exact absurd (h.unique o' o a ho' ha) he
    · rw [View.drop?_egress?_of_ne ha, View.provide_egress?]
      by_cases hae : a = id
      · subst hae
        rw [if_pos rfl]
        exact ⟨fun _ => ⟨o, Function.update_self _ _ _⟩, fun _ => Option.some_ne_none e⟩
      · rw [if_neg hae, h.live_iff]
        constructor
        · rintro ⟨o', ho'⟩
          have he : o' ≠ o := fun he => ha (he ▸ ho')
          exact ⟨o', (Function.update_of_ne he _ _).trans ho'⟩
        · rintro ⟨o', ho'⟩
          by_cases he : o' = o
          · subst he
            rw [Function.update_self] at ho'
            cases ho'
            exact absurd rfl hae
          · exact ⟨o', (Function.update_of_ne he _ _).symm.trans ho'⟩
  unique := by
    have hid : ∀ o', record o' ≠ some id := fun o' ho' => h.ne_of_fresh hf ho' rfl
    intro o₁ o₂ a h₁ h₂
    rw [Function.update_apply] at h₁ h₂
    split at h₁ <;> split at h₂
    · rename_i e₁ e₂
      rw [e₁, e₂]
    · cases h₁
      exact absurd h₂ (hid o₂)
    · cases h₂
      exact absurd h₁ (hid o₁)
    · exact h.unique o₁ o₂ a h₁ h₂
  routed := by
    intro s route hs
    rw [View.drop?_route?, View.provide_route?] at hs
    split at hs
    · rename_i hk
      cases hs
      exact ⟨o, id, Function.update_self _ _ _, hk.symm, rfl⟩
    · rename_i hk
      obtain ⟨o', a, ho', hk', ht⟩ := h.routed s route hs
      have he : o' ≠ o := fun he => hk (hk'.symm.trans (congrArg Owner.key he))
      exact ⟨o', a, (Function.update_of_ne he _ _).trans ho', hk', ht⟩

/-- An owner that goes takes its route and its egress object with it. -/
theorem forget (h : Owns record v) (o : Owner) :
    Owns (Function.update record o none) ((v.setRoute o.key none).drop? (record o)) :=
  (h.unroute o.key).drop fun _ ho => h.not_routed_unroute ho

end Owns

/-! ### The books -/

theorem record_installed (m : Follower δ) (subnet : Subnet) (route : InstalledRoute) :
    record { m with installed := m.installed.insert subnet route } =
      Function.update m.record (.kernel subnet) (some route.egress) := by
  funext o
  cases o with
  | kernel s =>
      rw [Function.update_apply]
      simp only [record, KeyMap.get?_insert, Owner.kernel.injEq, eq_comm]
      split <;> rfl
  | neighbor ip => rfl

theorem record_uninstalled (m : Follower δ) (subnet : Subnet) :
    record { m with installed := m.installed.erase subnet } =
      Function.update m.record (.kernel subnet) none := by
  funext o
  cases o with
  | kernel s =>
      rw [Function.update_apply]
      simp only [record, KeyMap.get?_erase, Owner.kernel.injEq, eq_comm]
      split <;> rfl
  | neighbor ip => rfl

theorem record_hosted (m : Follower δ) (ip : Ipv4) (host : HostRoute) :
    record { m with hosts := m.hosts.insert ip host } =
      Function.update m.record (.neighbor ip) (some host.egress) := by
  funext o
  cases o with
  | kernel s => rfl
  | neighbor a =>
      rw [Function.update_apply]
      simp only [record, KeyMap.get?_insert, Owner.neighbor.injEq, eq_comm]
      split <;> rfl

theorem record_unhosted (m : Follower δ) (ip : Ipv4) :
    record { m with hosts := m.hosts.erase ip } = Function.update m.record (.neighbor ip) none := by
  funext o
  cases o with
  | kernel s => rfl
  | neighbor a =>
      rw [Function.update_apply]
      simp only [record, KeyMap.get?_erase, Owner.neighbor.injEq, eq_comm]
      split <;> rfl

theorem owned_fresh (board : Board) (bus : δ) : (fresh (.fresh board bus)).Owned where
  plain := Routing.plain_fresh
  owns := {
    live_iff := by
      intro id
      refine ⟨fun h => absurd rfl h, ?_⟩
      rintro ⟨o, ho⟩
      cases o <;> cases ho
    unique := by
      intro o o' id ho
      cases o <;> cases ho
    routed := by
      intro s route hs
      cases hs }

end ControlPlane.Follower
