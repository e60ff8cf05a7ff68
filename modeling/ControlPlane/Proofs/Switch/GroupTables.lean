import ControlPlane.Proofs.Switch.Runs
import ControlPlane.Proofs.Table.Codecs

/-! # Groups that share words

The descriptors of groups run into the table of members: from group 256 on, a descriptor lies where
seven places are (`Group.OverrunBy`), and whichever of the two is written last, or cleared, is what the
chip finds.  A group whose words no live group shares, itself included, is what the chip forwards by.

* **Step.**  `Switch.GroupKept.created` and `Switch.GroupKept.serve`: a group that shares no words is in
  the chip's memory once it was created, and a request leaves it there.
* **Run.**  `Switch.groups_shown`. -/

namespace ControlPlane

open Operation (Ends)

/-! ### Descriptors and places -/

/-- The descriptor of group `id` lies where one of a group's places is. -/
def Group.OverrunBy (g : Group) (id : Nat) : Prop :=
  ∃ n, g.Occupies n ∧ 8 * id ≤ 2048 + n ∧ 2048 + n < 8 * id + 7

/-- The first 256 descriptors run over no place. -/
theorem Group.not_overrunBy {g : Group} {id : Nat} (h : id < 256) : ¬ g.OverrunBy id := by
  rintro ⟨n, -, h1, h2⟩
  omega

namespace Site

/-- The entries of a group. -/
def OfGroup (id : Nat) (g : Group) : Site → Prop
  | entry .group k => k = id
  | entry .member n => g.Occupies n
  | _ => False

variable {id id' : Nat} {g g' : Group}

theorem group_apart_of_not_overrun (h : ¬ g.OverrunBy id) {n : Nat} (hn : g.Occupies n) :
    (entry .group id).Apart (entry .member n) := by
  have hout : ¬ (8 * id ≤ 2048 + n ∧ 2048 + n < 8 * id + 7) := fun hin => h ⟨n, hn, hin⟩
  rw [group_member_apart_iff]
  omega

theorem group_aloof (h : ¬ g.OverrunBy id') : (entry .group id').Aloof (OfGroup id g) := by
  intro u hu _ hne
  rcases u with ⟨t, k⟩ | b
  · cases t with
    | group => exact apart_of_index_ne .group fun he => hne (he ▸ rfl)
    | member => exact group_apart_of_not_overrun h hu
    | _ => exact hu.elim
  · exact hu.elim

theorem member_aloof (h : ¬ g'.OverrunBy id) {n : Nat} (hn : g'.Occupies n) :
    (entry .member n).Aloof (OfGroup id g) := by
  intro u hu _ hne
  rcases u with ⟨t, k⟩ | b
  · cases t with
    | group =>
        cases hu
        exact (group_apart_of_not_overrun h hn).symm
    | member => exact apart_of_index_ne .member fun he => hne (he ▸ rfl)
    | _ => exact hu.elim
  · exact hu.elim

/-- The entries of other tables lie apart from those of groups. -/
theorem aloof_ofGroup {t : Table} {i : Nat} (hg : t ≠ .group) (hm : t ≠ .member) (hi : i < t.depth) :
    (entry t i).Aloof (OfGroup id g) := by
  intro u hu hc hne
  have hon : (entry t i).OnChip := hi
  refine apart_of_not_crosses hon hc (Ne.symm hne) ?_
  rcases u with ⟨t', k⟩ | b
  · intro hcross
    rcases (Table.overlaps_iff t t').mp hcross with (⟨-, rfl⟩ | ⟨-, rfl⟩) | ⟨rfl, -⟩ | ⟨rfl, -⟩
    · exact hu
    · exact hu
    · exact hg rfl
    · exact hm rfl
  · exact fun hcross => hcross

/-- A place that a descriptor runs over holds a word of it. -/
theorem stored_overrun (m : Memory UInt32) {n j : Nat} (hj : j < 7) (hn : 2048 + n = 8 * id + j)
    {w : UInt32} (hw : ((entry .group id).stored m)[j]? = some w) :
    (entry .member n).stored m = [w] := by
  have haddress : (entry .group id).address + 4 * j = (entry .member n).address := by
    simp only [address, Table.address, Table.layout]
    omega
  have hread : ((entry .group id).stored m)[j]? =
      some (m.read (((entry .group id).address + 4 * j) % 2 ^ 32)) := by
    rw [stored, Memory.readAll, List.getElem?_map]
    change Option.map _ (wordAddresses _ 7)[j]? = _
    rw [getElem?_wordAddresses hj]
    rfl
  rw [hread, haddress] at hw
  cases hw
  rfl

end Site

/-! ### Which groups there are -/

section groups

variable {δ : Type} [Bus δ] {sw : Switch δ}

/-- Other requests leave the groups as they are. -/
theorem RoutingRequest.group?_eq (request : RoutingRequest) (h : sw.routing.Intact)
    (hcreate : ∀ members, request ≠ .createGroup members)
    (hdestroy : ∀ id, request ≠ .destroyGroup id) :
    (request.serve sw).routing.group? = sw.routing.group? := by
  have hsame {t : Routing × δ} (ht : t = (sw.routing, sw.bus)) : t.1.group? = sw.routing.group? :=
    congrArg (·.1.group?) ht
  have hroute (subnet : Subnet) (target : RouteTarget) :
      (Operation.after (Switch.addRoute subnet target) sw).routing.group? = sw.routing.group? :=
    Switch.after_onRouting (P := fun r => r.group? = sw.routing.group?)
      ((Routing.addRoute_objects h subnet target).mono (fun _ _ hq => hq.2.group?_eq)
        fun _ _ he => he.group?_eq)
  cases request with
  | createInterface mac vlan =>
      exact Switch.after_onRouting (P := fun r => r.group? = sw.routing.group?)
        ((Routing.createInterface_objects h mac vlan).mono (fun _ _ hq => hq.group?_eq)
          fun _ _ he => he.group?_eq)
  | destroyInterface id =>
      exact Switch.after_onRouting (P := fun r => r.group? = sw.routing.group?)
        ((Routing.destroyInterface_objects h id).mono (fun _ _ hq => hq.2.group?_eq)
          fun _ _ he => hsame he)
  | createEgress egress =>
      exact Switch.after_onRouting (P := fun r => r.group? = sw.routing.group?)
        ((Routing.createEgress_objects h sw.board egress).mono (fun _ _ hq => hq.group?_eq)
          fun _ _ he => he.group?_eq)
  | destroyEgress id =>
      exact Switch.after_onRouting (P := fun r => r.group? = sw.routing.group?)
        ((Routing.destroyEgress_objects h id).mono (fun _ _ hq => hq.2.group?_eq)
          fun _ _ he => hsame he)
  | addRoute subnet target => exact hroute subnet target
  | addHost ip egress =>
      cases ip with
      | v4 addr => exact hroute (.host addr) (.egress egress)
      | v6 addr => rfl
  | removeRoute subnet =>
      exact Switch.after_onRouting (P := fun r => r.group? = sw.routing.group?)
        ((Routing.removeRoute_objects h subnet).mono (fun _ _ hq => hq.group?_eq)
          fun _ _ he => hsame he)
  | createGroup members => exact absurd rfl (hcreate members)
  | destroyGroup id => exact absurd rfl (hdestroy id)

theorem Switch.destroyGroup_group? (h : sw.routing.Intact) (id : GroupId) :
    Ends (Switch.destroyGroup id) sw
      (fun _ sw' => sw'.routing.group? = Function.update sw.routing.group? id none)
      fun _ sw' => sw'.routing.group? = sw.routing.group? :=
  Ends.focus ((Routing.destroyGroup_objects h id).mono (fun _ _ hq => hq.group?_eq)
    fun _ _ he => congrArg (·.1.group?) he)

variable [MemoryBus δ] {refused : δ → Prop} {F : Site → Prop}

/-- Where every write is taken, a group is created whenever there is an index and room for it. -/
theorem Switch.Reflects.createGroup_group? (h : sw.Reflects Backing.takesAll refused F)
    (members : List EgressId) :
    Ends (Switch.createGroup members) sw
      (fun id sw' => ∃ base, sw.routing.newGroup? members = some (id, base) ∧
        sw'.routing.group? = Function.update sw.routing.group? id (some ⟨members, base⟩))
      fun _ sw' => sw.routing.newGroup? members = none ∧ sw'.routing.group? = sw.routing.group? := by
  refine Ends.focus (((Routing.createGroup_objects h.intact members).and
    (Routing.createGroup_commands members)).mono ?_ ?_)
  · rintro id t ⟨⟨base, hnew, -, hr⟩, -⟩
    exact ⟨base, hnew, hr.group?_eq⟩
  · rintro e t ⟨hr, ⟨hnone, -⟩ | ⟨id, base, bus', hnew, hb, -⟩⟩
    · exact ⟨hnone, hr.group?_eq⟩
    · obtain ⟨hn, -, hle, -⟩ := h.intact.newGroup? hnew
      exact ((Routing.writeGroup_succeeds h.reflected hn hle).of_error hb).elim

/-- A group that is there was there before, or is the one that was asked for. -/
theorem Switch.Reflects.group?_of_serve (h : sw.Reflects Backing.takesAll refused F)
    (request : RoutingRequest) {id : GroupId} {g : Group}
    (hg : (request.serve sw).routing.group? id = some g) :
    sw.routing.group? id = some g ∨ sw.routing.group? id = none ∧
      request = .createGroup g.members ∧ sw.routing.newGroup? g.members = some (id, g.base) := by
  by_cases hcreate : ∃ members, request = .createGroup members
  · obtain ⟨members, rfl⟩ := hcreate
    revert hg
    refine Ends.after (P := fun sw' : Switch δ => sw'.routing.group? id = some g → _)
      ((h.createGroup_group? members).mono ?_ ?_)
    · rintro id' sw' ⟨base, hnew, hgroups⟩ hg
      rw [hgroups, Function.update_apply] at hg
      split at hg
      · subst id
        cases hg
        obtain ⟨-, hnone, -⟩ := h.intact.newGroup? hnew
        refine .inr ⟨?_, rfl, hnew⟩
        rw [Routing.group?, (KeyMap.contains_eq_false_iff _ _).mp hnone]
        rfl
      · exact .inl hg
    · rintro e sw' ⟨-, hgroups⟩ hg
      exact .inl (hgroups ▸ hg)
  · by_cases hdestroy : ∃ id, request = .destroyGroup id
    · obtain ⟨id', rfl⟩ := hdestroy
      revert hg
      refine Ends.after (P := fun sw' : Switch δ => sw'.routing.group? id = some g → _)
        ((Switch.destroyGroup_group? h.intact id').mono ?_ ?_)
      · rintro _ sw' hgroups hg
        rw [hgroups, Function.update_apply] at hg
        split at hg
        · cases hg
        · exact .inl hg
      · rintro e sw' hgroups hg
        exact .inl (hgroups ▸ hg)
    · rw [request.group?_eq h.intact (not_exists.mp hcreate) (not_exists.mp hdestroy)] at hg
      exact .inl hg

end groups

/-! ### What the chip forwards by -/

/-- The egress objects that a chip finds for a group: those that its descriptor lists, or, if that sends
the chip to the places, those in the places. -/
def Memory.hops? (m : Memory UInt32) (id : GroupId) : Option (List Nat) :=
  match GroupEntry.decode ((Site.entry .group id).stored m) with
  | some (some e) =>
    if e.listed.isEmpty then
      (List.range' e.base e.count).mapM fun n =>
        ((MemberEntry.decode ((Site.entry .member n).stored m)).join).map MemberEntry.nextHop
    else
      some e.listed
  | _ => none

/-- A group's entries spell it, and the chip finds its members in order. -/
structure Memory.SpellsGroup (m : Memory UInt32) (id : GroupId) (g : Group) : Prop where
  descriptor : GroupEntry.decode ((Site.entry .group id).stored m) =
    some (some (.ofMembers g.base g.members))
  place : ∀ k (hk : k < g.members.length),
    MemberEntry.decode ((Site.entry .member (g.base + k)).stored m) = some (some ⟨g.members[k]⟩)
  hops : m.hops? id = some g.members

theorem Memory.spellsGroup {m : Memory UInt32} {id : GroupId} {g : Group}
    (hdescriptor : GroupEntry.decode ((Site.entry .group id).stored m) =
      some (some (.ofMembers g.base g.members)))
    (hplace : ∀ k (hk : k < g.members.length),
      MemberEntry.decode ((Site.entry .member (g.base + k)).stored m) =
        some (some ⟨g.members[k]⟩)) : m.SpellsGroup id g := by
  refine ⟨hdescriptor, hplace, ?_⟩
  rw [hops?, hdescriptor]
  change (if (GroupEntry.ofMembers g.base g.members).listed.isEmpty then
    (List.range' g.base g.members.length).mapM _ else _) = _
  split
  · refine mapM_range'_eq_some fun k hk => ?_
    rw [hplace k hk]
    rfl
  · rename_i hlisted
    unfold GroupEntry.ofMembers at hlisted ⊢
    split at hlisted
    · exact congrArg some (if_pos ‹_›)
    · exact absurd rfl hlisted

/-! ### Groups that share no words -/

/-- A group shares no words with any group, itself included. -/
def Switch.Solitary {δ : Type} (sw : Switch δ) (id : GroupId) (g : Group) : Prop :=
  ∀ id' g', sw.routing.group? id' = some g' → ¬ g.OverrunBy id' ∧ ¬ g'.OverrunBy id

/-- A group, and its entries as they are recorded, on a chip that takes every write. -/
structure Switch.GroupKept (sw : Switch Channel) (id : GroupId) (g : Group) : Prop where
  reflects : sw.Reflects Backing.takesAll (fun _ => True) (Site.OfGroup id g)
  live : sw.routing.group? id = some g
  size : g.members.length ≤ groupMembersMax

section kept

variable {sw : Switch Channel} {id : GroupId} {g : Group} {request : RoutingRequest}

theorem Switch.Solitary.groupAloof {id' : GroupId} {g' : Group} (h : ¬ g.OverrunBy id')
    (h' : ¬ g'.OverrunBy id) : Switch.GroupAloof (Site.OfGroup id g) id' g' :=
  ⟨Site.group_aloof h, fun _ hn => Site.member_aloof h' hn⟩

theorem Switch.GroupKept.spelled (h : sw.GroupKept id g) : sw.bus.memory.SpellsGroup id g := by
  obtain ⟨c, hc, rfl⟩ := Option.map_eq_some_iff.mp h.live
  have hi := h.reflects.intact
  have hpos := hi.members_pos id c hc
  have hle := hi.span_le id c hc
  rw [← Channel.memory_backing]
  refine Memory.spellsGroup ?_ fun k hk => ?_
  · have hrecord : sw.records (.entry .group id)
        (GroupEntry.ofMembers c.value.base c.value.members).encode := by
      rw [Switch.records, h.live]
      rfl
    have hstored := h.reflects.reflected.stored (s := .entry .group id) rfl hrecord
    have hbase : c.value.base < 2 ^ 12 := Nat.lt_of_lt_of_le (Nat.lt_add_of_pos_right hpos) hle
    have hcount : c.value.members.length < 2 ^ GroupEntry.countField.width :=
      Nat.lt_of_le_of_lt h.size (by decide)
    exact (congrArg _ hstored).trans
      (GroupEntry.decode_encode (GroupEntry.fits_ofMembers hpos hcount hbase))
  · have hrecord : sw.records (.entry .member (c.value.base + k))
        (MemberEntry.mk c.value.members[k]).encode := by
      refine ⟨id, c.value, c.value.members[k], h.live, Nat.le_add_right _ _, ?_, rfl⟩
      rw [Nat.add_sub_cancel_left]
      exact List.getElem?_eq_getElem hk
    have hocc : c.value.Occupies (c.value.base + k) :=
      ⟨Nat.le_add_right _ _, Nat.add_lt_add_left hk _⟩
    have hstored := h.reflects.reflected.stored (s := .entry .member (c.value.base + k)) hocc hrecord
    have hmember := hi.egressIds.holds (hi.group_member id c hc _ (List.getElem_mem hk))
    exact (congrArg _ hstored).trans (MemberEntry.decode_encode hmember.2)

/-- A group that was created is in the memory, if it shares no words. -/
theorem Switch.GroupKept.created (h : sw.Reflects Backing.takesAll (fun _ => True) fun _ => False)
    {members : List EgressId} {base : Nat}
    (hnew : sw.routing.newGroup? members = some (id, base))
    (hlive : (Operation.after (Switch.createGroup members) sw).routing.group? id =
      some ⟨members, base⟩)
    (halone : (Operation.after (Switch.createGroup members) sw).Solitary id ⟨members, base⟩) :
    (Operation.after (Switch.createGroup members) sw).GroupKept id ⟨members, base⟩ := by
  have hfree := Switch.records_freeFor h.intact hnew
  have hsilent {s : Site} (hs : s.OfGroup id ⟨members, base⟩) (ws : List UInt32) :
      ¬ sw.records s ws := by
    rcases s with ⟨t, k⟩ | b
    · cases t with
      | group =>
          cases hs
          exact hfree.1 ws
      | member => exact hfree.2 k hs.1 hs.2 ws
      | _ => exact hs.elim
    · exact hs.elim
  have hstart : sw.Reflects Backing.takesAll (fun _ => True) (Site.OfGroup id ⟨members, base⟩) :=
    ⟨h.intact, h.reflected.sound, h.reflected.takes,
      fun _ => Backing.stalls_of_takesAll h.reflected.takes, fun hs hws => (hsilent hs _ hws).elim,
      fun hs hws => (hsilent hs _ hws).elim, fun hn => absurd trivial hn⟩
  refine ⟨Switch.createGroup_reflects Bus.tells_true hstart members fun id' base' hnew' => ?_, hlive,
    (Routing.length_of_newGroup? hnew).2⟩
  cases hnew.symm.trans hnew'
  obtain ⟨hself, -⟩ := halone id ⟨members, base⟩ hlive
  exact Switch.Solitary.groupAloof hself hself

/-- A request leaves a group in the memory that shares no words, before it and after it. -/
theorem Switch.GroupKept.serve (h : sw.GroupKept id g) (hbefore : sw.Solitary id g)
    (hlive : (request.serve sw).routing.group? id = some g)
    (hafter : (request.serve sw).Solitary id g) : (request.serve sw).GroupKept id g := by
  refine ⟨request.serve_reflects Bus.tells_true h.reflects
    (fun t i hg hm hi => Site.aloof_ofGroup hg hm hi) ?_ ?_, hlive, h.size⟩
  · rintro members id' base rfl hnew
    have hcreated : (Operation.after (Switch.createGroup members) sw).routing.group? id' =
        some ⟨members, base⟩ := by
      refine Ends.after (P := fun sw' : Switch Channel => sw'.routing.group? id' = _)
        ((h.reflects.createGroup_group? members).mono ?_ ?_)
      · rintro id'' sw' ⟨base', hnew', hgroups⟩
        cases hnew.symm.trans hnew'
        rw [hgroups, Function.update_self]
      · rintro e sw' ⟨hnone, -⟩
        cases hnone.symm.trans hnew
    obtain ⟨hover, hover'⟩ := hafter id' ⟨members, base⟩ hcreated
    exact Switch.Solitary.groupAloof hover hover'
  · rintro id' g' rfl hg'
    obtain ⟨hover, hover'⟩ := hbefore id' g' hg'
    exact Switch.Solitary.groupAloof hover hover'

end kept

/-! ### A chip that takes no write -/

/-- The record is intact, and the chip's memory is what writes have made it. -/
theorem Switch.Reflects.serve_bare {T : Nat → Nat → Bool} {sw : Switch Channel}
    (h : sw.Reflects T (fun _ => True) fun _ => False) (request : RoutingRequest) :
    (request.serve sw).Reflects T (fun _ => True) fun _ => False :=
  request.serve_reflects Bus.tells_true h (fun _ _ _ _ _ _ hu => hu.elim)
    (fun _ _ _ _ _ => ⟨fun _ hu => hu.elim, fun _ _ _ hu => hu.elim⟩)
    fun _ _ _ _ => ⟨fun _ hu => hu.elim, fun _ _ _ hu => hu.elim⟩

/-- There are no groups, and there will be none. -/
structure Switch.Groupless (sw : Switch Channel) : Prop where
  reflects : sw.Reflects Backing.takesNone (fun _ => True) fun _ => False
  groups : sw.routing.group? = fun _ => none

theorem Switch.Groupless.serve {sw : Switch Channel} (h : sw.Groupless) (request : RoutingRequest) :
    (request.serve sw).Groupless := by
  refine ⟨h.reflects.serve_bare request, ?_⟩
  by_cases hcreate : ∃ members, request = .createGroup members
  · obtain ⟨members, rfl⟩ := hcreate
    refine Switch.after_onRouting (P := fun r => r.group? = fun _ => none)
      (((Routing.createGroup_ends Bus.tells_true h.reflects.intact members).and
        (Routing.createGroup_commands members)).mono ?_ ?_)
    · rintro id t ⟨-, base, hnew, hb, -⟩
      obtain ⟨-, -, hle, -⟩ := h.reflects.intact.newGroup? hnew
      exact ((Routing.writeGroup_fails h.reflects.reflected id
        (Routing.length_of_newGroup? hnew).1 hle).of_ok hb).elim
    · rintro e t ⟨hf, -⟩
      exact hf.kept.group?_eq.trans h.groups
  · by_cases hdestroy : ∃ id, request = .destroyGroup id
    · obtain ⟨id, rfl⟩ := hdestroy
      refine Ends.after (P := fun sw' : Switch Channel => sw'.routing.group? = fun _ => none)
        ((Switch.destroyGroup_group? h.reflects.intact id).mono ?_ ?_)
      · rintro _ sw' hgroups
        rw [hgroups, h.groups]
        exact Function.update_eq_self id _
      · rintro e sw' hgroups
        exact hgroups.trans h.groups
    · rw [request.group?_eq h.reflects.intact (not_exists.mp hcreate) (not_exists.mp hdestroy)]
      exact h.groups

/-! ### Groups that run over others -/

/-- A new group's descriptor is written last: a place that it runs over holds one of its words
afterwards, whatever group has the place. -/
theorem Switch.Reflects.place_overrun {sw : Switch Channel}
    (h : sw.Reflects Backing.takesAll (fun _ => True) fun _ => False) {members : List EgressId}
    {id : GroupId} {base : Nat} (hnew : sw.routing.newGroup? members = some (id, base)) {n j : Nat}
    (hj : j < 7) (hn : 2048 + n = 8 * id + j) :
    ∃ w, (GroupEntry.ofMembers base members).encode[j]? = some w ∧ (Site.entry .member n).stored
      (Operation.after (Switch.createGroup members) sw).bus.memory = [w] := by
  obtain ⟨hid, -, hle, -⟩ := h.intact.newGroup? hnew
  have hlength : (GroupEntry.ofMembers base members).encode.length = 7 := Fields.length_encode _ _
  have hword := List.getElem?_eq_getElem (hlength ▸ hj)
  have hwrite := Routing.writeGroup_succeeds h.reflected hid (g := ⟨members, base⟩) hle
  refine ⟨_, hword, ?_⟩
  refine Ends.after (P := fun sw' : Switch Channel => (Site.entry .member n).stored sw'.bus.memory = _)
    (Ends.focus ((Routing.createGroup_commands members).mono ?_ ?_))
  · rintro id' t ⟨base', hnew', hb, -⟩
    cases hnew.symm.trans hnew'
    have hstored := hwrite.of_ok hb
    rw [Channel.memory_backing] at hstored
    exact Site.stored_overrun _ hj hn ((congrArg (·[j]?) hstored).trans hword)
  · rintro e t (⟨hnone, -⟩ | ⟨id', base', bus', hnew', hb, -⟩)
    · cases hnone.symm.trans hnew
    · cases hnew.symm.trans hnew'
      exact (hwrite.of_error hb).elim

/-! ### Every run -/

/-- What shared no words since it was created is in the memory. -/
theorem Switch.kept_of_solitary {start : Switch Channel} {requests : List RoutingRequest}
    (hstart : start.Reflects Backing.takesAll (fun _ => True) fun _ => False)
    (hnone : start.routing.group? = fun _ => none) :
    let sw (k : Nat) := start.serveAll (requests.take k)
    ∀ k ≤ requests.length, ∀ id g, (sw k).routing.group? id = some g →
      (∀ j ≤ k, (∀ i, j ≤ i → i ≤ k → (sw i).routing.group? id = some g) →
        (sw j).Solitary id g) → (sw k).GroupKept id g := by
  intro sw k hk
  have hbare : ∀ k ≤ requests.length,
      (sw k).Reflects Backing.takesAll (fun _ => True) fun _ => False :=
    foldl_take_holds hstart fun _ request _ h => h.serve_bare request
  induction k with
  | zero =>
      intro id g hg
      change start.routing.group? id = some g at hg
      rw [hnone] at hg
      cases hg
  | succ k ih =>
      intro id g hg halone
      have hrequest : requests[k]? = some requests[k] := List.getElem?_eq_getElem hk
      have hserve : sw (k + 1) = requests[k].serve (sw k) := foldl_take_succ _ _ hrequest
      have hlast : (sw (k + 1)).Solitary id g := by
        refine halone (k + 1) (Nat.le_refl _) fun i h1 h2 => ?_
        rw [Nat.le_antisymm h2 h1]
        exact hg
      rcases (hbare k (Nat.le_of_lt hk)).group?_of_serve requests[k] (hserve ▸ hg) with
        hold | ⟨-, hcreate, hnew⟩
      · -- Up to here the group was there all along, or not at all.
        have hearlier (j : Nat) (hj : j ≤ k)
            (hlive : ∀ i, j ≤ i → i ≤ k → (sw i).routing.group? id = some g) :
            (sw j).Solitary id g := by
          refine halone j (Nat.le_succ_of_le hj) fun i h1 h2 => ?_
          rcases Nat.le_succ_iff.mp h2 with hle | rfl
          · exact hlive i h1 hle
          · exact hg
        have hbefore : (sw k).Solitary id g := hearlier k (Nat.le_refl k) fun i h1 h2 => by
          rw [Nat.le_antisymm h2 h1]
          exact hold
        have hkept := ih (Nat.le_of_lt hk) id g hold hearlier
        rw [hserve] at hg hlast ⊢
        exact hkept.serve hbefore hg hlast
      · rw [hserve, hcreate] at hg hlast ⊢
        exact .created (hbare k (Nat.le_of_lt hk)) hnew hg hlast

/-- After every run of requests on a fresh chip without faults, the chip's memory spells every group
that has shared no words with a live group since it was created, and the chip finds its members.  A
group that has just been created has written its descriptor's words over the places that it runs over. -/
theorem Switch.groups_shown (board : Board) {settings : ChannelSettings} {base size : Nat}
    {ch : Channel} (hopen : Channel.open? settings (.emulated (.fresh base size)) = .ok ch)
    (requests : List RoutingRequest) :
    let sw (k : Nat) := (Switch.fresh board ch).serveAll (requests.take k)
    (∀ k ≤ requests.length, ∀ id g, (sw k).routing.group? id = some g →
      (∀ j ≤ k, (∀ i, j ≤ i → i ≤ k → (sw i).routing.group? id = some g) →
        (sw j).Solitary id g) → (sw k).bus.memory.SpellsGroup id g) ∧
    ∀ k < requests.length, ∀ id g, (sw k).routing.group? id = none →
      (sw (k + 1)).routing.group? id = some g → ∀ n j, j < 7 → 2048 + n = 8 * id + j →
        ∃ w, (GroupEntry.ofMembers g.base g.members).encode[j]? = some w ∧
          (Site.entry .member n).stored (sw (k + 1)).bus.memory = [w] := by
  intro sw
  have hstart : (Switch.fresh board ch).Reflects (MemoryBus.backing ch).takes (fun _ => True)
      fun _ => False := fresh_reflects board (Channel.clear_of_open hopen) fun _ => False.elim
  rcases Channel.takes_of_open hopen with htakes | htakes
  · change (MemoryBus.backing ch).takes = _ at htakes
    rw [htakes] at hstart
    have hbare : ∀ k ≤ requests.length,
        (sw k).Reflects Backing.takesAll (fun _ => True) fun _ => False :=
      foldl_take_holds hstart fun _ request _ h => h.serve_bare request
    refine ⟨fun k hk id g hg halone => (kept_of_solitary hstart rfl k hk id g hg halone).spelled, ?_⟩
    intro k hk id g hnone hg n j hj hn
    have hrequest : requests[k]? = some requests[k] := List.getElem?_eq_getElem hk
    have hserve : sw (k + 1) = requests[k].serve (sw k) := foldl_take_succ _ _ hrequest
    have hbare := hbare k (Nat.le_of_lt hk)
    rw [hserve] at hg ⊢
    rcases hbare.group?_of_serve requests[k] hg with hold | ⟨-, hcreate, hnew⟩
    · cases hnone.symm.trans hold
    · rw [hcreate]
      exact hbare.place_overrun hnew hj hn
  · change (MemoryBus.backing ch).takes = _ at htakes
    rw [htakes] at hstart
    have hnone : ∀ k ≤ requests.length, (sw k).Groupless :=
      foldl_take_holds ⟨hstart, rfl⟩ fun _ request _ h => Switch.Groupless.serve h request
    refine ⟨fun k hk id g hg => ?_, fun k hk id g _ hg => ?_⟩
    · rw [(hnone k hk).groups] at hg
      cases hg
    · rw [(hnone (k + 1) hk).groups] at hg
      cases hg

/-! ### A crowded table -/

/-! Groups of one member that are created one after the other take the indices and the places in order,
so the descriptor of the 256th runs over the place of the first. -/

/-- A record in which `n` groups of egress object 1 were created and none was destroyed. -/
structure Routing.Crowded (n : Nat) (r : Routing) : Prop where
  egress : r.egresses.contains 1 = true
  range : r.groupIds.range = .groups
  cursor : r.groupIds.cursor = n + 1
  vacant : ∀ id, n < id → r.groupIds.contains id = false
  places : ∃ name, r.places = ⟨name, Table.member.depth, [⟨n, Table.member.depth⟩]⟩
  first : 0 < n → r.group? 1 = some ⟨[1], 0⟩

namespace Routing.Crowded

variable {r : Routing} {n : Nat}

/-- The record with the next index and place taken. -/
theorem takeGroup_eq (h : r.Crowded n) (hn : n < 1022) :
    ∃ name, r.takeGroup 1 = .ok (n + 1, n)
      { r with
        groupIds := r.groupIds.take (n + 1)
        places := ⟨name, Table.member.depth, [⟨n + 1, Table.member.depth⟩]⟩ } := by
  obtain ⟨name, hfree⟩ := h.places
  have hnext : r.groupIds.next? = some (n + 1) := by
    rw [IndexPool.next?, h.range, h.cursor]
    exact if_neg (by rw [h.vacant _ (Nat.lt_succ_self n)]; exact Bool.false_ne_true)
  have hids := IndexPool.alloc_of_next?_some hnext
  have hplaces : r.places.alloc 1 =
      .ok n ⟨name, Table.member.depth, [⟨n + 1, Table.member.depth⟩]⟩ := by
    have hroom : 1 < (⟨n, Table.member.depth⟩ : Span).size := by
      change 1 < 4096 - n
      omega
    rw [hfree, SpanPool.alloc, if_neg (by simp [Table.depth, Table.layout]), Span.takeFirst,
      if_pos hroom]
  exact ⟨name, by simp only [takeGroup, hids, hplaces]⟩

theorem newGroup?_eq (h : r.Crowded n) (hn : n < 1022) : r.newGroup? [1] = some (n + 1, n) := by
  obtain ⟨name, htake⟩ := h.takeGroup_eq hn
  have htake : r.takeGroup [1].length = _ := htake
  have hfind : [1].find? (fun m => !r.egresses.contains m) = none := by
    rw [List.find?_cons, h.egress]
    rfl
  have hgood : ¬ ((([1] : List EgressId).isEmpty = true ∨ groupMembersMax < [1].length) ∨
      ([1].find? fun m => !r.egresses.contains m).isSome = true) := by
    rw [hfind]
    simp [groupMembersMax]
  rw [newGroup?, if_neg hgood, htake]

/-- One more group is created, unless the chip refuses a write. -/
theorem createGroup {δ : Type} [Bus δ] (h : r.Crowded n) (hn : n < 1022) (bus : δ) :
    Ends (createGroup [1]) (r, bus) (fun _ t => t.1.Crowded (n + 1)) fun _ _ =>
      ∃ e bus', writeGroup (n + 1) ⟨[1], n⟩ bus = .error e bus' := by
  obtain ⟨name, htake⟩ := h.takeGroup_eq hn
  have htake : r.takeGroup [1].length = _ := htake
  have hfind : [1].find? (fun m => !r.egresses.contains m) = none := by
    rw [List.find?_cons, h.egress]
    rfl
  have hsize : ¬ (([1] : List EgressId).isEmpty = true ∨ groupMembersMax < [1].length) := by
    simp [groupMembersMax]
  have hid : r.groupIds.range.Holds (n + 1) := by
    rw [h.range]
    exact ⟨Nat.succ_pos n, Nat.lt_of_lt_of_le (Nat.succ_lt_succ hn) (by decide)⟩
  cases hb : writeGroup (n + 1) ⟨[1], n⟩ bus with
  | error e bus' =>
      exact Operation.ends_error
        (by simp only [Routing.createGroup, hsize, hfind, htake, hb, if_false]; rfl) ⟨e, bus', rfl⟩
  | ok u bus' =>
      refine Operation.ends_ok
        (by simp only [Routing.createGroup, hsize, hfind, htake, hb, if_false]; rfl) ?_
      refine ⟨?_, h.range, ?_, fun id hlt => ?_, ⟨name, rfl⟩, fun _ => ?_⟩
      · exact ((KeyMap.Recounts.alter_hold r.egresses 1).contains_eq 1).trans h.egress
      · change r.groupIds.range.next (n + 1) = n + 2
        rw [h.range, IndexRange.next, if_neg]
        change ¬ n + 1 + 1 = 1024
        omega
      · change (r.groupIds.take (n + 1)).contains id = false
        rw [IndexPool.contains_take _ hid, h.vacant id (Nat.lt_of_succ_lt hlt),
          decide_eq_false (Nat.ne_of_gt hlt)]
        rfl
      · change Option.map Counted.value ((r.groups.insert (n + 1) (.unused ⟨[1], n⟩)).get? 1) = _
        rcases Nat.eq_zero_or_pos n with rfl | hpos
        · rw [KeyMap.get?_insert_self]
          rfl
        · rw [KeyMap.get?_insert_of_ne _ _ (Nat.ne_of_gt (Nat.succ_lt_succ hpos))]
          exact h.first hpos

end Routing.Crowded

/-- An interface, an egress object and `n` groups of it. -/
def RoutingRequest.crowding (n : Nat) : List RoutingRequest :=
  .createInterface ⟨2, 0, 0, 0, 0, 1⟩ 7 ::
    .createEgress ⟨⟨2, 0, 0, 0, 0, 9⟩, default, 1⟩ ::
    List.replicate n (.createGroup [1])

theorem RoutingRequest.length_crowding (n : Nat) : (crowding n).length = n + 2 := by
  simp [crowding]

theorem RoutingRequest.take_crowding {k n : Nat} (h : k ≤ n) :
    (crowding n).take (k + 2) = crowding k := by
  rw [crowding, List.take_succ_cons, List.take_succ_cons, List.take_replicate, Nat.min_eq_left h]
  rfl

/-- The switch after them. -/
def Switch.crowded (n : Nat) : Switch Channel :=
  (Switch.fresh ⟨48, Board.defaultStem, Board.defaultMacBase⟩ Channel.driven).serveAll
    (RoutingRequest.crowding n)

theorem Switch.crowded_succ (n : Nat) :
    crowded (n + 1) = Operation.after (createGroup [1]) (crowded n) := by
  rw [crowded, serveAll, RoutingRequest.crowding, List.replicate_succ', List.foldl_cons,
    List.foldl_cons, List.foldl_append]
  rfl

theorem Switch.crowded_holds : ∀ n ≤ 1022, (crowded n).routing.Crowded n ∧
    (crowded n).Reflects Backing.takesAll (fun _ => True) fun _ => False := by
  intro n hn
  induction n with
  | zero =>
      refine ⟨⟨by decide +kernel, rfl, rfl, fun id _ => ?_, ⟨_, rfl⟩,
        fun h => absurd h (Nat.lt_irrefl 0)⟩, ?_⟩
      · exact IndexPool.contains_fresh .groups id
      · have hstart : (Switch.fresh ⟨48, Board.defaultStem, Board.defaultMacBase⟩
            Channel.driven).Reflects Backing.takesAll (fun _ => True) fun _ => False :=
          fresh_reflects _ (Channel.clear_of_open (rfl : Channel.open? ⟨.driver, 500, 1000, true⟩
            (.emulated (.fresh 0 256)) = .ok Channel.driven)) fun _ => False.elim
        exact (hstart.serve_bare (.createInterface ⟨2, 0, 0, 0, 0, 1⟩ 7)).serve_bare
          (.createEgress ⟨⟨2, 0, 0, 0, 0, 9⟩, default, 1⟩)
  | succ n ih =>
      obtain ⟨hcrowded, hreflects⟩ := ih (Nat.le_of_succ_le hn)
      have hnew := hcrowded.newGroup?_eq hn
      obtain ⟨hid, -, hle, -⟩ := hreflects.intact.newGroup? hnew
      have hwrite := Routing.writeGroup_succeeds hreflects.reflected hid (g := ⟨[1], n⟩) hle
      rw [crowded_succ]
      refine ⟨after_onRouting (P := Routing.Crowded (n + 1))
        ((hcrowded.createGroup hn _).mono (fun _ _ hq => hq) ?_),
        hreflects.serve_bare (.createGroup [1])⟩
      rintro _ _ ⟨e, bus', hb⟩
      exact (hwrite.of_error hb).elim

/-- The first 255 groups share no words. -/
theorem Switch.crowded_solitary {n : Nat} (hn : n < 256) {id : GroupId} (hid : id < 256) {g : Group} :
    (crowded n).Solitary id g := by
  intro id' g' hg'
  obtain ⟨hcrowded, hreflects⟩ := crowded_holds n (Nat.le_of_lt (Nat.lt_of_lt_of_le hn (by decide)))
  obtain ⟨c, hc, -⟩ := Option.map_eq_some_iff.mp hg'
  have hout := (hreflects.intact.groupIds.contains_iff id').mpr (KeyMap.contains_of_get? hc)
  refine ⟨Group.not_overrunBy ?_, Group.not_overrunBy hid⟩
  by_contra hlt
  rw [hcrowded.vacant id' (by omega)] at hout
  cases hout

theorem Switch.groups_shown_crowded :
    (crowded 255).routing.group? 1 = some ⟨[1], 0⟩ ∧
      (crowded 255).bus.memory.SpellsGroup 1 ⟨[1], 0⟩ := by
  have hopen : Channel.open? ⟨.driver, 500, 1000, true⟩ (.emulated (.fresh 0 256)) =
      .ok Channel.driven := rfl
  have hlength : 257 ≤ (RoutingRequest.crowding 255).length :=
    Nat.le_of_eq (RoutingRequest.length_crowding 255).symm
  have hlive : (crowded 255).routing.group? 1 = some ⟨[1], 0⟩ :=
    (crowded_holds 255 (by decide)).1.first (by decide)
  have hrun (k : Nat) (hk : k ≤ 255) : (Switch.fresh ⟨48, Board.defaultStem, Board.defaultMacBase⟩
      Channel.driven).serveAll ((RoutingRequest.crowding 255).take (k + 2)) = crowded k := by
    rw [RoutingRequest.take_crowding hk]
    rfl
  rw [← hrun 255 (Nat.le_refl _)] at hlive ⊢
  refine ⟨hlive, (groups_shown ⟨48, Board.defaultStem, Board.defaultMacBase⟩ hopen
    (RoutingRequest.crowding 255)).1 257 hlength 1 ⟨[1], 0⟩ hlive fun j hj hthrough => ?_⟩
  have hnow := hthrough j (Nat.le_refl _) hj
  match j with
  | 0 => cases hnow
  | 1 => cases hnow
  | k + 2 =>
      change (serveAll _ ((RoutingRequest.crowding 255).take (k + 2))).Solitary 1 _
      rw [hrun k (by omega)]
      exact crowded_solitary (by omega) (by decide)

/-- The descriptor of the 256th group runs over the first group's member. -/
theorem Switch.group_overrun :
    let sw (k : Nat) := (Switch.fresh ⟨48, Board.defaultStem, Board.defaultMacBase⟩
      Channel.driven).serveAll ((RoutingRequest.crowding 256).take k)
    (sw 258).routing.group? 1 = some ⟨[1], 0⟩ ∧
      MemberEntry.decode ((Site.entry .member 0).stored (sw 258).bus.memory) = some (some ⟨15361⟩) ∧
      ¬ ∀ k ≤ (RoutingRequest.crowding 256).length, ∀ id g, (sw k).routing.group? id = some g →
        (sw k).bus.memory.SpellsGroup id g := by
  intro sw
  have hlast : sw 258 = crowded 256 := by
    rw [crowded, ← List.take_of_length_le (Nat.le_of_eq (RoutingRequest.length_crowding 256))]
  obtain ⟨hcrowded, hreflects⟩ := crowded_holds 255 (by decide)
  have hnew := hcrowded.newGroup?_eq (by decide)
  have hlive : (sw 258).routing.group? 1 = some ⟨[1], 0⟩ := by
    rw [hlast]
    exact (crowded_holds 256 (by decide)).1.first (by decide)
  have hword : (GroupEntry.ofMembers 255 [1]).encode[0]? = some 261121 := by decide +kernel
  have hplace : MemberEntry.decode ((Site.entry .member 0).stored (sw 258).bus.memory) =
      some (some ⟨15361⟩) := by
    obtain ⟨w, hw, hstored⟩ := hreflects.place_overrun hnew (n := 0) (j := 0) (by decide) rfl
    cases hw.symm.trans hword
    rw [hlast, crowded_succ, hstored]
    decide +kernel
  refine ⟨hlive, hplace, fun h => ?_⟩
  have hlen : 258 ≤ (RoutingRequest.crowding 256).length :=
    Nat.le_of_eq (RoutingRequest.length_crowding 256).symm
  have hspelled := (h 258 hlen 1 _ hlive).place 0 (by decide)
  rw [Nat.add_zero] at hspelled
  cases hplace.symm.trans hspelled

end ControlPlane
