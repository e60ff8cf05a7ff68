import ControlPlane.Proofs.Switch.FailedCreations
import ControlPlane.Proofs.Switch.Widths
import ControlPlane.Proofs.Table.Tapes

/-! # What is accepted is what the chip is told

A call that programs the chip writes some entries and records them.  `Switch.Truthful` says that what it
wrote of each of them last spells what is recorded of it, value by value, and that what it did not write
is recorded as before.

All calls are truthful but one.  A new trap is only asked whether its VLAN has a tag; its mask and its port
are recorded as they are, and cut in the chip if they are too large.

* **Step.**  `Programming.attempt_programs`: a call that is not for a trap has told the chip of all that it
  has changed of the record.  What is recorded is read back from its words (`Switch.Checked.keeps`), so
  that the call is truthful.
* **Run.**  `Switch.truthful_iff_fits`: after every run of requests, whatever the device answers. -/

namespace ControlPlane

open Operation (Ends)

/-! ### Calls -/

/-- Something that a switch can be asked to tell the chip of. -/
inductive Programming where
  | creation (creation : Creation)
  | addVlanPort (vlan : Nat) (port : PortId) (untagged : Bool)
  | removeVlanPort (vlan : Nat) (port : PortId)

namespace Programming

section

variable {δ : Type} [Bus δ]

def attempt : Programming → Operation (Switch δ) Unit
  | creation c => c.attempt
  | addVlanPort vlan port untagged => Switch.addVlanPort vlan port untagged
  | removeVlanPort vlan port => Switch.removeVlanPort vlan port

/-- The same, whatever becomes of it. -/
def request : Programming → SwitchRequest
  | creation (.interface mac tag) => .routing (.createInterface mac tag)
  | creation (.egress e) => .routing (.createEgress e)
  | creation (.route subnet target) => .routing (.addRoute subnet target)
  | creation (.group members) => .routing (.createGroup members)
  | creation (.vlan tag) => .createVlan tag
  | creation (.station s) => .bridge (.addStation s)
  | creation (.trap e) => .bridge (.addTrap e)
  | addVlanPort vlan port untagged => .addVlanPort vlan port untagged
  | removeVlanPort vlan port => .removeVlanPort vlan port

theorem serve_request (p : Programming) (sw : Switch δ) :
    p.request.serve sw = Operation.after p.attempt sw := by
  cases p with
  | creation c =>
      cases c with
      | vlan _ | station _ => rfl
      | _ => exact (Operation.after_discard _ sw).symm
  | _ => rfl

end

/-- The mask and the port of a trap fit their fields. -/
def Fits : Programming → Prop
  | creation (.trap e) =>
    e.mask < 2 ^ TrapEntry.maskField.width ∧ e.port < 2 ^ TrapEntry.portField.width
  | _ => True

end Programming

/-! ### Entries that are written together -/

section writes

variable {δ : Type} [Bus δ]

theorem Vlans.program_told (vlan : Nat) (v : VlanPorts) (prior : Option VlanPorts) (bus : Taped δ) :
    Ends (program vlan v prior) bus
      (fun _ bus' => Told [⟨.vlan, vlan, v.ingress.encode⟩, ⟨.egressVlan, vlan, v.egress.encode⟩]
        bus bus') fun _ _ => True :=
  Table.writePair_told (restore vlan prior) (fun _ _ hb => by simp only [program, hb])
    fun _ _ hb => by simp only [program, hb]

namespace Routing

theorem writeHop_told (id : EgressId) (e : Egress) (bus : Taped δ) :
    Ends (writeHop id e) bus
      (fun _ bus' => Told [⟨.ingressHop, id, (ingressHop e).encode⟩,
        ⟨.egressHop, id, (egressHop e).encode⟩] bus bus') fun _ _ => True :=
  Table.writePair_told (Table.ingressHop.clear id) (fun _ _ hb => by simp only [writeHop, hb])
    fun _ _ hb => by simp only [writeHop, hb]

/-- The commands for members at consecutive places. -/
def memberCommands (place : Nat) : List EgressId → List Command
  | [] => []
  | m :: ms => ⟨.member, place, (MemberEntry.mk m).encode⟩ :: memberCommands (place + 1) ms

theorem table_of_mem_memberCommands {place : Nat} {members : List EgressId} {c : Command}
    (h : c ∈ memberCommands place members) : c.table = .member := by
  induction members generalizing place with
  | nil => cases h
  | cons m ms ih =>
      rcases List.mem_cons.mp h with rfl | h
      · rfl
      · exact ih h

theorem tell_memberCommands (W : Image) (place : Nat) (members : List EgressId) :
    W.tell (memberCommands place members) = W.setMembers place members := by
  induction members generalizing W place with
  | nil => rfl
  | cons m ms ih => exact ih _ (place + 1)

theorem writeMembers_told (place : Nat) (members : List EgressId) (bus : Taped δ) :
    Ends (writeMembers place members) bus
      (fun _ bus' => Told (memberCommands place members) bus bus') fun _ _ => True := by
  induction members generalizing place bus with
  | nil => exact Operation.ends_ok rfl (Told.refl bus)
  | cons m ms ih =>
      cases hb : Table.member.write place (MemberEntry.mk m).encode bus with
      | error e bus' => exact Operation.ends_error (by simp only [writeMembers, hb]; rfl) trivial
      | ok u bus' =>
          have hfirst := (Table.member.write_told place _ bus).of_ok hb
          refine Ends.of_eq ((ih (place + 1) bus').mono ?_ fun _ _ _ => trivial)
            (by simp only [writeMembers, hb])
          exact fun _ _ hrest => hfirst.append hrest

theorem writeGroup_told (id : GroupId) (g : Group) (bus : Taped δ) :
    Ends (writeGroup id g) bus
      (fun _ bus' => Told (memberCommands g.base g.members ++
        [⟨.group, id, (GroupEntry.ofMembers g.base g.members).encode⟩]) bus bus') fun _ _ => True := by
  cases hb : writeMembers g.base g.members bus with
  | error e bus' => exact Operation.ends_error (by simp only [writeGroup, hb]; rfl) trivial
  | ok u bus' =>
      have hmembers := (writeMembers_told g.base g.members bus).of_ok hb
      refine Ends.of_eq ((Table.group.write_told id (GroupEntry.ofMembers g.base g.members).encode
        bus').mono ?_ fun _ _ _ => trivial) (by simp only [writeGroup, hb])
      exact fun _ _ hlast => hmembers.append hlast

end Routing

end writes

/-! ### What calls tell -/

namespace Switch

section programs

variable {δ : Type} {told told' : List Command} {sw sw' sw'' : Switch (Taped δ)}

/-- The chip was told of all that has changed of the record, which is nothing about traps. -/
structure Programs (told : List Command) (sw sw' : Switch (Taped δ)) : Prop where
  written : Told told sw.bus sw'.bus
  records_eq : sw'.records = sw.records.tell told
  untrapped : ∀ c ∈ told, c.table ≠ .trap
  traps_eq : sw'.traps = sw.traps

namespace Programs

theorem refl (sw : Switch (Taped δ)) : sw.Programs [] sw := ⟨Told.refl _, rfl, nofun, rfl⟩

theorem append (h : sw.Programs told sw') (h' : sw'.Programs told' sw'') :
    sw.Programs (told ++ told') sw'' where
  written := h.written.append h'.written
  records_eq := by rw [h'.records_eq, h.records_eq, Image.tell_append]
  untrapped c hc := (List.mem_append.mp hc).elim (h.untrapped c) (h'.untrapped c)
  traps_eq := h'.traps_eq.trans h.traps_eq

theorem of_iff (htold : Told told sw.bus sw'.bus)
    (hrecords : ∀ s ws, sw'.records s ws ↔ sw.records.tell told s ws)
    (huntrapped : ∀ c ∈ told, c.table ≠ .trap) (htraps : sw'.traps = sw.traps) :
    sw.Programs told sw' :=
  ⟨htold, funext fun s => funext fun ws => propext (hrecords s ws), huntrapped, htraps⟩

end Programs

variable [Bus δ]

/-! ### VLANs -/

theorem recordVlan_programs (sw : Switch (Taped δ)) (vlan : Nat) (v : VlanPorts)
    (prior : Option VlanPorts) :
    Ends (Vlans.record vlan v prior) (sw.vlans, sw.bus)
      (fun _ t => ∃ told, sw.Programs told { sw with vlans := t.1, bus := t.2 })
      fun _ _ => True := by
  refine Vlans.ends_record ((Vlans.program_told vlan v prior sw.bus).mono ?_ fun _ _ _ => trivial)
  exact fun _ _ htold => ⟨_, .of_iff htold (fun s ws => records_setVlan vlan v s ws)
    (by simp) rfl⟩

theorem ensureVlan_programs (sw : Switch (Taped δ)) (vlan : Nat) :
    Ends (Vlans.ensure vlan) (sw.vlans, sw.bus)
      (fun _ t => ∃ told, sw.Programs told { sw with vlans := t.1, bus := t.2 })
      fun _ _ => True :=
  Vlans.ends_ensure (fun _ => ⟨[], .refl sw⟩) fun _ => recordVlan_programs sw vlan VlanPorts.none none

end programs

end Switch

section attempt

variable {δ : Type} [Bus δ] {sw : Switch (Taped δ)}

theorem Creation.attempt_programs (creation : Creation) (h : sw.Checked)
    (htrap : ∀ e, creation ≠ .trap e) :
    Ends creation.attempt sw (fun _ sw' => ∃ told, sw.Programs told sw') fun _ _ => True := by
  have hi := h.intact
  cases creation with
  | interface mac tag =>
      refine Ends.discard (Ends.focus (((Routing.createInterface_objects hi mac tag).and
        (Routing.createInterface_commands mac tag)).mono ?_ fun _ _ _ => trivial))
      rintro id ⟨r, bus⟩ ⟨hr, -, hb⟩
      exact ⟨_, .of_iff ((Table.write_told _ _ _ _).of_ok hb) (fun s ws =>
        Switch.records_addInterface id ⟨mac, tag⟩ hr.view_eq hr.group?_eq s ws) (by simp) rfl⟩
  | egress e =>
      change Ends ((Switch.onRouting (Routing.createEgress sw.board e)) >>= fun _ => pure ()) sw _ _
      refine Ends.discard (Ends.focus (((Routing.createEgress_objects hi sw.board e).and
        (Routing.createEgress_commands sw.board e)).mono ?_ fun _ _ _ => trivial))
      rintro id ⟨r, bus⟩ ⟨hr, -, hb⟩
      exact ⟨_, .of_iff ((Routing.writeHop_told id e sw.bus).of_ok hb) (fun s ws =>
        Switch.records_addEgress id e hr.view_eq hr.group?_eq s ws) (by simp) rfl⟩
  | route subnet target =>
      refine Ends.discard (Ends.focus (((Routing.addRoute_objects hi subnet target).and
        (Routing.addRoute_commands subnet target)).mono ?_ fun _ _ _ => trivial))
      rintro slot ⟨r, bus⟩ ⟨⟨hold, hr⟩, -, hb⟩
      exact ⟨_, .of_iff ((Table.write_told _ _ _ _).of_ok hb) (fun s ws =>
        Switch.records_setRoute subnet.canon ⟨slot, target⟩ hr.view_eq hr.group?_eq hold
          (fun _ _ hs hslot => hr.slot_free hs hslot) s ws) (by simp) rfl⟩
  | group members =>
      refine Ends.discard (Ends.focus ((Routing.createGroup_objects hi members).mono ?_
        fun _ _ _ => trivial))
      rintro id ⟨r, bus⟩ ⟨base, hnew, hb, hr⟩
      obtain ⟨hid, hfree⟩ := hi.newGroup?_free hnew
      refine ⟨_, .of_iff ((Routing.writeGroup_told id ⟨members, base⟩ sw.bus).of_ok hb) (fun s ws => ?_)
        (fun c hc => ?_) rfl⟩
      · rw [Image.tell_append, Routing.tell_memberCommands]
        exact Switch.records_addGroup id ⟨members, base⟩ hr.view_eq hr.group?_eq hid hfree s ws
      · rcases List.mem_append.mp hc with hc | hc
        · rw [Routing.table_of_mem_memberCommands hc]
          decide
        · cases List.mem_singleton.mp hc
          nofun
  | vlan tag =>
      exact Ends.focus (Vlans.ends_create (fun _ _ => trivial) fun _ =>
        Switch.ensureVlan_programs sw tag)
  | station s =>
      change Ends (Switch.onStations (Stations.add sw.board s)) sw _ _
      refine Ends.focus ((Stations.add_commands sw.board s).mono ?_ fun _ _ _ => trivial)
      rintro _ ⟨⟨slots, usage⟩, bus⟩ ⟨slot, -, hb, hslots⟩
      cases hslots
      exact ⟨_, .of_iff ((Table.write_told _ _ _ _).of_ok hb) (fun u ws =>
        Switch.records_setStation slot s usage u ws) (by simp) rfl⟩
  | trap e => exact absurd rfl (htrap e)

theorem Programming.attempt_programs (p : Programming) (h : sw.Checked)
    (htrap : ∀ e, p ≠ .creation (.trap e)) :
    Ends p.attempt sw (fun _ sw' => ∃ told, sw.Programs told sw') fun _ _ => True := by
  cases p with
  | creation c => exact c.attempt_programs h fun e he => htrap e (he ▸ rfl)
  | addVlanPort vlan port untagged =>
      change Ends (Switch.onVlans (Vlans.addPort sw.board vlan port untagged)) sw _ _
      refine Ends.focus (Vlans.ends_addPort (fun _ => trivial) fun _ _ =>
        (Switch.ensureVlan_programs sw vlan).mono ?_ fun _ _ _ => trivial)
      rintro _ ⟨vlans, bus⟩ ⟨told, hfirst⟩ prior -
      refine (Switch.recordVlan_programs { sw with vlans := vlans, bus := bus } vlan _ _).mono ?_
        fun _ _ _ => trivial
      rintro _ t ⟨told', hsecond⟩
      exact ⟨told ++ told', hfirst.append hsecond⟩
  | removeVlanPort vlan port =>
      exact Ends.focus (Vlans.ends_removePort (fun _ => trivial) fun prior _ _ =>
        Switch.recordVlan_programs sw vlan _ _)

/-- A trap is written to a slot and recorded there, whatever its mask and port. -/
theorem Creation.attempt_trap (e : TrapEntry) :
    Ends (Creation.trap e).attempt sw
      (fun _ sw' => ∃ slot, VlanTag.IsTag e.vlan ∧
        Told [⟨.trap, slot, e.encode⟩] sw.bus sw'.bus ∧
        sw' = { sw with traps := ⟨sw.traps.slots.insert slot e⟩, bus := sw'.bus })
      fun _ _ => True := by
  refine Ends.discard (Ends.focus ((Traps.add_commands e).mono ?_ fun _ _ _ => trivial))
  rintro slot ⟨⟨slots⟩, bus⟩ ⟨hnew, hb, hslots⟩
  cases hslots
  exact ⟨slot, Traps.isTag_of_newSlot? hnew, (Table.write_told _ _ _ _).of_ok hb, rfl⟩

end attempt

/-! ### Truthful calls -/

namespace Switch

section truthful

variable {δ : Type} {told : List Command} {sw sw' : Switch (Taped δ)}

/-- What was told of an entry last spells what is recorded of it, and what is recorded of an entry that
nothing was told of is as it was. -/
def TruthfulOf (told : List Command) (sw sw' : Switch (Taped δ)) (t : Table) (i : Nat) : Prop :=
  match last? told (.entry t i) with
  | some words => ∃ e, t.decodeEntry words = some (some e) ∧ ∀ e', sw'.holds t i e' ↔ e' = e
  | none => ∀ e, sw'.holds t i e ↔ sw.holds t i e

def Truthful (told : List Command) (sw sw' : Switch (Taped δ)) : Prop :=
  ∀ t i, sw.TruthfulOf told sw' t i

theorem truthfulOf_some {t : Table} {i : Nat} {words : List UInt32}
    (h : last? told (.entry t i) = some words) :
    sw.TruthfulOf told sw' t i ↔
      ∃ e, t.decodeEntry words = some (some e) ∧ ∀ e', sw'.holds t i e' ↔ e' = e := by
  rw [TruthfulOf, h]

theorem truthfulOf_none {t : Table} {i : Nat} (h : last? told (.entry t i) = none) :
    sw.TruthfulOf told sw' t i ↔ ∀ e, sw'.holds t i e ↔ sw.holds t i e := by
  rw [TruthfulOf, h]

/-- What is read back as it is is recorded only once. -/
theorem Checked.encode_inj (h : sw.Checked) (h' : sw'.Checked) {t : Table} (ht : t ≠ .trap) {i : Nat}
    {e e' : t.Entry} (he : sw.holds t i e) (he' : sw'.holds t i e')
    (hwords : t.encodeEntry e = t.encodeEntry e') : e = e' := by
  have hkeeps := h.keeps ht he
  have hkeeps' := h'.keeps ht he'
  rw [Table.Keeps, hwords, hkeeps', Option.some.injEq, Option.some.injEq] at hkeeps
  exact hkeeps.symm

/-- What is recorded is known from the words that it has. -/
theorem Checked.holds_iff (h : sw.Checked) (h' : sw'.Checked) {t : Table} (ht : t ≠ .trap) {i : Nat}
    (hrecords : ∀ words, sw'.records (.entry t i) words ↔ sw.records (.entry t i) words)
    (e : t.Entry) : sw'.holds t i e ↔ sw.holds t i e := by
  constructor
  · intro he
    obtain ⟨e', he', hwords⟩ :=
      records_entry_iff.mp ((hrecords _).mp (records_entry_iff.mpr ⟨e, he, rfl⟩))
    rw [← h.encode_inj h' ht he' he hwords]
    exact he'
  · intro he
    obtain ⟨e', he', hwords⟩ :=
      records_entry_iff.mp ((hrecords _).mpr (records_entry_iff.mpr ⟨e, he, rfl⟩))
    rw [← h'.encode_inj h ht he' he hwords]
    exact he'

/-- A call about no trap is truthful. -/
theorem Programs.truthful (hp : sw.Programs told sw') (h : sw.Checked) (h' : sw'.Checked) :
    sw.Truthful told sw' := by
  intro t i
  have hrecords (words : List UInt32) : sw'.records (.entry t i) words ↔
      (last? told (.entry t i)).elim (sw.records (.entry t i) words) (words = ·) := by
    rw [hp.records_eq, Image.tell_iff]
  by_cases ht : t = .trap
  · subst ht
    rw [truthfulOf_none (last?_eq_none_of_table hp.untrapped i)]
    intro e
    change sw'.traps.slots.get? i = some e ↔ _
    rw [hp.traps_eq]
    exact Iff.rfl
  · cases hlast : last? told (.entry t i) with
    | none =>
        rw [hlast] at hrecords
        exact (truthfulOf_none hlast).mpr (h.holds_iff h' ht hrecords)
    | some words =>
        rw [hlast] at hrecords
        obtain ⟨e, he, hwords⟩ := records_entry_iff.mp ((hrecords words).mpr rfl)
        refine (truthfulOf_some hlast).mpr ⟨e, hwords ▸ h'.keeps ht he, fun e' => ⟨fun he' => ?_, ?_⟩⟩
        · have hsame := (hrecords _).mp (records_entry_iff.mpr ⟨e', he', rfl⟩)
          exact h'.encode_inj h' ht he' he (hsame.trans hwords.symm)
        · rintro rfl
          exact he

/-- A trap is told truthfully if nothing of it is cut. -/
theorem truthful_trap_iff {slot : Nat} {e : TrapEntry}
    (hsw : sw' = { sw with traps := ⟨sw.traps.slots.insert slot e⟩, bus := sw'.bus }) :
    sw.Truthful [⟨.trap, slot, e.encode⟩] sw' ↔ e.cut = e := by
  have hself : last? [⟨.trap, slot, e.encode⟩] (.entry .trap slot) = some e.encode :=
    (last?_concat [] _ _).trans (if_pos rfl)
  have hother {t : Table} {i : Nat} (hne : Site.entry .trap slot ≠ .entry t i) :
      last? [⟨.trap, slot, e.encode⟩] (.entry t i) = none :=
    (last?_concat [] _ _).trans (if_neg hne)
  have hslot : sw'.holds .trap slot e := by
    rw [hsw]
    exact KeyMap.get?_insert_self _ _ _
  constructor
  · intro htruthful
    obtain ⟨e', hdecode, honly⟩ := (truthfulOf_some hself).mp (htruthful .trap slot)
    change TrapEntry.decode e.encode = _ at hdecode
    rw [TrapEntry.decode_encode_cut, Option.some.injEq, Option.some.injEq] at hdecode
    exact hdecode.trans ((honly e).mp hslot).symm
  · intro hcut t i
    by_cases hsite : Site.entry .trap slot = .entry t i
    · cases hsite
      refine (truthfulOf_some hself).mpr ⟨e, ?_, fun e' => ⟨fun he' => ?_, fun he' => he' ▸ hslot⟩⟩
      · change TrapEntry.decode e.encode = _
        rw [TrapEntry.decode_encode_cut, hcut]
      · exact Option.some.inj (he'.symm.trans hslot)
    · refine (truthfulOf_none (hother hsite)).mpr fun e' => ?_
      rw [hsw]
      cases t with
      | trap =>
          have hne : slot ≠ i := fun hi => hsite (hi ▸ rfl)
          change (sw.traps.slots.insert slot e).get? i = _ ↔ sw.traps.slots.get? i = _
          rw [KeyMap.get?_insert_of_ne _ _ hne]
      | _ => exact Iff.rfl

end truthful

/-! ### Every run -/

/-- After every run of requests, whatever the device answers: what a call that succeeds has written are
entries of the chip.  What it wrote of each last spells what is recorded of it, and what is recorded of all
others is as it was, exactly if the call is not for a trap whose mask or port is too large. -/
theorem truthful_iff_fits {δ : Type} [Bus δ] (board : Board) (device : δ)
    (requests : List SwitchRequest) (p : Programming) :
    let sw := (Switch.fresh board (Taped.start device)).serveRequests requests
    ∀ sw', p.attempt sw = .ok () sw' →
      (∃! told, Told told sw.bus sw'.bus) ∧
        ∀ told, Told told sw.bus sw'.bus → (sw.Truthful told sw' ↔ p.Fits) := by
  intro sw sw' hok
  have h : sw.Checked := serveRequests_checked requests (checked_fresh board _)
  have h' : sw'.Checked := by
    have hserve := p.request.serve_checked h
    rwa [p.serve_request, Operation.after_ok hok] at hserve
  -- There is one way to read what was written, so it is enough to judge the one at hand.
  have hjudge {told : List Command} (htold : Told told sw.bus sw'.bus)
      (hiff : sw.Truthful told sw' ↔ p.Fits) : (∃! told, Told told sw.bus sw'.bus) ∧
        ∀ told, Told told sw.bus sw'.bus → (sw.Truthful told sw' ↔ p.Fits) :=
    ⟨⟨told, htold, fun _ hother => htold.unique hother⟩, fun _ hother => htold.unique hother ▸ hiff⟩
  by_cases htrap : ∃ e, p = .creation (.trap e)
  · obtain ⟨e, rfl⟩ := htrap
    obtain ⟨slot, htag, htold, hsw⟩ := (Creation.attempt_trap e).of_ok hok
    refine hjudge htold ((truthful_trap_iff hsw).trans ⟨fun hcut => ?_, fun hfits => ?_⟩)
    · rw [← hcut]
      exact ⟨Nat.mod_lt _ (Nat.two_pow_pos _), Nat.mod_lt _ (Nat.two_pow_pos _)⟩
    · exact TrapEntry.cut_of_fits ⟨Nat.lt_succ_of_le htag, hfits.1, hfits.2⟩
  · have hnot (e : TrapEntry) : p ≠ .creation (.trap e) := fun he => htrap ⟨e, he⟩
    obtain ⟨told, hp⟩ := (p.attempt_programs h hnot).of_ok hok
    refine hjudge hp.written (iff_of_true (hp.truthful h h') ?_)
    unfold Programming.Fits
    split
    · exact absurd rfl (hnot _)
    · trivial

end Switch

/-- An interface and an egress object. -/
def SwitchRequest.leading : List SwitchRequest := [
  .routing (.createInterface ⟨2, 0, 0, 0, 0, 1⟩ 7),
  .routing (.createEgress ⟨⟨2, 0, 0, 0, 0, 9⟩, default, 1⟩)]

/-- A group that names the egress object twice. -/
theorem Switch.truthful_iff_fits_group :
    let sw := (Switch.fresh ⟨48, Board.defaultStem, Board.defaultMacBase⟩
      (Taped.start Willing.mk)).serveRequests SwitchRequest.leading
    let sw' := Operation.after (Programming.creation (.group [1, 1])).attempt sw
    (Programming.creation (.group [1, 1])).attempt sw = .ok () sw' ∧
      sw'.routing.group? 1 = some ⟨[1, 1], 0⟩ ∧
      ∃ told, Told told sw.bus sw'.bus ∧ sw.Truthful told sw' := by
  intro sw sw'
  have hok : (Programming.creation (.group [1, 1])).attempt sw = .ok () sw' :=
    Operation.eq_ok_of_isOk (by decide +kernel)
  obtain ⟨⟨told, htold, -⟩, hiff⟩ := truthful_iff_fits
    ⟨48, Board.defaultStem, Board.defaultMacBase⟩ Willing.mk SwitchRequest.leading
    (.creation (.group [1, 1])) sw' hok
  exact ⟨hok, by decide +kernel, told, htold, (hiff told htold).mpr trivial⟩

/-- The trap for a protocol of bridges, to a port that has too many bits. -/
def Traps.misdirected : TrapEntry := { bridgeProtocol with port := 200 }

/-- The trap is recorded with port 200, and the chip is told of port 72. -/
theorem Switch.trap_misdirected :
    let sw := Switch.fresh ⟨48, Board.defaultStem, Board.defaultMacBase⟩ (Taped.start Willing.mk)
    let sw' := Operation.after (Creation.trap Traps.misdirected).attempt sw
    let told : List Command := [⟨.trap, 0, Traps.misdirected.encode⟩]
    (Creation.trap Traps.misdirected).attempt sw = .ok () sw' ∧ Told told sw.bus sw'.bus ∧
      sw'.traps.slots.get? 0 = some Traps.misdirected ∧
      TrapEntry.decode Traps.misdirected.encode = some (some { Traps.misdirected with port := 72 }) ∧
      ¬ sw.Truthful told sw' := by
  intro sw sw' told
  have hok : (Creation.trap Traps.misdirected).attempt sw = .ok () sw' :=
    Operation.eq_ok_of_isOk (by decide +kernel)
  have htold : Told told sw.bus sw'.bus := by
    refine ⟨fun c hc => ?_, by decide +kernel⟩
    cases List.mem_singleton.mp hc
    exact ⟨by decide, by decide⟩
  have hrecorded : sw'.traps.slots.get? 0 = some Traps.misdirected := by decide +kernel
  have hdecode : TrapEntry.decode Traps.misdirected.encode =
      some (some { Traps.misdirected with port := 72 }) := by decide +kernel
  refine ⟨hok, htold, hrecorded, hdecode, fun htruthful => ?_⟩
  obtain ⟨e, he, honly⟩ := (truthfulOf_some rfl).mp (htruthful .trap 0)
  have hsame : Traps.misdirected = e := (honly _).mp hrecorded
  rw [← hsame] at he
  exact absurd (he.symm.trans hdecode) (by decide)

end ControlPlane
