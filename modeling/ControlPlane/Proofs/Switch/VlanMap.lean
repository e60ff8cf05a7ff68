import ControlPlane.Proofs.Forwarding.Vlans
import ControlPlane.Proofs.Switch.Runs

/-! # The VLANs as sets of ports

A VLAN that was made is there until it is destroyed, and has the ports that were added to it and not taken
out since, each untagged or not as it was added last.  This is so whatever the chip makes of each write: its
faults may change in any way between two requests.

A request may write four entries, and a port's addition may have made its VLAN before it fails.  What a chip
takes does not depend on what was written before, though: one that took both entries of a new VLAN takes
them again with the port (`Vlans.addPort_served`).

* `VlanRun` is what a list of events has led to, with the requests and whether they succeeded.  The history
  alone tells which VLANs there should be and what ports are theirs (`Stands`).
* **Step.**  `Served.holds_iff`: a request changes the bits of the VLANs as `stands_concat_iff` says that it
  changes those that stand.
* **Run.**  `vlans_refine_map`: after every run the bits are those that stand. -/

namespace ControlPlane

open Operation (Ends)

/-! ### What a transport takes -/

section steady

variable {δ : Type} [Bus δ] [MemoryBus δ] {bus bus' bus'' : δ}

/-- A transport that still reaches its chip, which takes the same writes as before. -/
structure MemoryBus.Steady (bus bus' : δ) : Prop where
  sound : MemoryBus.Sound bus'
  takes_eq : (MemoryBus.backing bus').takes = (MemoryBus.backing bus).takes

namespace MemoryBus.Steady

theorem refl (h : MemoryBus.Sound bus) : Steady bus bus := ⟨h, rfl⟩

theorem trans (h : Steady bus bus') (h' : Steady bus' bus'') : Steady bus bus'' :=
  ⟨h'.sound, h'.takes_eq.trans h.takes_eq⟩

theorem taken_iff (h : Steady bus bus') (s : Site) : s.Taken bus' ↔ s.Taken bus := by
  rw [Site.Taken, Site.Taken, h.takes_eq]

end MemoryBus.Steady

open MemoryBus (Steady)

theorem Table.write_steady (t : Table) {index : Nat} {words : List UInt32} (hi : index < t.depth)
    (hw : words.length = t.words) (h : MemoryBus.Sound bus) :
    Ends (t.write index words) bus (fun _ bus' => Steady bus bus' ∧ (Site.entry t index).Taken bus)
      fun _ bus' => Steady bus bus' ∧ ¬ (Site.entry t index).Taken bus := by
  rw [t.write_eq hi hw]
  have hends : Ends ((Site.entry t index).write words) bus _ _ := Site.write_ends hi hw h
  refine hends.mono ?_ ?_
  · rintro _ bus' ⟨hwrote, htaken⟩
    exact ⟨⟨hwrote.sound, hwrote.takes_eq⟩, htaken⟩
  · rintro _ bus' ⟨hwrote, hnot⟩
    exact ⟨⟨hwrote.sound, hwrote.takes_eq⟩, hnot⟩

theorem Table.after_write_steady (t : Table) {index : Nat} {words : List UInt32} (hi : index < t.depth)
    (hw : words.length = t.words) (h : MemoryBus.Sound bus) :
    Steady bus (Operation.after (t.write index words) bus) :=
  Ends.after ((t.write_steady hi hw h).mono (fun _ _ hq => hq.1) fun _ _ he => he.1)

theorem Table.after_clear_steady (t : Table) {index : Nat} (hi : index < t.depth)
    (h : MemoryBus.Sound bus) : Steady bus (Operation.after (t.clear index) bus) :=
  t.after_write_steady hi List.length_replicate h

end steady

open MemoryBus (Steady)

/-! ### Requests -/

/-- Something that can be asked about VLANs. -/
inductive VlanRequest where
  | create (vlan : Nat)
  | addPort (vlan : Nat) (port : PortId) (untagged : Bool)
  | removePort (vlan : Nat) (port : PortId)
  | destroy (vlan : Nat)
  deriving DecidableEq

namespace VlanRequest

def op {δ : Type} [Bus δ] : VlanRequest → Operation (Switch δ) Unit
  | create vlan => Switch.createVlan vlan
  | addPort vlan port untagged => Switch.addVlanPort vlan port untagged
  | removePort vlan port => Switch.removeVlanPort vlan port
  | destroy vlan => Switch.destroyVlan vlan

/-- The VLAN that a request is about. -/
def vlan : VlanRequest → Nat
  | create vlan | addPort vlan _ _ | removePort vlan _ | destroy vlan => vlan

/-- Whether the arguments of a request are in range on a board. -/
def InRange (board : Board) (request : VlanRequest) : Prop :=
  VlanTag.IsVlan request.vlan ∧
    ∀ vlan port untagged, request = addPort vlan port untagged → board.Has port

/-- Makes its VLAN, unless it is there. -/
def Makes : VlanRequest → Prop
  | create _ | addPort _ _ _ => True
  | removePort _ _ | destroy _ => False

def Destroys : VlanRequest → Prop
  | destroy _ => True
  | create _ | addPort _ _ _ | removePort _ _ => False

/-- Adds port `n`. -/
def Adds (n : Nat) : VlanRequest → Prop
  | addPort _ port _ => port.num = n
  | create _ | removePort _ _ | destroy _ => False

/-- Adds port `n` as an untagged one. -/
def Untags (n : Nat) : VlanRequest → Prop
  | addPort _ port untagged => port.num = n ∧ untagged = true
  | create _ | removePort _ _ | destroy _ => False

/-- Takes port `n` out, alone or with all others. -/
def Takes (n : Nat) : VlanRequest → Prop
  | removePort _ port => port.num = n
  | destroy _ => True
  | create _ | addPort _ _ _ => False

/-- Decides anew whether port `n` is an untagged one. -/
def Settles (n : Nat) (request : VlanRequest) : Prop := request.Adds n ∨ request.Takes n

theorem Untags.adds {n : Nat} {request : VlanRequest} (h : request.Untags n) : request.Adds n := by
  cases request with
  | addPort v port untagged => exact h.1
  | create _ | removePort _ _ | destroy _ => exact h.elim

/-- What a request that succeeds makes of its VLAN. -/
def change : VlanRequest → Option VlanPorts → Option VlanPorts
  | create _, old => some (old.getD VlanPorts.none)
  | addPort _ port untagged, old => some ((old.getD VlanPorts.none).insert port untagged)
  | removePort _ port, old => old.map (·.erase port)
  | destroy _, _ => none

end VlanRequest

/-! ### What the requests decide -/

namespace VlanPorts

variable (v : VlanPorts) (port : PortId) (untagged : Bool) (n : Nat)

theorem testBit_ports_insert : (v.insert port untagged).ports.testBit n = true ↔
    port.num = n ∨ v.ports.testBit n = true := by
  by_cases h : port.num = n <;> simp [insert, Bits.testBit_putFlag, h]

theorem testBit_untagged_insert : (v.insert port untagged).untagged.testBit n = true ↔
    port.num = n ∧ untagged = true ∨ v.untagged.testBit n = true ∧ port.num ≠ n := by
  by_cases h : port.num = n <;> simp [insert, Bits.testBit_putFlag, h]

theorem testBit_ports_erase : (v.erase port).ports.testBit n = true ↔
    v.ports.testBit n = true ∧ port.num ≠ n := by
  by_cases h : port.num = n <;> simp [erase, Bits.testBit_putFlag, h]

theorem testBit_untagged_erase : (v.erase port).untagged.testBit n = true ↔
    v.untagged.testBit n = true ∧ port.num ≠ n := by
  by_cases h : port.num = n <;> simp [erase, Bits.testBit_putFlag, h]

end VlanPorts

/-- Something about a VLAN that some requests about it bring about and others end. -/
structure Decided (P : Option VlanPorts → Prop) (gives ends : VlanRequest → Prop) : Prop where
  start : ¬ P none
  change_iff : ∀ request old, P (request.change old) ↔ gives request ∨ P old ∧ ¬ ends request

namespace Decided

open VlanRequest

theorem there : Decided (fun old => ∃ v, old = some v) Makes Destroys where
  start := by simp
  change_iff request old := by
    cases request <;> simp [change, Makes, Destroys]

theorem ports (n : Nat) : Decided (fun old => ∃ v, old = some v ∧ v.ports.testBit n = true)
    (Adds n) (Takes n) where
  start := by simp
  change_iff request old := by
    cases request <;> cases old <;>
      simp [change, Adds, Takes, VlanPorts.none, VlanPorts.testBit_ports_insert,
        VlanPorts.testBit_ports_erase]

theorem untagged (n : Nat) : Decided (fun old => ∃ v, old = some v ∧ v.untagged.testBit n = true)
    (Untags n) (Settles n) where
  start := by simp
  change_iff request old := by
    cases request <;> cases old <;>
      simp [change, Untags, Settles, Adds, Takes, VlanPorts.none, VlanPorts.testBit_untagged_insert,
        VlanPorts.testBit_untagged_erase]

end Decided

namespace Vlans

variable {s s' : Vlans} {board : Board} {request : VlanRequest} {ok : Bool} {vlan : Nat}

/-- What becomes of the VLANs in a request: it fails and leaves them alone, or it changes its own. -/
inductive Served (board : Board) (s : Vlans) (request : VlanRequest) : Bool → Vlans → Prop where
  | failed {s' : Vlans} (hs : s'.members.get? = s.members.get?) : Served board s request false s'
  | changed {s' : Vlans} (hrange : request.InRange board)
      (hs : s'.members.get? = Function.update s.members.get? request.vlan
        (request.change (s.members.get? request.vlan))) : Served board s request true s'

namespace Served

/-- A request that fails leaves all VLANs alone, and one that succeeds those that it is not about. -/
theorem get?_eq (h : s.Served board request ok s') (hv : ok = true → request.vlan ≠ vlan) :
    s'.members.get? vlan = s.members.get? vlan := by
  cases h with
  | failed hs => rw [hs]
  | changed _ hs => rw [hs, Function.update_of_ne (Ne.symm (hv rfl))]

/-- A request changes what it decides as it changes what stands. -/
theorem decides (h : s.Served board request ok s') {P : Option VlanPorts → Prop}
    {gives ends : VlanRequest → Prop} (hP : Decided P gives ends) (vlan : Nat) :
    P (s'.members.get? vlan) ↔ (request.vlan = vlan ∧ gives request) ∧ ok = true ∨
      P (s.members.get? vlan) ∧ ¬ (ok = true ∧ request.vlan = vlan ∧ ends request) := by
  by_cases hv : request.vlan = vlan
  · subst hv
    cases h with
    | failed hs => simp [hs]
    | changed _ hs => simp [hs, hP.change_iff]
  · rw [h.get?_eq fun _ => hv]
    simp [hv]

end Served

/-! ### One request -/

variable {δ : Type} [Bus δ] [MemoryBus δ] {bus : δ}

/-- A transport takes both entries of a VLAN. -/
def Taken (vlan : Nat) (bus : δ) : Prop :=
  (Site.entry .vlan vlan).Taken bus ∧ (Site.entry .egressVlan vlan).Taken bus

theorem taken_iff {bus' : δ} (h : Steady bus bus') : Taken vlan bus' ↔ Taken vlan bus :=
  and_congr (h.taken_iff _) (h.taken_iff _)

theorem after_restore_steady (h : MemoryBus.Sound bus) (hv : VlanTag.IsVlan vlan)
    (prior : Option VlanPorts) : Steady bus (Operation.after (restore vlan prior) bus) := by
  cases prior with
  | none => exact Table.vlan.after_clear_steady (lt_depth hv) h
  | some p => exact Table.vlan.after_write_steady (lt_depth hv) (Fields.length_encode _ _) h

/-- The entries of a VLAN can be written exactly if the transport takes both. -/
theorem program_steady (h : MemoryBus.Sound bus) (hv : VlanTag.IsVlan vlan) (v : VlanPorts)
    (prior : Option VlanPorts) : Ends (program vlan v prior) bus
      (fun _ bus' => Steady bus bus' ∧ Taken vlan bus)
      fun _ bus' => Steady bus bus' ∧ ¬ Taken vlan bus := by
  have hingress : v.ingress.encode.length = Table.vlan.words := Fields.length_encode _ _
  have hegress : v.egress.encode.length = Table.egressVlan.words := Fields.length_encode _ _
  have hfirst := Table.vlan.write_steady (lt_depth hv) hingress h
  cases hb : Table.vlan.write vlan v.ingress.encode bus with
  | error e bus' =>
      obtain ⟨hsteady, hnot⟩ := hfirst.of_error hb
      exact Operation.ends_error (by simp only [program, hb]; rfl) ⟨hsteady, fun ht => hnot ht.1⟩
  | ok u bus' =>
      obtain ⟨hsteady, htaken⟩ := hfirst.of_ok hb
      have hsecond := Table.egressVlan.write_steady (lt_depth hv) hegress hsteady.sound
      refine Ends.of_eq (Ends.orUndo (hsecond.mono ?_ ?_)) (by simp only [program, hb]; rfl)
      · rintro _ bus'' ⟨hsteady', htaken'⟩
        exact ⟨hsteady.trans hsteady', htaken, (hsteady.taken_iff _).mp htaken'⟩
      · rintro e bus'' ⟨hsteady', hnot⟩
        have hrestored := after_restore_steady hsteady'.sound hv prior
        refine Ends.of_after ⟨(hsteady.trans hsteady').trans hrestored, fun ht => hnot ?_⟩
        exact (hsteady.taken_iff _).mpr ht.2

theorem record_steady (h : MemoryBus.Sound bus) (hv : VlanTag.IsVlan vlan) (v : VlanPorts)
    (prior : Option VlanPorts) : Ends (record vlan v prior) (s, bus)
      (fun _ t => t.1 = ⟨s.members.insert vlan v⟩ ∧ Steady bus t.2 ∧ Taken vlan bus)
      fun _ t => t.1 = s ∧ Steady bus t.2 ∧ ¬ Taken vlan bus :=
  ends_record ((program_steady h hv v prior).mono (fun _ _ hq => ⟨rfl, hq⟩) fun _ _ he => ⟨rfl, he⟩)

/-- A VLAN that had to be made shows that the transport takes its entries. -/
theorem ensure_steady (h : MemoryBus.Sound bus) (hv : VlanTag.IsVlan vlan) : Ends (ensure vlan) (s, bus)
      (fun _ t => t.1.members.get? = Function.update s.members.get? vlan
          (some ((s.members.get? vlan).getD VlanPorts.none)) ∧
        Steady bus t.2 ∧ (t.1 = s ∨ Taken vlan bus))
      fun _ t => t.1 = s ∧ Steady bus t.2 := by
  refine ends_ensure (fun hc => ?_) fun hnone => ?_
  · obtain ⟨v, hsome⟩ := (KeyMap.contains_iff _ _).mp hc
    refine ⟨?_, .refl h, .inl rfl⟩
    rw [hsome, Option.getD_some, ← hsome, Function.update_eq_self]
  · refine (record_steady h hv VlanPorts.none none).mono ?_ fun _ _ he => ⟨he.1, he.2.1⟩
    rintro _ t ⟨ht, hsteady, htaken⟩
    refine ⟨?_, hsteady, .inr htaken⟩
    rw [ht, hnone, KeyMap.get?_insert_eq_update]
    rfl

variable (board) in
theorem create_served (h : MemoryBus.Sound bus) (vlan : Nat) : Ends (create vlan) (s, bus)
    (fun _ t => s.Served board (.create vlan) true t.1 ∧ MemoryBus.Sound t.2)
    fun _ t => s.Served board (.create vlan) false t.1 ∧ MemoryBus.Sound t.2 := by
  refine ends_create (fun _ e => ⟨.failed rfl, h⟩) fun hv => (ensure_steady h hv).mono ?_ ?_
  · rintro _ t ⟨hs, hsteady, -⟩
    exact ⟨.changed ⟨hv, nofun⟩ hs, hsteady.sound⟩
  · rintro e t ⟨ht, hsteady⟩
    exact ⟨.failed (by rw [ht]), hsteady.sound⟩

/-- A port's addition that fails has not made the VLAN either. -/
theorem addPort_served (h : MemoryBus.Sound bus) (vlan : Nat) (port : PortId) (untagged : Bool) :
    Ends (addPort board vlan port untagged) (s, bus)
      (fun _ t => s.Served board (.addPort vlan port untagged) true t.1 ∧ MemoryBus.Sound t.2)
      fun _ t => s.Served board (.addPort vlan port untagged) false t.1 ∧ MemoryBus.Sound t.2 := by
  refine ends_addPort (fun e => ⟨.failed rfl, h⟩) fun hv hp => (ensure_steady h hv).mono ?_ ?_
  · rintro _ ⟨s', bus'⟩ ⟨hs, hsteady, hmade⟩ prior hprior
    have hget : s'.members.get? vlan = some ((s.members.get? vlan).getD VlanPorts.none) := by
      rw [hs, Function.update_self]
    rw [hget, Option.getD_some] at hprior
    refine (record_steady hsteady.sound hv (prior.insert port untagged) (some prior)).mono ?_ ?_
    · rintro _ t ⟨ht, hsteady', -⟩
      refine ⟨.changed ⟨hv, ?_⟩ ?_, hsteady'.sound⟩
      · rintro _ _ _ heq
        cases heq
        exact hp
      · rw [ht, KeyMap.get?_insert_eq_update, hs, Function.update_idem, hprior]
        rfl
    · rintro e t ⟨ht, hsteady', hnot⟩
      refine ⟨.failed ?_, hsteady'.sound⟩
      rcases hmade with hkept | htaken
      · rw [ht, show s' = s from hkept]
      · exact absurd ((taken_iff hsteady).mpr htaken) hnot
  · rintro e t ⟨ht, hsteady⟩
    exact ⟨.failed (by rw [ht]), hsteady.sound⟩

variable (board) in
theorem removePort_served (h : MemoryBus.Sound bus) (vlan : Nat) (port : PortId) :
    Ends (removePort vlan port) (s, bus)
      (fun _ t => s.Served board (.removePort vlan port) true t.1 ∧ MemoryBus.Sound t.2)
      fun _ t => s.Served board (.removePort vlan port) false t.1 ∧ MemoryBus.Sound t.2 := by
  refine ends_removePort (fun e => ⟨.failed rfl, h⟩) fun prior hv hprior =>
    (record_steady h hv (prior.erase port) (some prior)).mono ?_ ?_
  · rintro _ t ⟨ht, hsteady, -⟩
    refine ⟨.changed ⟨hv, nofun⟩ ?_, hsteady.sound⟩
    rw [ht, KeyMap.get?_insert_eq_update]
    change _ = Function.update s.members.get? vlan ((s.members.get? vlan).map (·.erase port))
    rw [hprior, Option.map_some]
  · rintro e t ⟨ht, hsteady, -⟩
    exact ⟨.failed (by rw [ht]), hsteady.sound⟩

variable (board) in
theorem destroy_served (h : MemoryBus.Sound bus) (vlan : Nat) : Ends (destroy vlan) (s, bus)
    (fun _ t => s.Served board (.destroy vlan) true t.1 ∧ MemoryBus.Sound t.2)
    fun _ t => s.Served board (.destroy vlan) false t.1 ∧ MemoryBus.Sound t.2 := by
  refine ends_destroy (fun e => ⟨.failed rfl, h⟩) fun hv => ⟨.changed ⟨hv, nofun⟩ ?_, ?_⟩
  · exact KeyMap.get?_erase_eq_update _ _
  · have hfirst := Table.vlan.after_clear_steady (lt_depth hv) h
    exact (Table.egressVlan.after_clear_steady (lt_depth hv) hfirst.sound).sound

/-! ### Looking a VLAN up -/

theorem lookup_ok_iff {v : VlanPorts} :
    s.lookup vlan = .ok v ↔ VlanTag.IsVlan vlan ∧ s.members.get? vlan = some v := by
  unfold lookup
  by_cases hv : VlanTag.IsVlan vlan
  · cases s.members.get? vlan <;> simp [hv]
  · simp [hv]

theorem lookup_congr (h : s'.members.get? vlan = s.members.get? vlan) : s'.lookup vlan = s.lookup vlan := by
  rw [lookup, lookup, h]

end Vlans

/-- What becomes of a switch in a request about VLANs. -/
structure Switch.VlanServed {δ : Type} [Bus δ] [MemoryBus δ] (sw : Switch δ) (request : VlanRequest)
    (ok : Bool) (sw' : Switch δ) : Prop where
  vlans : sw.vlans.Served sw.board request ok sw'.vlans
  sound : MemoryBus.Sound sw'.bus
  board_eq : sw'.board = sw.board

theorem VlanRequest.op_served {δ : Type} [Bus δ] [MemoryBus δ] {sw : Switch δ} (request : VlanRequest)
    (h : MemoryBus.Sound sw.bus) :
    sw.VlanServed request (Operation.answer request.op sw).isOk (Operation.after request.op sw) := by
  refine Ends.isOk (P := sw.VlanServed request) ?_
  cases request with
  | create vlan =>
      exact Ends.focus ((Vlans.create_served sw.board h vlan).mono (fun _ _ hq => ⟨hq.1, hq.2, rfl⟩)
        fun _ _ he => ⟨he.1, he.2, rfl⟩)
  | addPort vlan port untagged =>
      change Ends (Switch.onVlans (Vlans.addPort sw.board vlan port untagged)) sw _ _
      exact Ends.focus ((Vlans.addPort_served h vlan port untagged).mono
        (fun _ _ hq => ⟨hq.1, hq.2, rfl⟩) fun _ _ he => ⟨he.1, he.2, rfl⟩)
  | removePort vlan port =>
      exact Ends.focus ((Vlans.removePort_served sw.board h vlan port).mono
        (fun _ _ hq => ⟨hq.1, hq.2, rfl⟩) fun _ _ he => ⟨he.1, he.2, rfl⟩)
  | destroy vlan =>
      exact Ends.focus ((Vlans.destroy_served sw.board h vlan).mono (fun _ _ hq => ⟨hq.1, hq.2, rfl⟩)
        fun _ _ he => ⟨he.1, he.2, rfl⟩)

/-! ### Every run -/

/-- A request about VLANs, or a change of the chip's faults. -/
inductive VlanEvent where
  | request (request : VlanRequest)
  | faults (stalled : Bool) (failing : List (Nat × Nat))

/-- What some events have led to, with the requests and whether they succeeded, the first one first. -/
structure VlanRun where
  switch : Switch Channel
  history : List (VlanRequest × Bool)

namespace VlanRun

variable {run : VlanRun} {board : Board}

def step (run : VlanRun) : VlanEvent → VlanRun
  | .request request => ⟨Operation.after request.op run.switch,
      run.history ++ [(request, (Operation.answer request.op run.switch).isOk)]⟩
  | .faults stalled failing => { run with
      switch := { run.switch with bus := run.switch.bus.setFaults stalled failing } }

/-- The run of some events, on a fresh switch. -/
def of (board : Board) (ch : Channel) (events : List VlanEvent) : VlanRun :=
  events.foldl step ⟨.fresh board ch, []⟩

/-- The ports of a VLAN. -/
def lookup (run : VlanRun) (vlan : Nat) : Except Error VlanPorts := run.switch.vlans.lookup vlan

/-- A request about a VLAN that gives something has succeeded, and none that ends it has since. -/
def Stood (run : VlanRun) (gives ends : VlanRequest → Prop) (vlan : Nat) : Prop :=
  Stands (fun request => request.vlan = vlan ∧ gives request)
    (fun request => request.vlan = vlan ∧ ends request) run.history

/-- The VLANs are sets of ports, those that the requests have made of them. -/
structure Refines (board : Board) (run : VlanRun) : Prop where
  there : ∀ vlan, (∃ v, run.lookup vlan = .ok v) ↔
    run.Stood VlanRequest.Makes VlanRequest.Destroys vlan
  ports : ∀ vlan v, run.lookup vlan = .ok v → ∀ n, v.ports.testBit n = true ↔
    run.Stood (VlanRequest.Adds n) (VlanRequest.Takes n) vlan
  /-- A port is untagged if it was when it was added last. -/
  untagged : ∀ vlan v, run.lookup vlan = .ok v → ∀ n, v.untagged.testBit n = true ↔
    run.Stood (VlanRequest.Untags n) (VlanRequest.Settles n) vlan
  subset : ∀ vlan v, run.lookup vlan = .ok v → ∀ n, v.untagged.testBit n = true →
    v.ports.testBit n = true
  bounded : ∀ vlan v, run.lookup vlan = .ok v → ∀ n, v.ports.testBit n = true →
    1 ≤ n ∧ n ≤ board.ports
  /-- A request that fails leaves every VLAN as it is. -/
  failed : ∀ request, (Operation.answer (VlanRequest.op request) run.switch).isOk = false → ∀ vlan,
    (Operation.after request.op run.switch).vlans.lookup vlan = run.lookup vlan
  /-- A request leaves all VLANs but its own as they are. -/
  apart : ∀ request vlan, VlanRequest.vlan request ≠ vlan →
    (Operation.after request.op run.switch).vlans.lookup vlan = run.lookup vlan

/-- What each event keeps: the chip is in reach, and what stands is in the record. -/
structure Kept (board : Board) (run : VlanRun) : Prop where
  sound : MemoryBus.Sound run.switch.bus
  board_eq : run.switch.board = board
  inRange : ∀ request, (request, true) ∈ run.history → request.InRange board
  decided : ∀ {P : Option VlanPorts → Prop} {gives ends : VlanRequest → Prop}, Decided P gives ends →
    ∀ vlan, P (run.switch.vlans.members.get? vlan) ↔ run.Stood gives ends vlan

theorem kept_start {ch : Channel} (h : ch.Sound) : Kept board ⟨.fresh board ch, []⟩ where
  sound := h
  board_eq := rfl
  inRange _ hmem := by cases hmem
  decided hP vlan := iff_of_false hP.start not_stands_nil

namespace Kept

theorem request (h : Kept board run) (request : VlanRequest) : Kept board (run.step (.request request)) := by
  have hserved := request.op_served h.sound
  rw [VlanRun.step]
  refine ⟨hserved.sound, hserved.board_eq.trans h.board_eq, ?_, fun hP vlan => ?_⟩
  · intro request' hmem
    rcases List.mem_append.mp hmem with hold | hnew
    · exact h.inRange request' hold
    · obtain ⟨rfl, hok⟩ := Prod.mk.inj (List.mem_singleton.mp hnew)
      have hvlans := hserved.vlans
      rw [← hok, h.board_eq] at hvlans
      cases hvlans with
      | changed hrange _ => exact hrange
  · refine (hserved.vlans.decides hP vlan).trans ?_
    rw [h.decided hP vlan]
    refine Iff.symm ?_
    change Stands _ _ (run.history ++ [(request, (Operation.answer request.op run.switch).isOk)]) ↔ _
    exact stands_concat_iff

theorem step (h : Kept board run) (event : VlanEvent) : Kept board (run.step event) := by
  cases event with
  | request request => exact h.request request
  | faults stalled failing =>
      exact ⟨(Channel.Sound.setFaults h.sound stalled failing).1, h.board_eq, h.inRange, h.decided⟩

theorem isVlan (h : Kept board run) {vlan : Nat} {v : VlanPorts}
    (hv : run.switch.vlans.members.get? vlan = some v) : VlanTag.IsVlan vlan := by
  obtain ⟨request, hmem, rfl, -⟩ := ((h.decided .there vlan).mp ⟨v, hv⟩).exists_mem
  exact (h.inRange request hmem).1

theorem refines (h : Kept board run) : Refines board run where
  there vlan := by
    rw [← h.decided .there vlan]
    simp only [lookup, Vlans.lookup_ok_iff]
    exact exists_congr fun v => and_iff_right_of_imp h.isVlan
  ports vlan v hv n := by
    rw [← h.decided (.ports n) vlan, (Vlans.lookup_ok_iff.mp hv).2]
    simp
  untagged vlan v hv n := by
    rw [← h.decided (.untagged n) vlan, (Vlans.lookup_ok_iff.mp hv).2]
    simp
  subset vlan v hv n hn := by
    have hget := (Vlans.lookup_ok_iff.mp hv).2
    have hstood := (h.decided (.untagged n) vlan).mp ⟨v, hget, hn⟩
    have hadded : run.Stood (VlanRequest.Adds n) (VlanRequest.Takes n) vlan :=
      hstood.mono (fun request hr => ⟨hr.1, hr.2.adds⟩) fun request hr => ⟨hr.1, .inr hr.2⟩
    obtain ⟨v', hv', hn'⟩ := (h.decided (.ports n) vlan).mpr hadded
    cases hget.symm.trans hv'
    exact hn'
  bounded vlan v hv n hn := by
    obtain ⟨request, hmem, rfl, hadds⟩ :=
      ((h.decided (.ports n) vlan).mp ⟨v, (Vlans.lookup_ok_iff.mp hv).2, hn⟩).exists_mem
    cases request with
    | addPort vlan port untagged =>
        obtain rfl : port.num = n := hadds
        exact ⟨port.one_le, (h.inRange _ hmem).2 vlan port untagged rfl⟩
    | create _ | removePort _ _ | destroy _ => exact hadds.elim
  failed request hfails vlan := by
    have hserved := (request.op_served h.sound).vlans
    rw [hfails] at hserved
    exact Vlans.lookup_congr (hserved.get?_eq nofun)
  apart request vlan hv :=
    Vlans.lookup_congr ((request.op_served h.sound).vlans.get?_eq fun _ => hv)

end Kept

end VlanRun

/-- After every run of requests about VLANs over an emulated chip whose faults change in any way, the VLANs
are the sets of ports that the requests have made of them. -/
theorem vlans_refine_map (board : Board) {settings : ChannelSettings} {c : Chip} {ch : Channel}
    (hopen : Channel.open? settings (.emulated c) = .ok ch) (events : List VlanEvent) :
    (VlanRun.of board ch events).Refines board := by
  obtain ⟨hdevice, hsettings, hstaging⟩ := Channel.opened hopen
  have hsound : ch.Sound := ⟨c, hdevice, fun hp => hstaging (hsettings ▸ hp)⟩
  refine VlanRun.Kept.refines (List.foldlRecOn (motive := VlanRun.Kept board) events VlanRun.step
    (VlanRun.kept_start hsound) ?_)
  intro run h event _
  exact h.step event

/-- Two ports, additions of a third that the chip refuses halfway, and the first port again with a tag. -/
def VlanEvent.retagging (first second third : PortId) : List VlanEvent := [
  .request (.addPort 10 first true),
  .request (.addPort 10 second true),
  .faults false [Table.egressVlan.span],
  .request (.addPort 10 third true),
  .request (.addPort 11 third true),
  .faults false [],
  .request (.addPort 10 first false)]

/-- What was refused halfway has made no VLAN and added no port. -/
theorem vlans_refine_map_retagged :
    let board : Board := ⟨48, Board.defaultStem, Board.defaultMacBase⟩
    let run : VlanRun := .of board Channel.driven
      (VlanEvent.retagging ⟨1, by decide, by decide⟩ ⟨2, by decide, by decide⟩ ⟨3, by decide, by decide⟩)
    run.Refines board ∧ run.lookup 10 = .ok ⟨2 ^ 1 + 2 ^ 2, 2 ^ 2⟩ ∧
      ¬ run.Stood VlanRequest.Makes VlanRequest.Destroys 11 ∧
      ¬ run.Stood (VlanRequest.Untags 1) (VlanRequest.Settles 1) 10 ∧
      run.Stood (VlanRequest.Untags 2) (VlanRequest.Settles 2) 10 := by
  intro board run
  have hopen : Channel.open? ⟨.driver, 500, 1000, true⟩ (.emulated (.fresh 0 256)) =
      .ok Channel.driven := rfl
  have hrefines : run.Refines board := vlans_refine_map board hopen _
  have hten : run.lookup 10 = .ok ⟨2 ^ 1 + 2 ^ 2, 2 ^ 2⟩ :=
    Vlans.lookup_ok_iff.mpr ⟨by decide, by decide +kernel⟩
  have heleven : run.switch.vlans.members.get? 11 = none := by decide +kernel
  refine ⟨hrefines, hten, ?_, ?_, ?_⟩
  · rw [← hrefines.there 11]
    rintro ⟨v, hv⟩
    have hget := (Vlans.lookup_ok_iff.mp hv).2
    rw [heleven] at hget
    cases hget
  · rw [← hrefines.untagged 10 _ hten 1]
    decide
  · rw [← hrefines.untagged 10 _ hten 2]
    decide

end ControlPlane
