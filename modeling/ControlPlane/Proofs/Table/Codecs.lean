import ControlPlane.Proofs.Table.Masks
import ControlPlane.Table.Entry
import Mathlib.Data.List.Basic

/-! # What encoders write, decoders read

An entry decodes as it was encoded, with each value cut to the width of its field.  There is one fact
behind this (`Fields.Laid.reads`): the fields of an encoded entry read back, cut to their widths, if they
do not overlap and end inside the entry.  So a value that is too large for its field never reaches a
neighbour, and an entry whose values fit (`Fits`) decodes as it is.

* **Nine tables.**  `cut` is what an entry of the table keeps, and `decode_encode_cut` says that it is
  what decodes.
* **Groups.**  The descriptor of a group with few enough members reads back whole
  (`GroupEntry.decode_encode`).
* **All tables.**  `codecs_round_trip`.

Whether an entry of the address tables is valid is up to its first word alone (`marked_cons_iff`), so that
words which two tables share decide it for both. -/

namespace ControlPlane

namespace Bits

/-- Digits above a field do not matter to it. -/
theorem get_mod (n : Nat) {lo width m : Nat} (h : lo + width ≤ m) :
    get (n % 2 ^ m) lo width = get n lo width := by
  apply Nat.eq_of_testBit_eq
  intro i
  rw [testBit_get, testBit_get, Nat.testBit_mod_two_pow]
  by_cases hi : i < width
  · rw [decide_eq_true (show lo + i < m by omega), Bool.true_and]
  · rw [decide_eq_false hi, Bool.false_and, Bool.false_and]

/-- A field of a field is a field. -/
theorem get_get (n : Nat) {lo width lo' width' : Nat} (h : lo' + width' ≤ width) :
    get (get n lo width) lo' width' = get n (lo + lo') width' := by
  apply Nat.eq_of_testBit_eq
  intro i
  rw [testBit_get, testBit_get, testBit_get, Nat.add_assoc]
  by_cases hi : i < width'
  · rw [decide_eq_true (show lo' + i < width by omega), Bool.true_and]
  · rw [decide_eq_false hi, Bool.false_and, Bool.false_and]

end Bits

/-- A list that is looked up place by place. -/
theorem mapM_range'_eq_some {α : Type} {f : Nat → Option α} {as : List α} {start : Nat}
    (h : ∀ k (hk : k < as.length), f (start + k) = some as[k]) :
    (List.range' start as.length).mapM f = some as := by
  induction as generalizing start with
  | nil => rfl
  | cons a as ih =>
      have hhead : f start = some a := h 0 (Nat.zero_lt_succ _)
      have htail : (List.range' (start + 1) as.length).mapM f = some as := ih fun k hk => by
        rw [Nat.add_right_comm]
        exact h (k + 1) (Nat.succ_lt_succ hk)
      rw [List.length_cons, List.range'_succ, List.mapM_cons, hhead, htail]
      rfl

namespace Field

variable {f : Field} {v : Nat} {b : Bool} {words : List UInt32}

/-- What a field keeps of a value. -/
def cut (f : Field) (v : Nat) : Nat := v % 2 ^ f.width

theorem cut_of_lt (h : v < 2 ^ f.width) : f.cut v = v := Nat.mod_eq_of_lt h

theorem isSet?_of_read (hf : f.width = 1) (h : f.read? words = some (f.cut b.toNat)) :
    f.isSet? words = some b := by
  rw [isSet?, h, cut, hf]
  cases b <;> rfl

end Field

/-- An address loses nothing in a field of 48 bits. -/
theorem MacAddr.ofNat_cut {f : Field} (hf : f.width = 48) (mac : MacAddr) :
    MacAddr.ofNat (f.cut mac.toNat) = mac := by
  rw [Field.cut_of_lt (hf ▸ mac.toNat_lt), MacAddr.ofNat_toNat]

namespace Fields

variable {t : Table} {fields : List (Field × Nat)} {f : Field} {v : Nat} {words : List UInt32}

/-- Whether a field can be read from an entry of a table. -/
def Within (t : Table) (f : Field) : Prop := f.width ≤ 128 ∧ f.lo + f.width ≤ 32 * t.words

instance (t : Table) (f : Field) : Decidable (Within t f) := inferInstanceAs (Decidable (_ ∧ _))

/-- Fields that lie apart from each other inside an entry of a table. -/
def Laid (t : Table) (fs : List Field) : Prop := fs.Pairwise Field.Disjoint ∧ ∀ f ∈ fs, Within t f

instance (t : Table) (fs : List Field) : Decidable (Laid t fs) := inferInstanceAs (Decidable (_ ∧ _))

theorem Laid.read? (h : Laid t (fields.map Prod.fst)) (hm : (f, v) ∈ fields) :
    f.read? (encode t fields) = some (f.cut v) := by
  have hw : Within t f := h.2 f (List.mem_map_of_mem hm)
  obtain ⟨before, after, rfl⟩ := List.append_of_mem hm
  have hbefore : ∀ g ∈ before, g.1.Disjoint f := by
    intro g hg
    have hd := h.1
    rw [List.map_append, List.map_cons, List.pairwise_append] at hd
    exact hd.2.2 g.1 (List.mem_map_of_mem hg) f List.mem_cons_self
  have hreach : Words.Reaches (encode t (before ++ (f, v) :: after)) f.lo f.width :=
    ⟨hw.1, .inr (by rw [length_encode]; exact hw.2)⟩
  rw [Field.read?, Words.getField, if_pos hreach, encode, Words.toNat_ofNat, Bits.get_mod _ hw.2,
    get_pack before after f v hbefore, Field.cut]

/-- A value that fits its field reads back. -/
theorem Laid.read?_of_lt (h : Laid t (fields.map Prod.fst)) (hm : (f, v) ∈ fields)
    (hv : v < 2 ^ f.width) : f.read? (encode t fields) = some v := by
  rw [h.read? hm, Field.cut_of_lt hv]

/-- The fields of an encoded entry read back, one by one. -/
theorem Laid.reads (words : List UInt32) (hwords : words = encode t fields) (h : Laid t (fields.map Prod.fst)) :
    fields.Forall fun g => g.1.read? words = some (g.1.cut g.2) := by
  rw [hwords, List.forall_iff_forall_mem]
  exact fun g hg => h.read? hg

end Fields

/-! ### The first word -/

namespace Field

/-- The lowest bit of an entry is that of its first word. -/
theorem isSet?_bit_zero (w : UInt32) (ws : List UInt32) :
    (Field.bit 0).isSet? (w :: ws) = some (decide (w.toNat % 2 = 1)) := by
  have hreach : Words.Reaches (w :: ws) 0 1 :=
    ⟨by decide, .inr (by rw [List.length_cons]; omega)⟩
  have hget : Bits.get (Words.toNat (w :: ws)) 0 1 = w.toNat % 2 := by
    rw [Bits.get, Words.toNat, Nat.pow_zero, Nat.div_one, Nat.pow_one]
    omega
  simp only [isSet?, read?, bit, Words.getField, if_pos hreach, hget, Option.map_some,
    Option.some.injEq]
  exact Bool.eq_iff_iff.mpr (by simp)

end Field

/-- Whether words spell an entry of an address table that is valid. -/
def Marked (words : List UInt32) : Prop := (Field.bit 0).isSet? words = some true

theorem marked_cons_iff {w : UInt32} {ws ws' : List UInt32} : Marked (w :: ws) ↔ Marked (w :: ws') := by
  rw [Marked, Marked, Field.isSet?_bit_zero, Field.isSet?_bit_zero]

/-! ### Stations and traps -/

namespace StationEntry

/-- The values of an entry fit its fields. -/
structure Fits (e : StationEntry) : Prop where
  vlan : e.vlan < 2 ^ vlanField.width
  port : e.port < 2 ^ portField.width
  module : e.module < 2 ^ moduleField.width

/-- An entry with its values cut to their fields. -/
def cut (e : StationEntry) : StationEntry :=
  { e with
    vlan := vlanField.cut e.vlan
    port := portField.cut e.port
    module := moduleField.cut e.module }

theorem cut_of_fits {e : StationEntry} (h : e.Fits) : e.cut = e := by
  rw [cut, Field.cut_of_lt h.vlan, Field.cut_of_lt h.port, Field.cut_of_lt h.module]

theorem fields_laid : Fields.Laid .station [validBit, keyField, vlanField, macField, portField,
    moduleField, staticBit] := by
  decide

theorem marked_encode (e : StationEntry) : Marked e.encode :=
  Field.isSet?_of_read (b := true) rfl (Fields.Laid.reads e.encode rfl fields_laid).1

theorem decode_encode_cut (e : StationEntry) : decode e.encode = some (some e.cut) := by
  obtain ⟨hvalid, -, hvlan, hmac, hport, hmodule, hstatic⟩ :=
    Fields.Laid.reads e.encode rfl fields_laid
  have hvalid := Field.isSet?_of_read (b := true) rfl hvalid
  have hstatic := Field.isSet?_of_read rfl hstatic
  have hcut : MacAddr.ofNat (macField.cut e.mac.toNat) = e.mac := MacAddr.ofNat_cut rfl e.mac
  unfold decode
  rw [hvalid, hmac, hvlan, hport, hmodule, hstatic]
  simp only [bind, Option.bind, pure, if_true, hcut]
  rfl

theorem decode_encode {e : StationEntry} (h : e.Fits) : decode e.encode = some (some e) := by
  rw [decode_encode_cut, cut_of_fits h]

/-- Words with the mark are some station. -/
theorem decode_ne_none {words : List UInt32} (h : Marked words) : decode words ≠ some none := by
  have hvalid : validBit.isSet? words = some true := h
  intro hd
  simp [decode, hvalid, Option.bind_eq_some_iff] at hd

theorem decode_blank : decode (List.replicate Table.station.words 0) = some none := rfl

end StationEntry

namespace TrapEntry

/-- The values of an entry fit its fields. -/
structure Fits (e : TrapEntry) : Prop where
  vlan : e.vlan < 2 ^ 12
  mask : e.mask < 2 ^ maskField.width
  port : e.port < 2 ^ portField.width

instance (e : TrapEntry) : Decidable e.Fits :=
  decidable_of_iff (e.vlan < 2 ^ 12 ∧ e.mask < 2 ^ maskField.width ∧ e.port < 2 ^ portField.width)
    ⟨fun ⟨h1, h2, h3⟩ => ⟨h1, h2, h3⟩, fun h => ⟨h.vlan, h.mask, h.port⟩⟩

/-- An entry with its values cut to their fields, and the VLAN to its part of the key. -/
def cut (e : TrapEntry) : TrapEntry :=
  { e with vlan := e.vlan % 2 ^ 12, mask := maskField.cut e.mask, port := portField.cut e.port }

theorem cut_of_fits {e : TrapEntry} (h : e.Fits) : e.cut = e := by
  rw [cut, Nat.mod_eq_of_lt h.vlan, Field.cut_of_lt h.mask, Field.cut_of_lt h.port]

theorem fields_laid :
    Fields.Laid .trap [validBit, keyField, maskField, portField, cpuBit, bpduBit] := by
  decide

theorem marked_encode (e : TrapEntry) : Marked e.encode :=
  Field.isSet?_of_read (b := true) rfl (Fields.Laid.reads e.encode rfl fields_laid).1

theorem key_lt (e : TrapEntry) : e.key < 2 ^ keyField.width := by
  have := e.mac.toNat_lt
  change e.vlan % 2 ^ 12 * 2 ^ 48 + e.mac.toNat < 2 ^ 61
  omega

/-- The address is in the key's lowest bits. -/
theorem mac_of_key (e : TrapEntry) : MacAddr.ofNat e.key = e.mac := by
  have hlow : e.key % 2 ^ 48 = e.mac.toNat := by
    have := e.mac.toNat_lt
    rw [key]
    omega
  rw [← MacAddr.ofNat_toNat (MacAddr.ofNat e.key), MacAddr.toNat_ofNat, hlow, MacAddr.ofNat_toNat]

theorem vlan_of_key (e : TrapEntry) : e.key / 2 ^ 48 % 2 ^ 12 = e.vlan % 2 ^ 12 := by
  have := e.mac.toNat_lt
  rw [key]
  omega

/-- What the fields read is what is decoded. -/
theorem decode_of_read {words : List UInt32} {key mask port : Nat} {toCpu bpdu : Bool}
    (hvalid : validBit.isSet? words = some true) (hkey : keyField.read? words = some key)
    (hmask : maskField.read? words = some mask) (hport : portField.read? words = some port)
    (hcpu : cpuBit.isSet? words = some toCpu) (hbpdu : bpduBit.isSet? words = some bpdu) :
    decode words =
      some (some ⟨.ofNat key, key / 2 ^ 48 % 2 ^ 12, mask, port, toCpu, bpdu⟩) := by
  unfold decode
  rw [hvalid, hkey, hmask, hport, hcpu, hbpdu]
  rfl

theorem decode_encode_cut (e : TrapEntry) : decode e.encode = some (some e.cut) := by
  obtain ⟨hvalid, hkey, hmask, hport, hcpu, hbpdu⟩ :=
    Fields.Laid.reads e.encode rfl fields_laid
  have hvalid := Field.isSet?_of_read (b := true) rfl hvalid
  have hcpu := Field.isSet?_of_read rfl hcpu
  have hbpdu := Field.isSet?_of_read rfl hbpdu
  rw [Field.cut_of_lt e.key_lt] at hkey
  rw [decode_of_read hvalid hkey hmask hport hcpu hbpdu, e.mac_of_key, e.vlan_of_key]
  rfl

theorem decode_encode {e : TrapEntry} (h : e.Fits) : decode e.encode = some (some e) := by
  rw [decode_encode_cut, cut_of_fits h]

/-- Words with the mark are some trap. -/
theorem decode_ne_none {words : List UInt32} (h : Marked words) : decode words ≠ some none := by
  have hvalid : validBit.isSet? words = some true := h
  intro hd
  simp [decode, hvalid, Option.bind_eq_some_iff] at hd

theorem decode_blank : decode (List.replicate Table.trap.words 0) = some none := rfl

end TrapEntry

/-! ### Interfaces and next hops -/

namespace InterfaceEntry

/-- An entry with its VLAN cut to its field. -/
def cut (e : InterfaceEntry) : InterfaceEntry := { e with vlan := vlanField.cut e.vlan }

theorem fields_laid : Fields.Laid .interface [vlanField, macField] := by decide

theorem decode_encode_cut (e : InterfaceEntry) : decode e.encode = some (some e.cut) := by
  obtain ⟨hvlan, hmac⟩ := Fields.Laid.reads e.encode rfl fields_laid
  have hcut : MacAddr.ofNat (macField.cut e.mac.toNat) = e.mac := MacAddr.ofNat_cut rfl e.mac
  unfold decode
  rw [hvlan, hmac]
  simp only [bind, Option.bind, pure, hcut]
  rfl

end InterfaceEntry

namespace IngressHop

/-- A hop with its values cut to their fields. -/
def cut (e : IngressHop) : IngressHop where
  type := typeField.cut e.type
  port := portField.cut e.port
  module := moduleField.cut e.module

theorem fields_laid : Fields.Laid .ingressHop [typeField, portField, moduleField] := by decide

theorem decode_encode_cut (e : IngressHop) : decode e.encode = some (some e.cut) := by
  obtain ⟨htype, hport, hmodule⟩ := Fields.Laid.reads e.encode rfl fields_laid
  unfold decode
  rw [htype, hport, hmodule]
  rfl

end IngressHop

namespace EgressHop

/-- A hop with its values cut to their fields. -/
def cut (e : EgressHop) : EgressHop :=
  { e with type := typeField.cut e.type, interface := interfaceField.cut e.interface }

theorem fields_laid : Fields.Laid .egressHop [typeField, interfaceField, macField] := by decide

theorem decode_encode_cut (e : EgressHop) : decode e.encode = some (some e.cut) := by
  obtain ⟨htype, hinterface, hmac⟩ := Fields.Laid.reads e.encode rfl fields_laid
  have hcut : MacAddr.ofNat (macField.cut e.mac.toNat) = e.mac := MacAddr.ofNat_cut rfl e.mac
  unfold decode
  rw [htype, hinterface, hmac]
  simp only [bind, Option.bind, pure, hcut]
  rfl

end EgressHop

/-! ### Routes -/

namespace RouteEntry

/-- An entry with the host bits of its subnet cleared and its next hop cut to its field. -/
def cut (e : RouteEntry) : RouteEntry :=
  { e with subnet := e.subnet.canon, nextHop := hopField.cut e.nextHop }

theorem fields_laid : Fields.Laid .route [validBit, keyField, maskField, groupBit, hopField] := by
  decide

theorem contiguous?_maskBits (s : Subnet) :
    contiguous? (Subnet.maskBits s.len) = some ⟨s.len, s.len_le⟩ :=
  (contiguous?_eq_some_iff (Subnet.maskBits_lt s.len) ⟨s.len, s.len_le⟩).mpr rfl

theorem decode_encode_cut (e : RouteEntry) : decode e.encode = some (some e.cut) := by
  obtain ⟨hvalid, hkey, hmask, hgroup, hhop⟩ :=
    Fields.Laid.reads e.encode rfl fields_laid
  have hvalid := Field.isSet?_of_read (b := true) rfl hvalid
  have hgroup := Field.isSet?_of_read rfl hgroup
  have hlen : maskField.cut (fixedMask + Subnet.maskBits e.subnet.len * 2) / 2 % 2 ^ 32 =
      Subnet.maskBits e.subnet.len := by
    have := Subnet.maskBits_lt e.subnet.len
    simp only [Field.cut, fixedMask, maskField]
    omega
  have hbits : UInt32.ofNat (keyField.cut (e.subnet.canon.addr.bits.toNat * 2) / 2) =
      e.subnet.canon.addr.bits := by
    have : keyField.cut (e.subnet.canon.addr.bits.toNat * 2) / 2 =
        e.subnet.canon.addr.bits.toNat := by
      have := e.subnet.canon.addr.bits.toNat_lt
      simp only [Field.cut, keyField]
      omega
    rw [this, UInt32.ofNat_toNat]
  unfold decode
  rw [hvalid, hmask, hgroup, hkey, hhop]
  simp only [bind, Option.bind, if_true, hlen, contiguous?_maskBits, hbits, pure]
  rfl

theorem decode_blank : decode (List.replicate Table.route.words 0) = some none := rfl

end RouteEntry

/-! ### VLANs -/

namespace VlanEntry

/-- An entry with its values cut to their fields. -/
def cut (e : VlanEntry) : VlanEntry where
  ports := portsField.cut e.ports
  ingressPorts := ingressPortsField.cut e.ingressPorts
  group := groupField.cut e.group
  profile := profileField.cut e.profile

theorem fields_laid :
    Fields.Laid .vlan [portsField, ingressPortsField, groupField, validBit, profileField] := by
  decide

theorem decode_encode_cut (e : VlanEntry) : decode e.encode = some (some e.cut) := by
  obtain ⟨hports, hingress, hgroup, hvalid, hprofile⟩ :=
    Fields.Laid.reads e.encode rfl fields_laid
  have hvalid := Field.isSet?_of_read (b := true) rfl hvalid
  unfold decode
  rw [hvalid, hports, hingress, hgroup, hprofile]
  rfl

theorem decode_blank : decode (List.replicate Table.vlan.words 0) = some none := rfl

end VlanEntry

namespace EgressVlanEntry

/-- An entry with its values cut to their fields. -/
def cut (e : EgressVlanEntry) : EgressVlanEntry where
  group := groupField.cut e.group
  untagged := untaggedField.cut e.untagged
  ports := portsField.cut e.ports

theorem fields_laid :
    Fields.Laid .egressVlan [validBit, groupField, untaggedField, portsField] := by
  decide

theorem decode_encode_cut (e : EgressVlanEntry) : decode e.encode = some (some e.cut) := by
  obtain ⟨hvalid, hgroup, huntagged, hports⟩ :=
    Fields.Laid.reads e.encode rfl fields_laid
  have hvalid := Field.isSet?_of_read (b := true) rfl hvalid
  unfold decode
  rw [hvalid, hgroup, huntagged, hports]
  rfl

theorem decode_blank : decode (List.replicate Table.egressVlan.words 0) = some none := rfl

end EgressVlanEntry

/-! ### Groups -/

namespace MemberEntry

/-- A member cut to its field. -/
def cut (e : MemberEntry) : MemberEntry := ⟨hopField.cut e.nextHop⟩

theorem fields_laid : Fields.Laid .member [hopField] := by decide

theorem decode_encode_cut (e : MemberEntry) : decode e.encode = some (some e.cut) := by
  have hhop := Fields.Laid.reads e.encode rfl fields_laid
  unfold decode
  rw [hhop]
  rfl

theorem decode_encode {e : MemberEntry} (h : e.nextHop < 2 ^ 14) :
    decode e.encode = some (some e) := by
  rw [decode_encode_cut, cut, Field.cut_of_lt h]

end MemberEntry

namespace GroupEntry

/-- The fields of listed members lie one after the other. -/
theorem mem_listedFields {i : Nat} {ms : List Nat} {g : Field × Nat} (h : g ∈ listedFields i ms) :
    81 + 14 * i ≤ g.1.lo ∧ g.1.lo + g.1.width ≤ 81 + 14 * (i + ms.length) := by
  induction ms generalizing i with
  | nil => cases h
  | cons m ms ih =>
      rw [List.length_cons]
      rcases List.mem_cons.mp h with rfl | h
      · simp only [kindBit, Field.bit]
        omega
      · rcases List.mem_cons.mp h with rfl | h
        · simp only [listedField]
          omega
        · have := ih h
          omega

theorem listedFields_disjoint (i : Nat) (ms : List Nat) :
    ((listedFields i ms).map Prod.fst).Pairwise Field.Disjoint := by
  induction ms generalizing i with
  | nil => exact List.Pairwise.nil
  | cons m ms ih =>
      have hlater (f : Field) (hf : f ∈ (listedFields (i + 1) ms).map Prod.fst) :
          81 + 14 * (i + 1) ≤ f.lo := by
        obtain ⟨g, hg, rfl⟩ := List.mem_map.mp hf
        exact (mem_listedFields hg).1
      rw [listedFields, List.map_cons, List.map_cons, List.pairwise_cons, List.pairwise_cons]
      refine ⟨fun f hf => .inl ?_, fun f hf => .inl ?_, ih (i + 1)⟩
      · rcases List.mem_cons.mp hf with rfl | hf
        · simp only [kindBit, Field.bit, listedField]
          omega
        · have := hlater f hf
          simp only [kindBit, Field.bit]
          omega
      · have := hlater f hf
        simp only [listedField]
        omega

theorem mem_listedFields_get {i k : Nat} {ms : List Nat} (hk : k < ms.length) :
    (listedField (i + k), ms[k]) ∈ listedFields i ms := by
  induction ms generalizing i k with
  | nil => cases hk
  | cons m ms ih =>
      rw [listedFields]
      cases k with
      | zero => exact List.mem_cons_of_mem _ List.mem_cons_self
      | succ k =>
          have := ih (i := i + 1) (k := k) (Nat.lt_of_succ_lt_succ hk)
          rw [show i + (k + 1) = i + 1 + k by omega]
          exact List.mem_cons_of_mem _ (List.mem_cons_of_mem _ this)

/-- The descriptor of a group with few enough members. -/
structure Fits (e : GroupEntry) : Prop where
  count_pos : 0 < e.count
  count_lt : e.count < 2 ^ 10
  base_lt : e.base < 2 ^ 12
  listed : e.listed = [] ∨ e.listed.length = e.count ∧ e.count ≤ listedMax
  listed_lt : ∀ m ∈ e.listed, m < 2 ^ 13

theorem Fits.length_le {e : GroupEntry} (h : e.Fits) : e.listed.length ≤ listedMax := by
  rcases h.listed with hnil | ⟨hlen, hle⟩
  · rw [hnil]
    exact Nat.zero_le _
  · rw [hlen]
    exact hle

theorem fields_laid {e : GroupEntry} (h : e.listed.length ≤ listedMax) :
    Fields.Laid .group (((countField, e.count) :: (baseField, e.base) ::
      (walkBit, e.listed.isEmpty.toNat) :: listedFields 0 (e.listed.take listedMax)).map Prod.fst) := by
  have hplace {f : Field} (hf : f ∈ (listedFields 0 (e.listed.take listedMax)).map Prod.fst) :
      81 ≤ f.lo ∧ f.lo + f.width ≤ 193 := by
    obtain ⟨g, hmem, rfl⟩ := List.mem_map.mp hf
    have hbounds := mem_listedFields hmem
    rw [List.take_of_length_le h] at hbounds
    change e.listed.length ≤ 8 at h
    omega
  have hwidth {f : Field} (hf : f ∈ (listedFields 0 (e.listed.take listedMax)).map Prod.fst) :
      Fields.Within .group f := by
    have := hplace hf
    change f.width ≤ 128 ∧ f.lo + f.width ≤ 224
    omega
  have hhead : Fields.Laid .group [countField, baseField, walkBit] := by decide
  change Fields.Laid .group ([countField, baseField, walkBit] ++
    (listedFields 0 (e.listed.take listedMax)).map Prod.fst)
  refine ⟨List.pairwise_append.mpr ⟨hhead.1, listedFields_disjoint _ _, fun f hf g hg => ?_⟩,
    fun f hf => ?_⟩
  · have := hplace hg
    simp only [List.mem_cons, List.not_mem_nil, or_false] at hf
    rcases hf with rfl | rfl | rfl
    · exact .inl (by simp only [countField]; omega)
    · exact .inl (by simp only [baseField]; omega)
    · exact .inr (by simp only [walkBit, Field.bit]; omega)
  · rcases List.mem_append.mp hf with hf | hf
    · exact hhead.2 f hf
    · exact hwidth hf

/-- Listed members read back. -/
theorem listed?_encode {e : GroupEntry} (h : e.Fits) (hl : e.listed.length = e.count) :
    listed? e.encode e.count = some e.listed := by
  have hread (k : Nat) (hk : k < e.listed.length) :
      (listedField k).read? e.encode = some e.listed[k] := by
    have hmem : (listedField k, e.listed[k]) ∈ listedFields 0 (e.listed.take listedMax) := by
      have := mem_listedFields_get (i := 0) hk
      rw [Nat.zero_add] at this
      rw [List.take_of_length_le h.length_le]
      exact this
    refine (fields_laid h.length_le).read?_of_lt ?_ (h.listed_lt _ (List.getElem_mem hk))
    exact List.mem_cons_of_mem _ (List.mem_cons_of_mem _ (List.mem_cons_of_mem _ hmem))
  rw [listed?, ← hl, List.range_eq_range']
  exact mapM_range'_eq_some fun k hk => by rw [Nat.zero_add]; exact hread k hk

theorem decode_encode {e : GroupEntry} (h : e.Fits) : decode e.encode = some (some e) := by
  have hlaid := fields_laid h.length_le
  have hcount : countField.read? e.encode = some e.count :=
    hlaid.read?_of_lt (by simp) h.count_lt
  have hbase : baseField.read? e.encode = some e.base :=
    hlaid.read?_of_lt (by simp) h.base_lt
  have hwalk : walkBit.isSet? e.encode = some e.listed.isEmpty :=
    Field.isSet?_of_read rfl (hlaid.read? (by simp))
  have hpos := h.count_pos
  unfold decode
  rw [hcount, hwalk, hbase]
  rcases h.listed with hnil | ⟨hlen, hle⟩
  · have hempty : e.listed.isEmpty = true := by rw [hnil]; rfl
    simp only [bind, Option.bind, pure, hempty, if_true, if_neg (Nat.ne_of_gt hpos)]
    rw [← hnil]
  · have hlisted : e.listed.isEmpty = false := by
      rw [List.isEmpty_eq_false_iff]
      rintro hnil
      rw [hnil] at hlen
      exact absurd hlen.symm (Nat.ne_of_gt hpos)
    have hread := listed?_encode h hlen
    simp only [bind, Option.bind, pure, hlisted, hread, if_neg (Nat.ne_of_gt hpos),
      Bool.false_eq_true, if_false]

theorem fits_ofMembers {base : Nat} {members : List Nat} (hpos : 0 < members.length)
    (hlt : members.length < 2 ^ countField.width) (hbase : base < 2 ^ baseField.width) :
    (ofMembers base members).Fits := by
  refine ⟨hpos, hlt, hbase, ?_, fun m hm => ?_⟩
  · unfold ofMembers
    split
    · exact .inr ⟨rfl, And.left ‹_›⟩
    · exact .inl rfl
  · unfold ofMembers at hm
    split at hm
    · rename_i hlisted
      have hle : m ≤ 2 ^ 13 - 1 := hlisted.2 m hm
      omega
    · cases hm

end GroupEntry

/-! ### All tables -/

namespace Table

/-- What is left of an entry that is encoded: its values, cut to their fields.  Of a group's descriptor
all is left. -/
def cutEntry : (t : Table) → t.Entry → t.Entry
  | station => StationEntry.cut
  | trap => TrapEntry.cut
  | interface => InterfaceEntry.cut
  | ingressHop => IngressHop.cut
  | egressHop => EgressHop.cut
  | route => RouteEntry.cut
  | vlan => VlanEntry.cut
  | egressVlan => EgressVlanEntry.cut
  | member => MemberEntry.cut
  | group => id

/-- Whether a bit of each entry tells whether it is valid. -/
def hasValidBit : Table → Bool
  | station | trap | route | vlan | egressVlan => true
  | interface | ingressHop | egressHop | member | group => false

theorem decode_encode_cut (t : Table) (ht : t ≠ group) (e : t.Entry) :
    t.decodeEntry (t.encodeEntry e) = some (some (t.cutEntry e)) := by
  cases t with
  | station => exact StationEntry.decode_encode_cut e
  | trap => exact TrapEntry.decode_encode_cut e
  | interface => exact InterfaceEntry.decode_encode_cut e
  | ingressHop => exact IngressHop.decode_encode_cut e
  | egressHop => exact EgressHop.decode_encode_cut e
  | route => exact RouteEntry.decode_encode_cut e
  | vlan => exact VlanEntry.decode_encode_cut e
  | egressVlan => exact EgressVlanEntry.decode_encode_cut e
  | member => exact MemberEntry.decode_encode_cut e
  | group => exact absurd rfl ht

theorem decode_blank (t : Table) (ht : t.hasValidBit = true) :
    t.decodeEntry (List.replicate t.words 0) = some none := by
  cases t with
  | station => exact StationEntry.decode_blank
  | trap => exact TrapEntry.decode_blank
  | route => exact RouteEntry.decode_blank
  | vlan => exact VlanEntry.decode_blank
  | egressVlan => exact EgressVlanEntry.decode_blank
  | interface | ingressHop | egressHop | member | group => cases ht

/-- Every entry decodes as it was encoded, with each value cut to its field; the descriptor of a group of
1 to 1023 members decodes as it was built; and in the tables that have a bit for it, an entry of zeros is
not valid. -/
theorem codecs_round_trip :
    (∀ t : Table, t ≠ group → ∀ e : t.Entry,
      t.decodeEntry (t.encodeEntry e) = some (some (t.cutEntry e))) ∧
    (∀ base members, base < 4096 → 1 ≤ members.length → members.length ≤ 1023 →
      group.decodeEntry (group.encodeEntry (GroupEntry.ofMembers base members)) =
        some (some (GroupEntry.ofMembers base members))) ∧
    ∀ t : Table, t.hasValidBit = true → t.decodeEntry (List.replicate t.words 0) = some none := by
  refine ⟨decode_encode_cut, fun base members hbase hpos hle => ?_, decode_blank⟩
  exact GroupEntry.decode_encode (GroupEntry.fits_ofMembers hpos (Nat.lt_succ_of_le hle) hbase)

/-- A station whose VLAN, port and module have a bit too many each; a group of nine members, and one with
a member that its descriptor has no room for. -/
theorem codecs_round_trip_oversized :
    station ≠ group ∧
    StationEntry.decode (StationEntry.encode ⟨⟨0x02, 0, 0, 0, 0, 1⟩, 4096 + 7, 128 + 3, 256, true⟩) =
      some (some ⟨⟨0x02, 0, 0, 0, 0, 1⟩, 7, 3, 0, true⟩) ∧
    [1, 2, 3, 4, 5, 6, 7, 8, 9].length ≤ 1023 ∧
    GroupEntry.decode (GroupEntry.encode ⟨4095, 9, []⟩) = some (some ⟨4095, 9, []⟩) ∧
    GroupEntry.decode (GroupEntry.encode ⟨0, 2, []⟩) = some (some ⟨0, 2, []⟩) ∧
    route.hasValidBit = true ∧ RouteEntry.decode (List.replicate route.words 0) = some none :=
  ⟨by decide,
    codecs_round_trip.1 station (by decide) ⟨⟨0x02, 0, 0, 0, 0, 1⟩, 4096 + 7, 128 + 3, 256, true⟩,
    by decide,
    codecs_round_trip.2.1 4095 [1, 2, 3, 4, 5, 6, 7, 8, 9] (by decide) (by decide) (by decide),
    codecs_round_trip.2.1 0 [1, 8192] (by decide) (by decide) (by decide),
    by decide,
    codecs_round_trip.2.2 route (by decide)⟩

end Table

end ControlPlane
