import ControlPlane.Proofs.Subnet
import ControlPlane.Proofs.Table.Totality
import ControlPlane.Routing.Routes

/-! # Which words are a route

An entry of the route table compares addresses bit by bit, and its mask may leave out any of them.  A route
has a subnet, which leaves out the lowest bits only.

* **Decoding.**  Words are a route exactly if they are marked as valid and the address bits of their mask are
  the mask of a length (`RouteEntry.decode_eq_some_iff`), and the route is the one that they spell
  (`RouteEntry.Spells`).  All other words of an entry's size are no route.
* **Masks and subnets.**  The length is the only one with that mask, and what `Subnet.make` makes of an
  address and a length has the bits of the mask and stays as it is when it is made again. -/

namespace ControlPlane

namespace RouteEntry

variable {words : List UInt32} {e : RouteEntry}

/-- The bits of the key that hold an address.  The one below them is its family's. -/
def addressField : Field := ⟨keyField.lo + 1, 32⟩

/-- The bits of the mask that are compared with those of the address. -/
def netmaskField : Field := ⟨maskField.lo + 1, 32⟩

/-- What words say about a route that is valid. -/
structure Spells (words : List UInt32) (e : RouteEntry) : Prop where
  valid : validBit.value words = 1
  mask : netmaskField.value words = (Subnet.mask e.subnet.len).toNat
  addr : e.subnet.addr.bits.toNat = addressField.value words
  toGroup : e.toGroup = true ↔ groupBit.value words = 1
  nextHop : e.nextHop = hopField.value words

/-- Words that are valid and whose mask counts the highest bits of an address and no others. -/
def Prefixed (words : List UInt32) : Prop :=
  validBit.value words = 1 ∧ ∃ len ≤ 32, netmaskField.value words = (Subnet.mask len).toNat

theorem netmask_eq (words : List UInt32) :
    maskField.value words / 2 % 2 ^ 32 = netmaskField.value words :=
  @Bits.get_get (Words.toNat words) maskField.lo maskField.width 1 32 (by decide)

theorem address_eq (words : List UInt32) :
    (UInt32.ofNat (keyField.value words / 2)).toNat = addressField.value words := by
  rw [UInt32.toNat_ofNat']
  exact @Bits.get_get (Words.toNat words) keyField.lo keyField.width 1 32 (by decide)

theorem netmask_lt (words : List UInt32) : netmaskField.value words < 2 ^ 32 := Bits.get_lt _ _ _

/-- The route that words spell, if their mask has the given length. -/
def spelled (words : List UInt32) {len : Nat} (hlen : len ≤ 32) : RouteEntry where
  subnet := ⟨⟨UInt32.ofNat (keyField.value words / 2)⟩, len, hlen⟩
  toGroup := groupBit.value words == 1
  nextHop := hopField.value words

theorem spells_iff (words : List UInt32) (e : RouteEntry) :
    Spells words e ↔ validBit.value words = 1 ∧
      ∃ len, contiguous? (netmaskField.value words) = some len ∧ e = spelled words len.2 := by
  constructor
  · rintro ⟨hvalid, hmask, haddr, hgroup, hhop⟩
    obtain ⟨⟨⟨bits⟩, len, hlen⟩, toGroup, nextHop⟩ := e
    rw [Subnet.toNat_mask] at hmask
    refine ⟨hvalid, ⟨len, hlen⟩, (contiguous?_eq_some_iff (netmask_lt words) _).mpr hmask, ?_⟩
    have hbits : bits = UInt32.ofNat (keyField.value words / 2) :=
      UInt32.toNat.inj (haddr.trans (address_eq words).symm)
    have htoGroup : toGroup = (groupBit.value words == 1) := Bool.eq_iff_iff.mpr (by simpa using hgroup)
    cases hbits
    cases htoGroup
    cases hhop
    rfl
  · rintro ⟨hvalid, len, hlen, rfl⟩
    have hmask := (contiguous?_eq_some_iff (netmask_lt words) len).mp hlen
    exact ⟨hvalid, hmask.trans (Subnet.toNat_mask _).symm, address_eq words, beq_iff_eq, rfl⟩

/-- Words of an entry's size are the route that they spell, if they are valid and their mask has a length. -/
theorem decode_eq (hl : words.length = Table.route.words) :
    decode words = some (if validBit.value words = 1
      then (contiguous? (netmaskField.value words)).map (fun len => spelled words len.2) else none) := by
  obtain ⟨hvalid, hkey, hmask, hgroup, hhop⟩ := fields_laid.readable hl
  unfold decode
  rw [Field.isSet?_of_read? hvalid, hmask, hkey, Field.isSet?_of_read? hgroup, hhop]
  simp only [Option.bind_eq_bind, Option.bind_some, netmask_eq, beq_iff_eq]
  by_cases h : validBit.value words = 1
  · rw [if_pos h, if_pos h]
    cases contiguous? (netmaskField.value words) <;> rfl
  · rw [if_neg h, if_neg h]
    rfl

theorem decode_eq_some_iff (hl : words.length = Table.route.words) (e : RouteEntry) :
    decode words = some (some e) ↔ Spells words e := by
  rw [decode_eq hl, spells_iff, Option.some.injEq, Option.ite_none_right_eq_some, Option.map_eq_some_iff]
  simp only [eq_comm]

theorem prefixed_iff (words : List UInt32) : Prefixed words ↔ ∃ e, Spells words e := by
  constructor
  · rintro ⟨hvalid, len, hlen, hmask⟩
    rw [Subnet.toNat_mask] at hmask
    have hsome := (contiguous?_eq_some_iff (netmask_lt words) ⟨len, hlen⟩).mpr hmask
    exact ⟨_, (spells_iff words _).mpr ⟨hvalid, _, hsome, rfl⟩⟩
  · rintro ⟨e, h⟩
    exact ⟨h.valid, e.subnet.len, e.subnet.len_le, h.mask⟩

theorem decode_eq_none_iff (hl : words.length = Table.route.words) :
    decode words = some none ↔ ¬ Prefixed words := by
  rw [prefixed_iff]
  obtain ⟨r, hr⟩ := Option.isSome_iff_exists.mp (decode_isSome hl)
  cases r with
  | none =>
      refine iff_of_true hr ?_
      rintro ⟨e, he⟩
      rw [(decode_eq_some_iff hl e).mpr he] at hr
      cases hr
  | some e =>
      refine iff_of_false ?_ (fun h => h ⟨e, (decode_eq_some_iff hl e).mp hr⟩)
      rw [hr]
      rintro ⟨⟩

end RouteEntry

/-! ### Subnets of an address -/

namespace Subnet

/-- A subnet of an address, as two facts that do not say how it is found: it has those bits of the address
that its length counts, and no others. -/
structure Of (addr : Ipv4) (s : Subnet) : Prop where
  kept : ∀ i, 32 - s.len ≤ i → s.addr.bits.toNat.testBit i = addr.bits.toNat.testBit i
  clear : ∀ i < 32 - s.len, s.addr.bits.toNat.testBit i = false

theorem make_ok {len : Nat} (addr : Ipv4) (h : len ≤ 32) : make addr len = .ok (canonical addr len h) :=
  dif_pos h

theorem canonical_of (addr : Ipv4) {len : Nat} (h : len ≤ 32) : (canonical addr len h).Of addr where
  kept i hi := by
    have hi : 32 - len ≤ i := hi
    rw [testBit_canonical, decide_eq_true hi, Bool.true_and]
  clear i hi := by
    have hi : i < 32 - len := hi
    rw [testBit_canonical, decide_eq_false (Nat.not_le_of_lt hi), Bool.false_and]

theorem make_eq_ok_iff {addr : Ipv4} {len : Nat} {s : Subnet} :
    make addr len = .ok s ↔ ∃ h : len ≤ 32, s = canonical addr len h := by
  unfold make
  split
  · next h =>
      rw [Except.ok.injEq]
      exact ⟨fun hs => ⟨h, hs.symm⟩, fun ⟨_, hs⟩ => hs.symm⟩
  · next h => exact iff_of_false (fun hs => nomatch hs) fun ⟨hle, _⟩ => h hle

/-- What is made of a subnet's address and its length is the same subnet. -/
theorem make_make {addr : Ipv4} {len : Nat} {s : Subnet} (h : make addr len = .ok s) :
    make s.addr s.len = .ok s := by
  obtain ⟨hle, rfl⟩ := make_eq_ok_iff.mp h
  exact make_eq_ok_iff.mpr ⟨hle, (canon_canon ⟨addr, len, hle⟩).symm⟩

end Subnet

/-! ### Routes and their subnets -/

namespace RouteEntry

/-- **Words are a route exactly if their mask is that of a length.**  Words of an entry's size decode into a
route if and only if they are valid and the bits of their mask for the address are the mask of some length,
and then into the route that they spell; else they decode into none.

The mask of a length has the highest bits, as many as the length says.  So no two lengths have the same mask,
and a longer one has all bits of a shorter one.  `Subnet.make` refuses a length above 32; what it makes of any
other has the bits of the address that the mask has and no others, and is made again of itself. -/
theorem decodes_iff_prefixed (words : List UInt32) (hl : words.length = Table.route.words) :
    ((∃ e, decode words = some (some e)) ↔ Prefixed words) ∧
    (decode words = some none ↔ ¬ Prefixed words) ∧
    (∀ e, decode words = some (some e) ↔ Spells words e) ∧
    (∀ len ≤ 32, ∀ i, (Subnet.mask len).toNat.testBit i = true ↔ i < 32 ∧ 32 - len ≤ i) ∧
    (∀ a ≤ 32, ∀ b ≤ 32, Subnet.mask a = Subnet.mask b → a = b) ∧
    (∀ b ≤ 32, ∀ a ≤ b, Subnet.mask a &&& Subnet.mask b = Subnet.mask a) ∧
    (∀ addr len, (∃ s, Subnet.make addr len = .ok s) ↔ len ≤ 32) ∧
    ∀ addr len s, Subnet.make addr len = .ok s →
      s.len = len ∧ s.Of addr ∧ Subnet.make s.addr s.len = .ok s := by
  refine ⟨?_, decode_eq_none_iff hl, decode_eq_some_iff hl, ?_, fun a ha b hb => (Subnet.mask_inj ha hb).mp,
    fun b hb a hab => Subnet.mask_and_mask hab hb, fun addr len => ?_, fun addr len s hs => ?_⟩
  · rw [prefixed_iff]
    exact exists_congr (decode_eq_some_iff hl)
  · intro len hlen i
    rw [Subnet.toNat_mask, Subnet.testBit_maskBits_iff hlen]
  · exact ⟨fun ⟨_, hs⟩ => (Subnet.make_eq_ok_iff.mp hs).1, fun hlen => ⟨_, Subnet.make_ok addr hlen⟩⟩
  · obtain ⟨hlen, rfl⟩ := Subnet.make_eq_ok_iff.mp hs
    exact ⟨rfl, Subnet.canonical_of addr hlen, Subnet.make_make hs⟩

/-- The entry of 10.0.0.0/8 decodes; with a second run of ones in its mask it is no route. -/
theorem decodes_iff_prefixed_holed :
    (∃ e, decode [0x50000001, 0, 0x4000000, 0xfff80000, 0x1f, 0, 0x8000, 0] = some (some e)) ∧
    decode [0x50000001, 0, 0x4000000, 0xfff807f8, 0x1f, 0, 0x8000, 0] = some none := by
  constructor
  · exact (decodes_iff_prefixed _ rfl).1.mpr ⟨by decide, 8, by decide, by decide⟩
  · have hnone : ∀ len ≤ 32, netmaskField.value [0x50000001, 0, 0x4000000, 0xfff807f8, 0x1f, 0, 0x8000, 0] ≠
        (Subnet.mask len).toNat := by decide
    exact (decodes_iff_prefixed _ rfl).2.1.mpr fun ⟨_, len, hlen, h⟩ => hnone len hlen h

end RouteEntry

end ControlPlane
