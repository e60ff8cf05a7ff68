import ControlPlane.MacAddr
import ControlPlane.Proofs.Runs
import ControlPlane.Proofs.Text.Cuts
import ControlPlane.Proofs.Text.Numerals
import Mathlib.Data.List.Forall2

/-! # The forms of MAC addresses

* **Octets.**  An octet is read from one or two hexadecimal digits, of either case and without a sign, and
  from nothing else (`MacAddr.octet?_eq_some_iff`).
* **Texts.**  What a text is read as is up to its pieces between colons, once it is trimmed: an address if they
  are six octets (`MacAddr.parse_eq_ok_iff`), and otherwise an error that says how many there are, or names the
  first of six that is no octet (`MacAddr.parse_eq_error_iff`).
* `MacAddr.forms_round_trip`: this, and that each of the two forms of an address gives it back. -/

namespace ControlPlane.MacAddr

open Text

/-- An octet as a text: one or two hexadecimal digits. -/
inductive OctetText : List Char → UInt8 → Prop where
  | one {c : Char} {d : Nat} (h : IsDigit 16 c d) : OctetText [c] (UInt8.ofNat d)
  | two {c c' : Char} {d d' : Nat} (h : IsDigit 16 c d) (h' : IsDigit 16 c' d') :
      OctetText [c, c'] (UInt8.ofNat (d * 16 + d'))

/-- Texts that are an octet. -/
def IsOctet (part : List Char) : Prop := ∃ o, OctetText part o

variable {part : List Char} {parts : List (List Char)} {o : UInt8} {os : List UInt8} {m : MacAddr}
  {e : MacError} {s : String}

/-! ### Octets -/

theorem digit?_iff {c : Char} {d : Nat} : Text.digit? 16 c = some d ↔ IsDigit 16 c d :=
  Text.digit?_eq_some_iff (Nat.le_refl 16)

theorem octet?_eq_some_iff : octet? part = some o ↔ OctetText part o := by
  constructor
  · intro h
    unfold octet? at h
    split at h
    · next hshort =>
        obtain ⟨n, hn, rfl⟩ := Option.map_eq_some_iff.mp h
        match part, hshort, hn with
        | [c], _, hn =>
            rw [Text.unsigned?_singleton, digit?_iff] at hn
            exact .one hn
        | [c, c'], _, hn =>
            rw [Text.unsigned?_pair, Option.bind_eq_some_iff] at hn
            obtain ⟨d, hd, hn⟩ := hn
            obtain ⟨d', hd', rfl⟩ := Option.map_eq_some_iff.mp hn
            exact .two (digit?_iff.mp hd) (digit?_iff.mp hd')
    · cases h
  · intro h
    cases h with
    | @one c d hd =>
        have hshort : [c].length ≤ 2 := Nat.le_succ 1
        rw [octet?, if_pos hshort, Text.unsigned?_singleton, digit?_iff.mpr hd]
        rfl
    | @two c c' d d' hd hd' =>
        have hshort : [c, c'].length ≤ 2 := Nat.le_refl 2
        rw [octet?, if_pos hshort, Text.unsigned?_pair, digit?_iff.mpr hd, digit?_iff.mpr hd']
        rfl

theorem octet?_eq_none_iff : octet? part = none ↔ ¬ IsOctet part := by
  rw [Option.eq_none_iff_forall_ne_some, IsOctet, not_exists]
  exact forall_congr' fun o => not_congr octet?_eq_some_iff

theorem octetsOf_cons_octet (h : octet? part = some o) :
    octetsOf (part :: parts) = (octetsOf parts).map (o :: ·) := by
  rw [octetsOf, h]
  cases octetsOf parts <;> rfl

theorem octetsOf_cons_bad (h : octet? part = none) :
    octetsOf (part :: parts) = .error (.badOctet (String.ofList part)) := by
  rw [octetsOf, h]

/-- Parts are read as octets one by one, up to the first that is none. -/
theorem octetsOf_reads (parts : List (List Char)) :
    (∃ os, octetsOf parts = .ok os ∧ List.Forall₂ OctetText parts os) ∨
    ∃ k bad, octetsOf parts = .error (.badOctet (String.ofList bad)) ∧ FirstOutside IsOctet parts k bad := by
  induction parts with
  | nil => exact .inl ⟨[], rfl, .nil⟩
  | cons part parts ih =>
      cases ho : octet? part with
      | none =>
          have hout := octet?_eq_none_iff.mp ho
          exact .inr ⟨0, part, octetsOf_cons_bad ho, (firstOutside_cons_of_not hout).mpr ⟨rfl, rfl⟩⟩
      | some o =>
          have hoctet : OctetText part o := octet?_eq_some_iff.mp ho
          have hgood : IsOctet part := ⟨o, hoctet⟩
          rw [octetsOf_cons_octet ho]
          rcases ih with ⟨os, hos, hall⟩ | ⟨k, bad, he, hfirst⟩
          · exact .inl ⟨o :: os, by rw [hos]; rfl, .cons hoctet hall⟩
          · exact .inr ⟨k + 1, bad, by rw [he]; rfl,
              (firstOutside_cons_of_good hgood).mpr ⟨k, rfl, hfirst⟩⟩

theorem OctetText.unique {o' : UInt8} (h : OctetText part o) (h' : OctetText part o') : o = o' :=
  Option.some.inj ((octet?_eq_some_iff.mpr h).symm.trans (octet?_eq_some_iff.mpr h'))

theorem isOctet_of_forall₂ (h : List.Forall₂ OctetText parts os) : ∀ part ∈ parts, IsOctet part := by
  induction h with
  | nil => exact fun _ h => nomatch h
  | cons ho _ ih => exact List.forall_mem_cons.mpr ⟨⟨_, ho⟩, ih⟩

theorem octetsOf_eq_ok_iff : octetsOf parts = .ok os ↔ List.Forall₂ OctetText parts os := by
  have hunique : Relator.RightUnique OctetText := fun _ _ _ => OctetText.unique
  rcases octetsOf_reads parts with ⟨os', hos, hall⟩ | ⟨k, bad, he, hfirst⟩
  · rw [hos, Except.ok.injEq]
    exact ⟨fun h => h ▸ hall, hunique.forall₂ hall⟩
  · rw [he]
    exact iff_of_false (fun h => nomatch h) fun h => hfirst.not_forall (isOctet_of_forall₂ h)

/-- The error names the first part that is no octet. -/
theorem octetsOf_eq_error_iff : octetsOf parts = .error e ↔
    ∃ k bad, FirstOutside IsOctet parts k bad ∧ e = .badOctet (String.ofList bad) := by
  rcases octetsOf_reads parts with ⟨os, hos, hall⟩ | ⟨k, bad, he, hfirst⟩
  · rw [hos]
    refine iff_of_false (fun h => nomatch h) ?_
    rintro ⟨k, bad, hfirst, -⟩
    exact hfirst.not_forall (isOctet_of_forall₂ hall)
  · rw [he, Except.error.injEq]
    constructor
    · rintro rfl
      exact ⟨k, bad, hfirst, rfl⟩
    · rintro ⟨k', bad', hfirst', rfl⟩
      rw [(hfirst.unique hfirst').2]

/-! ### Texts -/

theorem ofOctets?_eq_some_iff : ofOctets? os = some m ↔ os = m.octets := by
  constructor
  · intro h
    unfold ofOctets? at h
    split at h
    · cases h
      rfl
    · cases h
  · rintro rfl
    rfl

theorem exists_octets (h : os.length = 6) : ∃ m : MacAddr, os = m.octets := by
  match os, h with
  | [o0, o1, o2, o3, o4, o5], _ => exact ⟨⟨o0, o1, o2, o3, o4, o5⟩, rfl⟩

/-- Pieces are too few or too many, an address, or six of which one is no octet. -/
theorem pieces_cases (parts : List (List Char)) : parts.length ≠ 6 ∨
    (∃ m : MacAddr, List.Forall₂ OctetText parts m.octets) ∨
    parts.length = 6 ∧ ∃ k bad, FirstOutside IsOctet parts k bad := by
  by_cases hsix : parts.length = 6
  · right
    rcases octetsOf_reads parts with ⟨os, -, hall⟩ | ⟨k, bad, -, hfirst⟩
    · obtain ⟨m, rfl⟩ := exists_octets (hall.length_eq.symm.trans hsix)
      exact .inl ⟨m, hall⟩
    · exact .inr ⟨hsix, k, bad, hfirst⟩
  · exact .inl hsix

section texts

variable {body : List Char} (hbody : Trimmed s.toList body) (hparts : Pieces ':' body parts)

include hbody hparts

theorem parse_of_count (h : parts.length ≠ 6) : parse s = .error (.octetCount parts.length) := by
  unfold parse
  simp only [Text.trim_eq_iff.mpr hbody, Text.splitAt_eq_iff.mpr hparts, if_pos h]

theorem parse_of_octets (h : List.Forall₂ OctetText parts m.octets) : parse s = .ok m := by
  have hsix : ¬ parts.length ≠ 6 := not_not.mpr h.length_eq
  unfold parse
  simp only [Text.trim_eq_iff.mpr hbody, Text.splitAt_eq_iff.mpr hparts, if_neg hsix,
    octetsOf_eq_ok_iff.mpr h, ofOctets?_eq_some_iff.mpr rfl]

theorem parse_of_bad (hsix : parts.length = 6) {k : Nat} {bad : List Char}
    (h : FirstOutside IsOctet parts k bad) : parse s = .error (.badOctet (String.ofList bad)) := by
  unfold parse
  simp only [Text.trim_eq_iff.mpr hbody, Text.splitAt_eq_iff.mpr hparts, if_neg (not_not.mpr hsix),
    octetsOf_eq_error_iff.mpr ⟨k, bad, h, rfl⟩]

/-- A text is read as an address exactly if its pieces are the octets of the address. -/
theorem parse_eq_ok_iff : parse s = .ok m ↔ List.Forall₂ OctetText parts m.octets := by
  refine ⟨fun h => ?_, parse_of_octets hbody hparts⟩
  rcases pieces_cases parts with hcount | ⟨m', hoctets⟩ | ⟨hsix, k, bad, hfirst⟩
  · rw [parse_of_count hbody hparts hcount] at h
    cases h
  · rw [parse_of_octets hbody hparts hoctets] at h
    cases h
    exact hoctets
  · rw [parse_of_bad hbody hparts hsix hfirst] at h
    cases h

/-- The error says how many pieces there are, or names the first of six that is no octet. -/
theorem parse_eq_error_iff : parse s = .error e ↔
    parts.length ≠ 6 ∧ e = .octetCount parts.length ∨
    parts.length = 6 ∧ ∃ k bad, FirstOutside IsOctet parts k bad ∧ e = .badOctet (String.ofList bad) := by
  constructor
  · intro h
    rcases pieces_cases parts with hcount | ⟨m, hoctets⟩ | ⟨hsix, k, bad, hfirst⟩
    · rw [parse_of_count hbody hparts hcount] at h
      cases h
      exact .inl ⟨hcount, rfl⟩
    · rw [parse_of_octets hbody hparts hoctets] at h
      cases h
    · rw [parse_of_bad hbody hparts hsix hfirst] at h
      cases h
      exact .inr ⟨hsix, k, bad, hfirst, rfl⟩
  · rintro (⟨hcount, rfl⟩ | ⟨hsix, k, bad, hfirst, rfl⟩)
    · exact parse_of_count hbody hparts hcount
    · exact parse_of_bad hbody hparts hsix hfirst

end texts

/-! ### The text of an address -/

/-- The pieces of an address's text. -/
def pieces (m : MacAddr) : List (List Char) := m.octets.map fun o => (Text.hexByte o).toList

theorem octetText_hexByte (o : UInt8) : OctetText (Text.hexByte o).toList o := by
  have hlt : o.toNat < 256 := o.toNat_lt
  have hhigh : o.toNat / 16 < 16 := by omega
  have hlow : o.toNat % 16 < 16 := Nat.mod_lt _ (by decide)
  have h := OctetText.two (Text.isDigit_digitChar hhigh) (Text.isDigit_digitChar hlow)
  rw [Nat.div_add_mod', UInt8.ofNat_toNat] at h
  rw [Text.hexByte, String.toList_ofList]
  exact h

/-- A digit is no separator and no blank. -/
theorem digit_plain {c : Char} {d : Nat} (h : IsDigit 16 c d) : c ≠ ':' ∧ Text.isBlank c = false := by
  have hall : ∀ d < 16, ∀ c, c = Nat.digitChar d ∨ c = (Nat.digitChar d).toUpper →
      c ≠ ':' ∧ Text.isBlank c = false := by
    simp only [forall_eq_or_imp, forall_eq]
    decide
  exact hall d h.1 c h.2

theorem OctetText.plain (h : OctetText part o) : ∀ c ∈ part, c ≠ ':' ∧ Text.isBlank c = false := by
  cases h with
  | one h => exact List.forall_mem_singleton.mpr (digit_plain h)
  | two h h' =>
      exact List.forall_mem_cons.mpr ⟨digit_plain h, List.forall_mem_singleton.mpr (digit_plain h')⟩

theorem forall₂_pieces (m : MacAddr) : List.Forall₂ OctetText m.pieces m.octets := by
  rw [pieces, List.forall₂_map_left_iff]
  exact List.forall₂_same.mpr fun o _ => octetText_hexByte o

theorem pieces_text (m : MacAddr) : Pieces ':' m.text.toList m.pieces where
  ne_nil := List.cons_ne_nil _ _
  apart part hpart hcolon := by
    obtain ⟨o, -, rfl⟩ := List.mem_map.mp hpart
    exact ((octetText_hexByte o).plain ':' hcolon).1 rfl
  joined := by
    rw [text, String.toList_intercalate, pieces, List.map_map]
    rfl

theorem trimmed_text (m : MacAddr) : Trimmed m.text.toList m.text.toList := by
  apply Text.trimmed_of_no_blank
  intro c hc
  rcases (pieces_text m).mem hc with rfl | ⟨part, hpart, hc⟩
  · rfl
  · obtain ⟨o, -, rfl⟩ := List.mem_map.mp hpart
    exact ((octetText_hexByte o).plain c hc).2

/-- **Both forms of an address give it back, and texts are read exactly as the first of them.**  The text of an
address is read as that address, its number is turned into it, and a number keeps its lowest 48 bits.  A text
that is trimmed and cut at its colons is read as an address if and only if the pieces are its six octets, one
or two hexadecimal digits each.  Otherwise, if there are not six pieces the error says how many there are,
and if there are it names the first that is no octet. -/
theorem forms_round_trip :
    (∀ m : MacAddr, parse m.text = .ok m) ∧ (∀ m, ofNat m.toNat = m) ∧
    (∀ n, (ofNat n).toNat = n % 2 ^ 48) ∧
    ∀ s : String, ∃ body parts, Trimmed s.toList body ∧ Pieces ':' body parts ∧
      (∀ m, parse s = .ok m ↔ List.Forall₂ OctetText parts m.octets) ∧
      (∀ k, parse s = .error (.octetCount k) ↔ parts.length = k ∧ k ≠ 6) ∧
      ∀ bad, parse s = .error (.badOctet bad) ↔
        parts.length = 6 ∧ ∃ k, FirstOutside IsOctet parts k bad.toList := by
  refine ⟨fun m => parse_of_octets (trimmed_text m) (pieces_text m) (forall₂_pieces m), ofNat_toNat,
    toNat_ofNat, fun s => ?_⟩
  have hbody := Text.trim_trimmed s.toList
  have hparts : Pieces ':' (Text.trim s.toList) _ := Text.splitAt_eq_iff.mp rfl
  refine ⟨_, _, hbody, hparts, fun m => parse_eq_ok_iff hbody hparts, fun k => ?_, fun bad => ?_⟩
  · rw [parse_eq_error_iff hbody hparts]
    constructor
    · rintro (⟨hcount, he⟩ | ⟨-, _, _, -, he⟩) <;> cases he
      exact ⟨rfl, hcount⟩
    · rintro ⟨rfl, hcount⟩
      exact .inl ⟨hcount, rfl⟩
  · rw [parse_eq_error_iff hbody hparts]
    constructor
    · rintro (⟨-, he⟩ | ⟨hsix, k, part, hfirst, he⟩) <;> cases he
      exact ⟨hsix, k, by rwa [String.toList_ofList]⟩
    · rintro ⟨hsix, k, hfirst⟩
      exact .inr ⟨hsix, k, _, hfirst, by rw [String.ofList_toList]⟩

example : parse " 0:1:2:a:0B:+c\n" = .error (.badOctet "+c") := by decide

end ControlPlane.MacAddr
