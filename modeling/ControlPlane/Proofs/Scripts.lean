import ControlPlane.Bringup
import ControlPlane.Proofs.Runs
import ControlPlane.Proofs.Text.Cuts
import ControlPlane.Proofs.Text.Numerals

/-! # The language of scripts

A line of a script is in the language if its words, up to a comment, are a command or none.  The language is
told twice: with numbers as they are documented, which are digits alone, and with numbers that may have a plus
sign in front of their digits.

* **Lines in order.**  Reading lines gives what is on each of them, with its number, or stops at the first that
  cannot be read (`readLines_reads`).
* **One line.**  A line is read exactly if it is in the language with signs (`ScriptCommand.ofLine_eq_ok_iff`).
* **Two languages.**  What a reader of one language answers is right for a narrower one up to the first line that
  tells them apart (`Script.Answers.narrower_iff`).
* `Script.parse_documented_iff`: a script is read as the language with signs has it.  That is as it is
  documented unless the first line that has no place in a script has one but for its signs. -/

namespace ControlPlane

/-! ### Lines in order -/

section lines

variable {ε α : Type}

/-- What is on lines that are numbered from `n` on, where something is. -/
inductive Listing (Says : List Char → Option α → Prop) : Nat → List (List Char) → List (Nat × α) → Prop where
  | nil {n : Nat} : Listing Says n [] []
  | blank {n : Nat} {line : List Char} {lines : List (List Char)} {found : List (Nat × α)}
      (h : Says line none) (hl : Listing Says (n + 1) lines found) : Listing Says n (line :: lines) found
  | item {n : Nat} {line : List Char} {lines : List (List Char)} {a : α} {found : List (Nat × α)}
      (h : Says line (some a)) (hl : Listing Says (n + 1) lines found) :
      Listing Says n (line :: lines) ((n, a) :: found)

/-- A line has a place among others if it says something, or that there is nothing on it. -/
def HasPlace (Says : List Char → Option α → Prop) (line : List Char) : Prop := ∃ f, Says line f

variable {Says Says' : List Char → Option α → Prop} {read : List Char → Except ε (Option α)} {n : Nat}
  {lines : List (List Char)} {found : List (Nat × α)}

theorem Listing.hasPlace (h : Listing Says n lines found) : ∀ line ∈ lines, HasPlace Says line := by
  induction h with
  | nil => exact fun _ h => nomatch h
  | blank h _ ih => exact List.forall_mem_cons.mpr ⟨⟨none, h⟩, ih⟩
  | item h _ ih => exact List.forall_mem_cons.mpr ⟨⟨_, h⟩, ih⟩

theorem Listing.imp (h : Listing Says n lines found)
    (hmeans : ∀ line ∈ lines, ∀ f, Says line f → Says' line f) : Listing Says' n lines found := by
  induction h with
  | nil => exact .nil
  | blank h _ ih =>
      obtain ⟨hfirst, hrest⟩ := List.forall_mem_cons.mp hmeans
      exact .blank (hfirst _ h) (ih hrest)
  | item h _ ih =>
      obtain ⟨hfirst, hrest⟩ := List.forall_mem_cons.mp hmeans
      exact .item (hfirst _ h) (ih hrest)

/-- Lines are read in order, up to the first that cannot be. -/
theorem readLines_reads (hread : ∀ line f, read line = .ok f ↔ Says line f) (n : Nat)
    (lines : List (List Char)) :
    (∃ found, readLines read (numbered n lines) = .ok found ∧ Listing Says n lines found) ∨
    ∃ k line e, readLines read (numbered n lines) = .error (n + k, e) ∧
      FirstOutside (HasPlace Says) lines k line := by
  induction lines generalizing n with
  | nil => exact .inl ⟨[], rfl, .nil⟩
  | cons line lines ih =>
      rw [numbered, readLines]
      cases hline : read line with
      | error e =>
          have hout : ¬ HasPlace Says line := by
            rintro ⟨f, hf⟩
            rw [(hread line f).mpr hf] at hline
            cases hline
          exact .inr ⟨0, line, e, rfl, (firstOutside_cons_of_not hout).mpr ⟨rfl, rfl⟩⟩
      | ok f =>
          have hmeans : Says line f := (hread line f).mp hline
          have hplace : HasPlace Says line := ⟨f, hmeans⟩
          rcases ih (n + 1) with ⟨found, hfound, hlisting⟩ | ⟨k, bad, e, herror, hfirst⟩
          · rw [hfound]
            cases f with
            | none => exact .inl ⟨found, rfl, .blank hmeans hlisting⟩
            | some a => exact .inl ⟨(n, a) :: found, rfl, .item hmeans hlisting⟩
          · rw [herror]
            have hnumber : n + 1 + k = n + (k + 1) := by omega
            exact .inr ⟨k + 1, bad, e, by rw [hnumber],
              (firstOutside_cons_of_good hplace).mpr ⟨k, rfl, hfirst⟩⟩

end lines

/-! ### One line -/

namespace ScriptCommand

/-- A number of a script, decimal or hexadecimal, with a sign in front of its digits if signs are taken. -/
inductive Number (signs : Bool) : List Char → Nat → Prop where
  | decimal {digits : List Char} {n : Nat} (h : Text.Signed signs 10 digits n) (hn : n < 2 ^ 32) :
      Number signs digits n
  | hexadecimal {x : Char} {digits : List Char} {n : Nat} (hx : x = 'x' ∨ x = 'X')
      (h : Text.Signed signs 16 digits n) (hn : n < 2 ^ 32) : Number signs ('0' :: x :: digits) n

/-- The words of a line that has a place in a script, and the command that they are. -/
inductive WordsSay (signs : Bool) : List (List Char) → Option ScriptCommand → Prop where
  | blank : WordsSay signs [] none
  | set {offset value : List Char} {n v : Nat} (hn : Number signs offset n) (hv : Number signs value v) :
      WordsSay signs ["setreg".toList, offset, value] (some (set n (UInt32.ofNat v)))
  | get {offset : List Char} {n : Nat} (hn : Number signs offset n) :
      WordsSay signs ["getreg".toList, offset] (some (get n))
  | load {path : List Char} : WordsSay signs ["rcload".toList, path] (some load)

/-- What a line says, up to its comment. -/
def LineSays (signs : Bool) (line : List Char) (found : Option ScriptCommand) : Prop :=
  ∃ words, Text.Words (Text.uncommented line) words ∧ WordsSay signs words found

variable {word line : List Char} {words : List (List Char)} {n : Nat} {found found' : Option ScriptCommand}

theorem not_signed_x {x : Char} {digits : List Char} (hx : x = 'x' ∨ x = 'X') :
    ¬ Text.Signed true 10 ('0' :: x :: digits) n := by
  intro h
  cases h with
  | bare h =>
      obtain ⟨d, hd⟩ := h.isDigit (List.mem_cons_of_mem _ List.mem_cons_self)
      rw [← Text.digit?_eq_some_iff (by decide)] at hd
      rcases hx with rfl | rfl <;> cases hd

theorem number_hexadecimal {x : Char} {digits : List Char} (hx : x = 'x' ∨ x = 'X') :
    number ('0' :: x :: digits) = .ok n ↔ Text.numeral? 16 (2 ^ 32) digits = some n := by
  rcases hx with rfl | rfl
  all_goals
    unfold number
    cases hvalue : Text.numeral? 16 (2 ^ 32) digits <;> simp only [hvalue] <;> simp

theorem number_decimal (h : ∀ x digits, x = 'x' ∨ x = 'X' → word ≠ '0' :: x :: digits) :
    number word = .ok n ↔ Text.numeral? 10 (2 ^ 32) word = some n := by
  unfold number
  split
  · exact absurd rfl (h 'x' _ (.inl rfl))
  · exact absurd rfl (h 'X' _ (.inr rfl))
  · cases hvalue : Text.numeral? 10 (2 ^ 32) word <;> simp

theorem number_eq_ok_iff : number word = .ok n ↔ Number true word n := by
  by_cases h : ∃ x digits, (x = 'x' ∨ x = 'X') ∧ word = '0' :: x :: digits
  · obtain ⟨x, digits, hx, rfl⟩ := h
    rw [number_hexadecimal hx, Text.numeral?_eq_some_iff (Nat.le_refl 16)]
    constructor
    · rintro ⟨h, hn⟩
      exact .hexadecimal hx h hn
    · intro h
      cases h with
      | decimal h => exact absurd h (not_signed_x hx)
      | hexadecimal _ h hn => exact ⟨h, hn⟩
  · rw [number_decimal fun x digits hx hword => h ⟨x, digits, hx, hword⟩,
      Text.numeral?_eq_some_iff (by decide)]
    constructor
    · rintro ⟨h, hn⟩
      exact .decimal h hn
    · intro h'
      cases h' with
      | decimal h' hn => exact ⟨h', hn⟩
      | hexadecimal hx _ _ => exact absurd ⟨_, _, hx, rfl⟩ h

theorem bind_eq_ok_iff {α β : Type} {x : Except ScriptFault α} {f : α → Except ScriptFault β} {b : β} :
    (x >>= f) = .ok b ↔ ∃ a, x = .ok a ∧ f a = .ok b := by
  cases x with
  | error e => exact iff_of_false (fun h => nomatch h) fun ⟨_, h, _⟩ => nomatch h
  | ok a => exact ⟨fun h => ⟨a, rfl, h⟩, fun ⟨_, h, hf⟩ => Except.ok.inj h ▸ hf⟩

/-- Words are a command, or none, exactly if they are in the language with signs. -/
theorem ofWords_eq_ok_iff : ofWords (words.map String.ofList) = .ok found ↔ WordsSay true words found := by
  constructor
  · intro h
    have hback : words = (words.map String.ofList).map String.toList := by
      rw [List.map_map, Function.comp_def]
      simp only [String.toList_ofList, List.map_id']
    unfold ofWords at h
    split at h
    · next hwords =>
        cases h
        rw [hback, hwords]
        exact .blank
    · next offset value hwords =>
        obtain ⟨n, hn, h⟩ := bind_eq_ok_iff.mp h
        obtain ⟨v, hv, h⟩ := bind_eq_ok_iff.mp h
        cases h
        rw [hback, hwords]
        exact .set (number_eq_ok_iff.mp hn) (number_eq_ok_iff.mp hv)
    · next offset hwords =>
        obtain ⟨n, hn, h⟩ := bind_eq_ok_iff.mp h
        cases h
        rw [hback, hwords]
        exact .get (number_eq_ok_iff.mp hn)
    · next path hwords =>
        cases h
        rw [hback, hwords]
        exact .load
    · split at h <;> cases h
  · intro h
    cases h with
    | blank => rfl
    | set hn hv =>
        rw [← number_eq_ok_iff] at hn hv
        rw [List.map_cons, String.ofList_toList]
        refine bind_eq_ok_iff.mpr ⟨_, by rw [String.toList_ofList, hn], ?_⟩
        exact bind_eq_ok_iff.mpr ⟨_, by rw [String.toList_ofList, hv], rfl⟩
    | get hn =>
        rw [← number_eq_ok_iff] at hn
        rw [List.map_cons, String.ofList_toList]
        exact bind_eq_ok_iff.mpr ⟨_, by rw [String.toList_ofList, hn], rfl⟩
    | load =>
        rw [List.map_cons, String.ofList_toList]
        rfl

theorem ofLine_eq_ok_iff : ofLine line = .ok found ↔ LineSays true line found := by
  unfold ofLine LineSays
  rw [ofWords_eq_ok_iff]
  constructor
  · intro h
    exact ⟨_, Text.words_eq_iff.mp rfl, h⟩
  · rintro ⟨words, hwords, h⟩
    rwa [Text.words_eq_iff.mpr hwords]

theorem LineSays.unique (h : LineSays true line found) (h' : LineSays true line found') : found = found' :=
  Except.ok.inj ((ofLine_eq_ok_iff.mpr h).symm.trans (ofLine_eq_ok_iff.mpr h'))

/-- The word behind `getreg` is a number. -/
theorem WordsSay.of_getreg {signs : Bool} (h : WordsSay signs ["getreg".toList, word] found) :
    ∃ n, Number signs word n := by
  generalize hcommand : "getreg".toList = command at h
  cases h with
  | get hn => exact ⟨_, hn⟩
  | load => exact absurd hcommand (by decide)

/-! ### With signs and without -/

theorem signed_of_bare {base : Nat} {digits : List Char} (h : Text.Signed false base digits n) :
    Text.Signed true base digits n := by
  cases h with
  | bare h => exact .bare h
  | plus hs _ => cases hs

theorem not_bare_plus {base : Nat} {digits : List Char} (hb : base ≤ 16) :
    ¬ Text.Signed false base ('+' :: digits) n := by
  intro h
  cases h with
  | bare h => exact Text.not_spells_plus hb h
  | plus hs _ => cases hs

theorem Number.of_bare (h : Number false word n) : Number true word n := by
  cases h with
  | decimal h hn => exact .decimal (signed_of_bare h) hn
  | hexadecimal hx h hn => exact .hexadecimal hx (signed_of_bare h) hn

theorem LineSays.of_bare (h : LineSays false line found) : LineSays true line found := by
  obtain ⟨words, hwords, h⟩ := h
  refine ⟨words, hwords, ?_⟩
  cases h with
  | blank => exact .blank
  | set hn hv => exact .set hn.of_bare hv.of_bare
  | get hn => exact .get hn.of_bare
  | load => exact .load

end ScriptCommand

/-! ### Scripts -/

namespace Script

open ScriptCommand

/-- What the answer to a script has to be by a language of lines: the commands on its lines if all of them are
in the language, and else an error that names the first line that is not. -/
structure Answers (Says : List Char → Option ScriptCommand → Prop) (lines : List (List Char))
    (answer : Except Error (List (Nat × ScriptCommand))) : Prop where
  accepted : (∃ commands, answer = .ok commands) ↔ ∀ line ∈ lines, HasPlace Says line
  listed : ∀ commands, answer = .ok commands → Listing Says 1 lines commands
  refused : ∀ e, answer = .error e → ∃ k line fault,
    FirstOutside (HasPlace Says) lines k line ∧ e = .invalid (.script (k + 1) fault)

variable {Says : List Char → Option ScriptCommand → Prop} {lines : List (List Char)}
  {commands : List (Nat × ScriptCommand)} {k : Nat} {line : List Char} {fault : ScriptFault}

theorem answers_ok (h : Listing Says 1 lines commands) : Answers Says lines (.ok commands) where
  accepted := iff_of_true ⟨commands, rfl⟩ h.hasPlace
  listed _ heq := Except.ok.inj heq ▸ h
  refused _ heq := nomatch heq

theorem answers_error (h : FirstOutside (HasPlace Says) lines k line) :
    Answers Says lines (.error (.invalid (.script (k + 1) fault))) where
  accepted := iff_of_false (fun ⟨_, heq⟩ => nomatch heq) h.not_forall
  listed _ heq := nomatch heq
  refused _ heq := ⟨k, line, fault, h, (Except.error.inj heq).symm⟩

/-- An answer by one language is one by a narrower language exactly if the first line outside of the narrower
one, where there is such a line, is outside of both. -/
theorem Answers.narrower_iff {Says' : List Char → Option ScriptCommand → Prop}
    {answer : Except Error (List (Nat × ScriptCommand))} (h : Answers Says lines answer)
    (hsub : ∀ line f, Says' line f → Says line f)
    (hunique : ∀ line f f', Says line f → Says line f' → f = f') :
    Answers Says' lines answer ↔
      ∀ k line, FirstOutside (HasPlace Says') lines k line → ¬ HasPlace Says line := by
  have hplaces : ∀ line, HasPlace Says' line → HasPlace Says line := fun line hline =>
    hline.imp (hsub line)
  constructor
  · intro h' k line hfirst hplace
    cases answer with
    | ok commands => exact hfirst.not_forall (h'.accepted.mp ⟨commands, rfl⟩)
    | error e =>
        obtain ⟨i, bad, fault, hbad, rfl⟩ := h.refused e rfl
        obtain ⟨i', bad', fault', hbad', heq⟩ := h'.refused _ rfl
        cases heq
        obtain ⟨rfl, rfl⟩ := hfirst.unique hbad'
        have hsame : bad = line := Option.some.inj (hbad.found.symm.trans hfirst.found)
        exact hbad.outside (hsame ▸ hplace)
  · intro hboth
    rcases forall_good_or_firstOutside (HasPlace Says') lines with hall | ⟨k, line, hfirst⟩
    · cases answer with
      | ok commands =>
          refine answers_ok ((h.listed commands rfl).imp fun line hline f hf => ?_)
          obtain ⟨f', hf'⟩ := hall line hline
          exact hunique line _ _ hf (hsub line f' hf') ▸ hf'
      | error e =>
          obtain ⟨i, bad, fault, hbad, rfl⟩ := h.refused e rfl
          exact absurd (fun line hline => hplaces line (hall line hline)) hbad.not_forall
    · have hwide : FirstOutside (HasPlace Says) lines k line := hfirst.imp hplaces (hboth k line hfirst)
      cases answer with
      | ok commands => exact absurd (h.accepted.mp ⟨commands, rfl⟩) hwide.not_forall
      | error e =>
          obtain ⟨i, bad, fault, hbad, rfl⟩ := h.refused e rfl
          obtain ⟨rfl, -⟩ := hwide.unique hbad
          exact answers_error hfirst

/-- A script is read line by line, by the language with signs. -/
theorem parse_answers {text : String} (hlines : Text.Lines text.toList lines) :
    Answers (LineSays true) lines (parse text) := by
  unfold parse
  rw [Text.lines_eq_iff.mpr hlines]
  rcases readLines_reads (fun _ _ => ScriptCommand.ofLine_eq_ok_iff) 1 lines with
    ⟨commands, hread, hlisting⟩ | ⟨k, line, fault, hread, hfirst⟩
  · rw [hread]
    exact answers_ok hlisting
  · rw [hread, Nat.add_comm]
    exact answers_error hfirst

/-- **Scripts are read as documented up to signs.**  A script is accepted exactly if each of its lines, up to a
comment, is blank or a command in the language whose numbers may have a plus sign; the answer has the commands
with the numbers of their lines, and the error the number of the first line that is outside.

That is what the language without signs asks for if and only if the first line outside of that one, where there
is such a line, is outside of the other one too. -/
theorem parse_documented_iff (text : String) : ∃ lines, Text.Lines text.toList lines ∧
    Answers (LineSays true) lines (parse text) ∧
    (Answers (LineSays false) lines (parse text) ↔ ∀ k line,
      FirstOutside (HasPlace (LineSays false)) lines k line → ¬ HasPlace (LineSays true) line) := by
  have hlines := Text.lines_lines text.toList
  have hanswers := parse_answers hlines
  have hiff := hanswers.narrower_iff (fun _ _ => LineSays.of_bare) fun _ _ _ => LineSays.unique
  exact ⟨_, hlines, hanswers, hiff⟩

/-- Blank lines and comments are counted. -/
example : parse "# ports\n\nsetreg 0x10 0Xff # on\ngetreg 16\nget 16" =
    .error (.invalid (.script 5 (.unknownCommand "get"))) := by decide

/-- A sign is no part of the documented language, and is taken all the same. -/
theorem signed_number_taken : parse "getreg +5" = .ok [(1, .get 5)] ∧
    ∀ lines, Text.Lines "getreg +5".toList lines → ¬ Answers (LineSays false) lines (parse "getreg +5") := by
  have htaken : parse "getreg +5" = .ok [(1, .get 5)] := by decide
  refine ⟨htaken, fun lines hlines h => ?_⟩
  obtain rfl : ["getreg +5".toList] = lines := Text.lines_eq_iff.mpr hlines
  obtain ⟨f, words, hwords, hmeans⟩ := h.accepted.mp ⟨_, htaken⟩ _ List.mem_cons_self
  obtain rfl : ["getreg".toList, "+5".toList] = words := Text.words_eq_iff.mpr hwords
  obtain ⟨n, hn⟩ := hmeans.of_getreg
  cases hn with
  | decimal h => exact not_bare_plus (by decide) h

end Script

end ControlPlane
