import ControlPlane.Text.Blank
import Mathlib.Data.List.Basic
import Mathlib.Data.List.TakeWhile

/-! # How texts are cut

Each way of cutting a text is described by what comes out, without saying how it is found, and each
description fits one result only, the one that is computed.

* **Ends.**  A trimmed text has lost blanks at its ends, and has none left there (`Text.trim_eq_iff`).
* **Pieces.**  The pieces of a text have no separator, and joined by separators they are the text
  (`Text.splitAt_eq_iff`).
* **Words.**  Words have no blanks, and between two of them there are only blanks (`Text.words_eq_iff`).
* **Lines.**  A line feed, alone or after a carriage return, ends a line (`Text.lines_eq_iff`). -/

namespace ControlPlane.Text

variable {cs body : List Char} {sep : Char}

/-- Blanks and nothing else. -/
def Blank (cs : List Char) : Prop := ∀ c ∈ cs, isBlank c = true

theorem blank_nil : Blank [] := fun _ hc => nomatch hc

theorem Blank.append {cs' : List Char} (h : Blank cs) (h' : Blank cs') : Blank (cs ++ cs') := fun c hc =>
  (List.mem_append.mp hc).elim (h c) (h' c)

/-- Blanks in front are dropped, up to the first character that is none. -/
theorem dropWhile_blank {gap rest : List Char} (hgap : Blank gap)
    (hrest : ∀ c, rest.head? = some c → isBlank c = false) : (gap ++ rest).dropWhile isBlank = rest := by
  rw [List.dropWhile_append_of_pos hgap]
  cases rest with
  | nil => rfl
  | cons c rest => rw [List.dropWhile_cons_of_neg (by rw [hrest c rfl]; exact Bool.false_ne_true)]

theorem head?_dropWhile {c : Char} (h : (cs.dropWhile isBlank).head? = some c) : isBlank c = false := by
  have hnot := List.head?_dropWhile_not isBlank cs
  rw [h] at hnot
  exact hnot

/-! ### Ends -/

/-- What is left of a text without the blanks at its ends. -/
structure Trimmed (cs body : List Char) : Prop where
  around : ∃ before after, Blank before ∧ Blank after ∧ cs = before ++ body ++ after
  first : ∀ c, body.head? = some c → isBlank c = false
  last : ∀ c, body.getLast? = some c → isBlank c = false

theorem trim_trimmed (cs : List Char) : Trimmed cs (trim cs) := by
  let rest := cs.dropWhile isBlank
  let after := (rest.reverse.takeWhile isBlank).reverse
  have hrest : rest = trim cs ++ after := by
    rw [trim, ← List.reverse_append, List.takeWhile_append_dropWhile, List.reverse_reverse]
  have hafter : Blank after := fun c hc => List.mem_takeWhile_imp (List.mem_reverse.mp hc)
  refine ⟨⟨cs.takeWhile isBlank, after, fun c => List.mem_takeWhile_imp, hafter, ?_⟩, fun c hc => ?_,
    fun c hc => ?_⟩
  · rw [List.append_assoc, ← hrest, List.takeWhile_append_dropWhile]
  · have hne : trim cs ≠ [] := by
      rintro h
      rw [h] at hc
      cases hc
    rw [← List.head?_append_of_ne_nil _ hne, ← hrest] at hc
    exact head?_dropWhile hc
  · rw [trim, List.getLast?_reverse] at hc
    exact head?_dropWhile hc

theorem trim_eq_iff : trim cs = body ↔ Trimmed cs body := by
  refine ⟨fun h => h ▸ trim_trimmed cs, ?_⟩
  rintro ⟨⟨before, after, hbefore, hafter, rfl⟩, hfirst, hlast⟩
  by_cases hbody : body = []
  · subst hbody
    have hblank : Blank (before ++ [] ++ after) := by
      rw [List.append_nil]
      exact hbefore.append hafter
    have hnone : (before ++ [] ++ after).dropWhile isBlank = [] := List.dropWhile_eq_nil_iff.mpr hblank
    rw [trim, hnone]
    rfl
  · have hrest : ∀ c, (body ++ after).head? = some c → isBlank c = false := fun c hc =>
      hfirst c (List.head?_append_of_ne_nil _ hbody ▸ hc)
    have hrev : Blank after.reverse := fun c hc => hafter c (List.mem_reverse.mp hc)
    rw [trim, List.append_assoc, dropWhile_blank hbefore hrest, List.reverse_append,
      dropWhile_blank hrev (fun c hc => hlast c (List.head?_reverse ▸ hc)), List.reverse_reverse]

/-- A text without blanks is trimmed. -/
theorem trimmed_of_no_blank (h : ∀ c ∈ cs, isBlank c = false) : Trimmed cs cs where
  around := ⟨[], [], blank_nil, blank_nil, by rw [List.nil_append, List.append_nil]⟩
  first c hc := h c (List.mem_of_head? hc)
  last c hc := h c (List.mem_of_getLast? hc)

/-! ### Pieces -/

/-- The pieces of a text between its separators. -/
structure Pieces (sep : Char) (cs : List Char) (parts : List (List Char)) : Prop where
  ne_nil : parts ≠ []
  apart : ∀ part ∈ parts, sep ∉ part
  joined : [sep].intercalate parts = cs

theorem splitAt_eq_splitOn (sep : Char) (cs : List Char) : splitAt sep cs = cs.splitOn sep := by
  induction cs with
  | nil => rfl
  | cons c cs ih =>
      rw [List.splitOn_cons_eq_if_modifyHead, ← ih, splitAt]
      by_cases h : c = sep
      · rw [if_pos h, if_pos (beq_iff_eq.mpr h)]
      · rw [if_neg h, if_neg (mt beq_iff_eq.mp h)]
        cases hp : splitAt sep cs with
        | nil => exact absurd hp (splitAt_ne_nil sep cs)
        | cons piece pieces => rfl

theorem not_mem_of_mem_splitAt {part : List Char} (h : part ∈ splitAt sep cs) : sep ∉ part := by
  induction cs generalizing part with
  | nil =>
      rw [List.mem_singleton.mp h]
      exact List.not_mem_nil
  | cons c cs ih =>
      rw [splitAt] at h
      split at h
      · rcases List.mem_cons.mp h with rfl | h
        · exact List.not_mem_nil
        · exact ih h
      · next hc =>
          split at h
          · next hp => exact absurd hp (splitAt_ne_nil sep cs)
          · next piece pieces hp =>
              rw [hp] at ih
              rcases List.mem_cons.mp h with rfl | h
              · exact fun hm => (List.mem_cons.mp hm).elim (fun he => hc he.symm)
                  (ih List.mem_cons_self)
              · exact ih (List.mem_cons_of_mem _ h)

theorem splitAt_eq_iff {parts : List (List Char)} : splitAt sep cs = parts ↔ Pieces sep cs parts := by
  constructor
  · rintro rfl
    exact ⟨splitAt_ne_nil sep cs, fun part => not_mem_of_mem_splitAt,
      splitAt_eq_splitOn sep cs ▸ List.intercalate_splitOn sep⟩
  · rintro ⟨hne, hapart, rfl⟩
    rw [splitAt_eq_splitOn, List.splitOn_intercalate sep hapart hne]

theorem splitAt_of_not_mem (h : sep ∉ cs) : splitAt sep cs = [cs] :=
  splitAt_eq_iff.mpr ⟨List.cons_ne_nil _ _, fun _ hp => List.mem_singleton.mp hp ▸ h,
    List.append_nil cs⟩

theorem splitAt_append_cons {rest : List Char} (h : sep ∉ cs) :
    splitAt sep (cs ++ sep :: rest) = cs :: splitAt sep rest := by
  obtain ⟨hne, hapart, hjoined⟩ := splitAt_eq_iff.mp (rfl : splitAt sep rest = _)
  refine splitAt_eq_iff.mpr ⟨List.cons_ne_nil _ _, List.forall_mem_cons.mpr ⟨h, hapart⟩, ?_⟩
  obtain ⟨part, parts, hparts⟩ := List.exists_cons_of_ne_nil hne
  rw [hparts] at hjoined ⊢
  rw [List.intercalate_cons_cons, hjoined, List.append_assoc]
  rfl

/-- A text has no characters but those of its pieces and separators. -/
theorem Pieces.mem {parts : List (List Char)} {c : Char} (h : Pieces sep cs parts) (hc : c ∈ cs) :
    c = sep ∨ ∃ part ∈ parts, c ∈ part := by
  obtain ⟨-, -, rfl⟩ := h
  induction parts with
  | nil => cases hc
  | cons part parts ih =>
      cases parts with
      | nil => exact .inr ⟨part, List.mem_cons_self, List.append_nil part ▸ hc⟩
      | cons next rest =>
          rw [List.intercalate_cons_cons, List.append_assoc, List.mem_append, List.mem_append,
            List.mem_singleton] at hc
          rcases hc with hc | rfl | hc
          · exact .inr ⟨part, List.mem_cons_self, hc⟩
          · exact .inl rfl
          · exact (ih hc).imp_right fun ⟨p, hp, hcp⟩ => ⟨p, List.mem_cons_of_mem _ hp, hcp⟩

/-! ### Words -/

/-- The words of a text: runs without blanks, with blanks around each of them. -/
inductive Words : List Char → List (List Char) → Prop where
  | nil {gap : List Char} (h : Blank gap) : Words gap []
  | cons {gap word rest : List Char} {words : List (List Char)} (hgap : Blank gap) (hne : word ≠ [])
      (hword : ∀ c ∈ word, isBlank c = false) (hrest : ∀ c, rest.head? = some c → isBlank c = true)
      (h : Words rest words) : Words (gap ++ word ++ rest) (word :: words)

theorem wordsFrom_append {word run rest : List Char} (h : ∀ c ∈ run, isBlank c = false) :
    wordsFrom word (run ++ rest) = wordsFrom (run.reverse ++ word) rest := by
  induction run generalizing word with
  | nil => rfl
  | cons c run ih =>
      obtain ⟨hc, hrun⟩ := List.forall_mem_cons.mp h
      rw [List.cons_append, wordsFrom, if_neg (by rw [hc]; exact Bool.false_ne_true), ih hrun,
        List.reverse_cons, List.append_assoc]
      rfl

/-- A word ends where a blank or nothing follows. -/
theorem wordsFrom_of_head {word rest : List Char} (h : ∀ c, rest.head? = some c → isBlank c = true) :
    wordsFrom word rest = addWord word (words rest) := by
  cases rest with
  | nil => rfl
  | cons c rest =>
      have hc : isBlank c = true := h c rfl
      have hnone (rest : List (List Char)) : addWord [] rest = rest := rfl
      rw [words, wordsFrom, wordsFrom, if_pos hc, if_pos hc, hnone]

theorem words_blank_append {gap rest : List Char} (h : Blank gap) : words (gap ++ rest) = words rest := by
  induction gap with
  | nil => rfl
  | cons c gap ih =>
      obtain ⟨hc, hgap⟩ := List.forall_mem_cons.mp h
      rw [← ih hgap, List.cons_append, words, wordsFrom, if_pos hc]
      rfl

theorem words_append {word rest : List Char} (hne : word ≠ []) (hword : ∀ c ∈ word, isBlank c = false)
    (hrest : ∀ c, rest.head? = some c → isBlank c = true) : words (word ++ rest) = word :: words rest := by
  have hempty : word.reverse.isEmpty = false := by
    rw [List.isEmpty_reverse, List.isEmpty_eq_false_iff]
    exact hne
  rw [words, wordsFrom_append hword, List.append_nil, wordsFrom_of_head hrest, addWord, hempty,
    List.reverse_reverse]
  rfl

theorem words_of_blank (h : Blank cs) : words cs = [] := by
  have hdrop : words (cs ++ []) = words [] := words_blank_append h
  rwa [List.append_nil] at hdrop

theorem Words.blank_append {gap : List Char} {words : List (List Char)} (h : Blank gap)
    (hw : Words cs words) : Words (gap ++ cs) words := by
  cases hw with
  | nil hcs => exact .nil (h.append hcs)
  | cons hgap hne hword hrest hw =>
      rw [List.append_assoc, ← List.append_assoc]
      exact List.append_assoc .. ▸ .cons (h.append hgap) hne hword hrest hw

/-- A word that has begun ends before a blank. -/
theorem Words.addWord {word rest : List Char} {words : List (List Char)}
    (hword : ∀ c ∈ word, isBlank c = false) (hrest : ∀ c, rest.head? = some c → isBlank c = true)
    (h : Words rest words) : Words (word.reverse ++ rest) (addWord word words) := by
  cases word with
  | nil => exact h
  | cons c word =>
      have hrev : ∀ c' ∈ (c :: word).reverse, isBlank c' = false := fun c' hc =>
        hword c' (List.mem_reverse.mp hc)
      exact @Words.cons [] _ _ _ blank_nil (List.reverse_ne_nil_iff.mpr (List.cons_ne_nil c word)) hrev
        hrest h

theorem words_words_from {word : List Char} (hword : ∀ c ∈ word, isBlank c = false) :
    Words (word.reverse ++ cs) (wordsFrom word cs) := by
  induction cs generalizing word with
  | nil => exact .addWord hword (fun _ hc => nomatch hc) (.nil blank_nil)
  | cons c cs ih =>
      by_cases hc : isBlank c = true
      · have hnext : Words cs (wordsFrom [] cs) := @ih [] fun _ hc => nomatch hc
        have hrest : Words ([c] ++ cs) (wordsFrom [] cs) :=
          .blank_append (fun c' hc' => List.mem_singleton.mp hc' ▸ hc) hnext
        rw [wordsFrom, if_pos hc]
        exact .addWord hword (fun c' hc' => Option.some.inj hc' ▸ hc) hrest
      · have hword' : ∀ c' ∈ c :: word, isBlank c' = false :=
          List.forall_mem_cons.mpr ⟨Bool.eq_false_iff.mpr hc, hword⟩
        have hrest := ih hword'
        rw [List.reverse_cons, List.append_assoc] at hrest
        rw [wordsFrom, if_neg hc]
        exact hrest

theorem words_eq_iff {words' : List (List Char)} : words cs = words' ↔ Words cs words' := by
  constructor
  · rintro rfl
    exact @words_words_from cs [] fun _ hc => nomatch hc
  · intro h
    induction h with
    | nil h => exact words_of_blank h
    | cons hgap hne hword hrest _ ih =>
        rw [List.append_assoc, words_blank_append hgap, words_append hne hword hrest, ih]

/-! ### Lines -/

/-- The lines of a text.  A line feed ends a line, alone or after a carriage return; behind the last one a line
may stand without. -/
inductive Lines : List Char → List (List Char) → Prop where
  | nil : Lines [] []
  | last {line : List Char} (hne : line ≠ []) (hline : '\n' ∉ line) : Lines line [line]
  | feed {line rest : List Char} {lines : List (List Char)} (hline : '\n' ∉ line)
      (hreturn : line.getLast? ≠ some '\r') (h : Lines rest lines) :
      Lines (line ++ '\n' :: rest) (line :: lines)
  | returnFeed {line rest : List Char} {lines : List (List Char)} (hline : '\n' ∉ line)
      (h : Lines rest lines) : Lines (line ++ '\r' :: '\n' :: rest) (line :: lines)

theorem lines_of_not_mem (h : '\n' ∉ cs) (hne : cs ≠ []) : lines cs = [cs] := by
  obtain ⟨c, rest, rfl⟩ := List.exists_cons_of_ne_nil hne
  unfold lines
  rw [splitAt_of_not_mem h]
  rfl

theorem lines_append_cons {rest : List Char} (h : '\n' ∉ cs) :
    lines (cs ++ '\n' :: rest) =
      (if cs.getLast? = some '\r' then cs.dropLast else cs) :: lines rest := by
  obtain ⟨piece, pieces, hp⟩ := List.exists_cons_of_ne_nil (splitAt_ne_nil '\n' rest)
  unfold lines
  rw [splitAt_append_cons h, hp]
  simp only [List.dropLast_cons_cons, List.map_cons, List.getLast?_cons_cons, List.cons_append]
  split <;> rfl

theorem lines_lines (cs : List Char) : Lines cs (lines cs) := by
  by_cases hcs : '\n' ∈ cs
  · obtain ⟨line, rest, rfl, hline⟩ := List.eq_append_cons_of_mem hcs
    have hshorter : rest.length < (line ++ '\n' :: rest).length := by
      rw [List.length_append, List.length_cons]
      omega
    rw [lines_append_cons hline]
    split
    · next hreturn =>
        obtain ⟨line, rfl⟩ := List.getLast?_eq_some_iff.mp hreturn
        have hline' : '\n' ∉ line := fun h => hline (List.mem_append_left _ h)
        rw [List.dropLast_concat, List.append_assoc]
        exact .returnFeed hline' (lines_lines rest)
    · next hreturn => exact .feed hline hreturn (lines_lines rest)
  · by_cases hne : cs = []
    · subst hne
      exact .nil
    · rw [lines_of_not_mem hcs hne]
      exact .last hne hcs
termination_by cs.length

theorem lines_eq_iff {lines' : List (List Char)} : lines cs = lines' ↔ Lines cs lines' := by
  refine ⟨fun h => h ▸ lines_lines cs, fun h => ?_⟩
  induction h with
  | nil => rfl
  | last hne hline => exact lines_of_not_mem hline hne
  | feed hline hreturn _ ih => rw [lines_append_cons hline, if_neg hreturn, ih]
  | @returnFeed line rest lines' hline _ ih =>
      have hline' : '\n' ∉ line ++ ['\r'] := fun h => (List.mem_append.mp h).elim hline (by decide)
      have heq : line ++ '\r' :: '\n' :: rest = (line ++ ['\r']) ++ '\n' :: rest := by
        rw [List.append_assoc]
        rfl
      rw [heq, lines_append_cons hline', if_pos List.getLast?_concat, List.dropLast_concat, ih]

end ControlPlane.Text
