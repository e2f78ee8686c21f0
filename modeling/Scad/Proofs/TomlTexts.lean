import Mathlib.Tactic.Common
import Scad.Toml.Printer

/-!
# TOML texts read back

A text is written in one of four forms, and the quotes at its front tell the reader which
one. In the two forms with escapes every character is read back from what stands for it,
so these forms can show any text. The two forms without escapes are chosen only for texts
that they can show (`formOf_shows`). Of quotes in a row no more than two stand before the
closing three, where they belong to the text. So whatever the form, the reader gives the
text back and leaves what follows (`readText_write`).
-/

namespace Scad.Toml

/-! ## Escapes -/

/-- Behind a backslash, the reader takes this for the character, whatever follows, and not
for a hidden line break. -/
def IsEscape (e : List Char) (c : Char) : Prop :=
  ∀ rest, readEscape (e ++ rest) = some (c, rest) ∧ hiddenBreak (e ++ rest) = none

theorem toNat_lt_of_not_isTextChar {c : Char} (h : isTextChar c = false) : c.toNat < 128 := by
  simp only [isTextChar, Bool.or_eq_false_iff, Bool.and_eq_false_iff, decide_eq_false_iff_not,
    bne_eq_false_iff_eq] at h
  rcases h.2 with small | rfl
  · have : c.toNat < ' '.toNat := Char.not_le.1 small
    exact Nat.lt_trans this (by decide)
  · decide

theorem codeDigits_of_lt : ∀ n < 128, (codeDigits n).length = 4 ∧
    hexNumber? 0 (codeDigits n) = some n ∧ '\r' ∉ codeDigits n := by
  decide +kernel

theorem isEscape_code {c : Char} (h : isTextChar c = false) :
    IsEscape ('u' :: codeDigits c.toNat) c := by
  intro rest
  obtain ⟨length, number, -⟩ := codeDigits_of_lt c.toNat (toNat_lt_of_not_isTextChar h)
  have valid : c.toNat.isValidChar := c.valid
  have code : charOfCode? c.toNat = some c := by
    rw [charOfCode?, if_pos valid, Char.ofNat_toNat]
  refine ⟨?_, rfl⟩
  show readCode 4 (codeDigits c.toNat ++ rest) = some (c, rest)
  have long : ¬ (codeDigits c.toNat ++ rest).length < 4 := by
    rw [List.length_append, length]
    omega
  rw [readCode, if_neg long, List.take_left' length, List.drop_left' length, number]
  simp [code]

/-- A character stands for itself, or a backslash with an escape of it does. -/
theorem escapedChar_cases (c : Char) :
    (escapedChar c = [c] ∧ isTextChar c = true ∧ c ≠ '"' ∧ c ≠ '\\') ∨
      ∃ e, escapedChar c = '\\' :: e ∧ IsEscape e c := by
  unfold escapedChar
  split
  · exact .inr ⟨_, rfl, fun rest => ⟨rfl, rfl⟩⟩
  · exact .inr ⟨_, rfl, fun rest => ⟨rfl, rfl⟩⟩
  · exact .inr ⟨_, rfl, fun rest => ⟨rfl, rfl⟩⟩
  · exact .inr ⟨_, rfl, fun rest => ⟨rfl, rfl⟩⟩
  · exact .inr ⟨_, rfl, fun rest => ⟨rfl, rfl⟩⟩
  · exact .inr ⟨_, rfl, fun rest => ⟨rfl, rfl⟩⟩
  · exact .inr ⟨_, rfl, fun rest => ⟨rfl, rfl⟩⟩
  · next quote backslash =>
      by_cases text : isTextChar c = true
      · rw [if_pos text]
        exact .inl ⟨rfl, text, quote, backslash⟩
      · rw [if_neg text]
        exact .inr ⟨_, rfl, isEscape_code (by simpa using text)⟩

/-! ## One line -/

theorem readBasic_escapedChar (c : Char) (rest : List Char) :
    readBasic (escapedChar c ++ rest) = (readBasic rest).map (before c) := by
  rcases escapedChar_cases c with ⟨shown, text, quote, backslash⟩ | ⟨e, shown, escape⟩
  · rw [shown, List.singleton_append, readBasic, if_neg quote, if_neg backslash, if_pos text]
  · obtain ⟨read, -⟩ := escape rest
    rw [shown, List.cons_append, readBasic, if_neg (by decide), if_pos rfl]
    split
    · next fails =>
        rw [read] at fails
        contradiction
    · next read' =>
        rw [read] at read'
        cases read'
        rfl

theorem readBasic_escaped (s rest : List Char) :
    readBasic (s.flatMap escapedChar ++ '"' :: rest) = some (s, rest) := by
  induction s with
  | nil => rw [List.flatMap_nil, List.nil_append, readBasic, if_pos rfl]
  | cons c s ih =>
      rw [List.flatMap_cons, List.append_assoc, readBasic_escapedChar, ih]
      rfl

theorem readLiteral_append {s : List Char} (h : ∀ c ∈ s, isTextChar c = true ∧ c ≠ '\'')
    (rest : List Char) : readLiteral (s ++ '\'' :: rest) = some (s, rest) := by
  induction s with
  | nil => rfl
  | cons c s ih =>
      obtain ⟨⟨text, quote⟩, others⟩ := List.forall_mem_cons.1 h
      rw [List.cons_append, readLiteral, if_neg quote, if_pos text, ih others]
      rfl

/-! ## Runs of quotes -/

/-- The number of quotes at the front. -/
def leading (quote : Char) (s : List Char) : Nat := (s.takeWhile (· = quote)).length

theorem leading_cons_self (quote : Char) (s : List Char) :
    leading quote (quote :: s) = leading quote s + 1 := by
  simp [leading]

theorem leading_cons_of_ne {quote c : Char} (h : c ≠ quote) (s : List Char) :
    leading quote (c :: s) = 0 := by
  simp [leading, h]

theorem leading_append (quote : Char) (s t : List Char) :
    leading quote (s ++ t) =
      if s.all (· == quote) then s.length + leading quote t else leading quote s := by
  induction s with
  | nil => simp
  | cons c s ih =>
      by_cases h : c = quote
      · subst h
        rw [List.cons_append, leading_cons_self, leading_cons_self, ih]
        simp only [List.all_cons, beq_self_eq_true, Bool.true_and, List.length_cons]
        split <;> omega
      · rw [List.cons_append, leading_cons_of_ne h, leading_cons_of_ne h]
        simp [h]

theorem leading_of_head? {quote : Char} {s : List Char} (h : s.head? ≠ some quote) :
    leading quote s = 0 := by
  cases s with
  | nil => rfl
  | cons c s =>
      apply leading_cons_of_ne
      rintro rfl
      exact h rfl

/-- Where a text with at most two quotes at its front stands before three quotes, they
close it at once if it holds nothing but quotes, and else they do not. -/
theorem closing_append {quote : Char} {s rest : List Char} (few : leading quote s ≤ 2)
    (ends : rest.head? ≠ some quote) :
    closing quote (s ++ quote :: quote :: quote :: rest) =
      if s.all (· == quote) then some (s, rest) else none := by
  have run : leading quote (s ++ quote :: quote :: quote :: rest) =
      if s.all (· == quote) then s.length + 3 else leading quote s := by
    rw [leading_append, leading_cons_self, leading_cons_self, leading_cons_self,
      leading_of_head? ends]
  change (if leading quote _ < 3 then none else
    some (List.replicate (min (leading quote _ - 3) 2) quote,
      List.drop (min (leading quote _ - 3) 2 + 3) _)) = _
  rw [run]
  split
  · next only =>
      have quotes : s = List.replicate s.length quote :=
        List.eq_replicate_iff.2 ⟨rfl, by simpa using only⟩
      have length : leading quote s = s.length := by
        have all := leading_append quote s []
        rw [List.append_nil, if_pos only] at all
        exact all
      have own : min (s.length + 3 - 3) 2 = s.length := by omega
      rw [if_neg (by omega), own, List.drop_length_add_append, ← quotes]
      rfl
  · rw [if_pos (by omega)]

theorem closing_three {quote : Char} {rest : List Char} (ends : rest.head? ≠ some quote) :
    closing quote (quote :: quote :: quote :: rest) = some ([], rest) := by
  have few : leading quote [] ≤ 2 := Nat.zero_le 2
  simpa using closing_append few ends

theorem add_leading_le_longestRun (quote : Char) (run : Nat) (s : List Char) :
    run + leading quote s ≤ longestRun quote run s := by
  induction s generalizing run with
  | nil => exact Nat.le_refl _
  | cons c s ih =>
      by_cases h : c = quote
      · subst h
        have longer := ih (run + 1)
        rw [leading_cons_self, longestRun, if_pos rfl]
        omega
      · rw [leading_cons_of_ne h, longestRun, if_neg h]
        exact Nat.le_max_left _ _

theorem longestRun_mono (quote : Char) {run run' : Nat} (h : run ≤ run') (s : List Char) :
    longestRun quote run s ≤ longestRun quote run' s := by
  induction s generalizing run run' with
  | nil => exact h
  | cons c s ih =>
      rw [longestRun, longestRun]
      split
      · exact ih (Nat.succ_le_succ h)
      · omega

theorem longestRun_le_cons (quote c : Char) (s : List Char) :
    longestRun quote 0 s ≤ longestRun quote 0 (c :: s) := by
  rw [longestRun]
  split
  · exact longestRun_mono quote (Nat.zero_le _) s
  · exact Nat.le_max_right _ _

theorem not_mem_of_longestRun_eq_zero {quote : Char} {s : List Char}
    (h : longestRun quote 0 s = 0) : quote ∉ s := by
  induction s with
  | nil => exact List.not_mem_nil
  | cons c s ih =>
      have none := add_leading_le_longestRun quote 0 (c :: s)
      have rest := longestRun_le_cons quote c s
      rw [List.mem_cons, not_or]
      refine ⟨?_, ih (by omega)⟩
      rintro rfl
      rw [leading_cons_self] at none
      omega

/-! ## Several lines -/

theorem readLiteralLines_quote (s : List Char) :
    readLiteralLines ('\'' :: s) =
      (closing '\'' ('\'' :: s)).or ((readLiteralLines s).map (before '\'')) := by
  rw [readLiteralLines, if_pos rfl]
  cases closing '\'' ('\'' :: s) <;> rfl

theorem readLiteralLines_append {s rest : List Char}
    (chars : ∀ c ∈ s, isTextChar c = true ∨ c = '\n') (few : longestRun '\'' 0 s ≤ 2)
    (ends : rest.head? ≠ some '\'') :
    readLiteralLines (s ++ '\'' :: '\'' :: '\'' :: rest) = some (s, rest) := by
  induction s with
  | nil =>
      rw [List.nil_append, readLiteralLines_quote, closing_three ends]
      rfl
  | cons c s ih =>
      obtain ⟨here, others⟩ := List.forall_mem_cons.1 chars
      have later := ih others (Nat.le_trans (longestRun_le_cons _ c s) few)
      by_cases quote : c = '\''
      · subst quote
        have front := add_leading_le_longestRun '\'' 0 ('\'' :: s)
        have close := closing_append (by omega : leading '\'' ('\'' :: s) ≤ 2) ends
        rw [List.cons_append] at close ⊢
        rw [readLiteralLines_quote, close]
        split
        · rfl
        · rw [later]
          rfl
      · rw [List.cons_append, readLiteralLines, if_neg quote, if_pos (by simpa using here), later]
        rfl

theorem readBasicLines_quote (s : List Char) :
    readBasicLines ('"' :: s) =
      (closing '"' ('"' :: s)).or ((readBasicLines s).map (before '"')) := by
  rw [readBasicLines, if_pos rfl]
  cases closing '"' ('"' :: s) <;> rfl

theorem readBasicLines_break (s : List Char) :
    readBasicLines ('\n' :: s) = (readBasicLines s).map (before '\n') := by
  rw [readBasicLines, if_neg (by decide), if_neg (by decide), if_pos (by decide)]

theorem readBasicLines_escapedChar (c : Char) (rest : List Char) :
    readBasicLines (escapedChar c ++ rest) = (readBasicLines rest).map (before c) := by
  rcases escapedChar_cases c with ⟨shown, text, quote, backslash⟩ | ⟨e, shown, escape⟩
  · rw [shown, List.singleton_append, readBasicLines, if_neg quote, if_neg backslash,
      if_pos (by simp [text])]
  · obtain ⟨read, visible⟩ := escape rest
    rw [shown, List.cons_append, readBasicLines, if_neg (by decide), if_pos rfl]
    split
    · next hidden =>
        rw [visible] at hidden
        contradiction
    · split
      · next fails =>
          rw [read] at fails
          contradiction
      · next read' =>
          rw [read] at read'
          cases read'
          rfl

theorem head?_escapedChar_append (c : Char) (rest : List Char) {d : Char}
    (h : d = '"' ∨ d = '\n') : (escapedChar c ++ rest).head? ≠ some d := by
  rcases escapedChar_cases c with ⟨shown, text, quote, -⟩ | ⟨e, shown, -⟩
  · rw [shown, List.singleton_append, List.head?_cons, ne_eq, Option.some.injEq]
    rintro rfl
    rcases h with rfl | rfl
    · exact quote rfl
    · exact absurd text (by decide)
  · rw [shown, List.cons_append, List.head?_cons, ne_eq, Option.some.injEq]
    rintro rfl
    revert h
    decide

/-- No more than two quotes in a row are written as they are. -/
theorem add_leading_escapedLines {run : Nat} (h : run ≤ 2) (s : List Char) :
    run + leading '"' (escapedLines run s) ≤ 2 := by
  induction s generalizing run with
  | nil => exact h
  | cons c s ih =>
      rw [escapedLines]
      split
      · rw [leading_cons_of_ne (by decide)]
        exact h
      · split
        · next quote =>
            rw [Bool.and_eq_true, decide_eq_true_eq, decide_eq_true_eq] at quote
            have later := ih (by omega : run + 1 ≤ 2)
            rw [leading_cons_self]
            omega
        · rw [leading_of_head? (head?_escapedChar_append c _ (.inl rfl))]
          exact h

/-- Where nothing but quotes is written, the text is what is written. -/
theorem escapedLines_of_quotes {run : Nat} {s : List Char}
    (h : ∀ c ∈ escapedLines run s, c = '"') : escapedLines run s = s := by
  induction s generalizing run with
  | nil => rfl
  | cons c s ih =>
      rw [escapedLines] at h ⊢
      split at h
      · exact absurd (h _ List.mem_cons_self) (by decide)
      · next notBreak =>
          rw [if_neg notBreak]
          split at h
          · next quote =>
              rw [if_pos quote, ih (List.forall_mem_cons.1 h).2]
              rw [Bool.and_eq_true, decide_eq_true_eq] at quote
              rw [quote.1]
          · rcases escapedChar_cases c with ⟨shown, -, quote, -⟩ | ⟨e, shown, -⟩
            · rw [shown] at h
              exact absurd (h _ List.mem_cons_self) quote
            · rw [shown] at h
              exact absurd (h _ List.mem_cons_self) (by decide)

theorem readBasicLines_escapedLines {run : Nat} (h : run ≤ 2) (s : List Char) {rest : List Char}
    (ends : rest.head? ≠ some '"') :
    readBasicLines (escapedLines run s ++ '"' :: '"' :: '"' :: rest) = some (s, rest) := by
  induction s generalizing run with
  | nil =>
      rw [escapedLines, List.nil_append, readBasicLines_quote, closing_three ends]
      rfl
  | cons c s ih =>
      have few := add_leading_escapedLines h (c :: s)
      have close := closing_append (by omega : leading '"' (escapedLines run (c :: s)) ≤ 2) ends
      rw [escapedLines] at close ⊢
      split at close
      · next lineBreak =>
          subst lineBreak
          rw [if_pos rfl, List.cons_append, readBasicLines_break, ih (Nat.zero_le 2)]
          rfl
      · next notBreak =>
          rw [if_neg notBreak]
          split at close
          · next quote =>
              rw [if_pos quote]
              rw [Bool.and_eq_true, decide_eq_true_eq, decide_eq_true_eq] at quote
              obtain ⟨rfl, room⟩ := quote
              rw [List.cons_append] at close ⊢
              rw [readBasicLines_quote, close]
              split
              · next only =>
                  rw [escapedLines_of_quotes (by simpa using only)]
                  rfl
              · rw [ih (by omega)]
                rfl
          · next noQuote =>
              rw [if_neg noQuote, List.append_assoc, readBasicLines_escapedChar, ih (Nat.zero_le 2)]
              rfl

/-! ## Forms -/

/-- The texts that a form can show. -/
def Form.Shows : Form → List Char → Prop
  | .basic, _ => True
  | .literal, s => s ≠ [] ∧ ∀ c ∈ s, isTextChar c = true ∧ c ≠ '\''
  | .basicLines, _ => True
  | .literalLines, s =>
      (∀ c ∈ s, isTextChar c = true ∨ c = '\n') ∧ longestRun '\'' 0 s ≤ 2

/-- A text is written in a form that can show it. -/
theorem formOf_shows (s : List Char) : (formOf s).Shows s := by
  have chars : (s.any needsEscape = false) → ∀ c ∈ s, isTextChar c = true ∨ c = '\n' := by
    intro controls c hc
    have kept := List.any_eq_false.1 controls c hc
    simp only [needsEscape, Bool.and_eq_true, bne_iff_ne, Bool.not_eq_true', not_and,
      Bool.not_eq_false] at kept
    by_cases lineBreak : c = '\n'
    · exact .inr lineBreak
    · exact .inl (kept lineBreak)
  unfold formOf
  dsimp only
  split
  · trivial
  · split
    · next notBasic literal =>
        simp only [Bool.and_eq_true, Bool.not_eq_true', beq_iff_eq] at literal
        obtain ⟨⟨controls, singles⟩, breaks⟩ := literal
        refine ⟨?_, fun c hc => ⟨?_, ?_⟩⟩
        · rintro rfl
          exact notBasic rfl
        · refine (chars controls c hc).resolve_right ?_
          rintro rfl
          simp [hc] at breaks
        · rintro rfl
          exact not_mem_of_longestRun_eq_zero singles hc
    · split
      · trivial
      · split
        · next literalLines =>
            simp only [Bool.and_eq_true, Bool.not_eq_true', decide_eq_true_eq] at literalLines
            exact ⟨chars literalLines.1, literalLines.2⟩
        · split <;> trivial

theorem dropBreak_of_head? {s : List Char} (h : s.head? ≠ some '\n') : dropBreak s = s := by
  unfold dropBreak
  split
  · exact absurd rfl h
  · rfl

/-- The line feed in front of a text with lines is dropped, and no other one. -/
theorem dropBreak_leadingBreak {s t : List Char} (h : '\n' ∉ s → t.head? ≠ some '\n') :
    dropBreak (leadingBreak s ++ t) = t := by
  rw [leadingBreak]
  split
  · rfl
  · next lines =>
      exact dropBreak_of_head? (h (by simpa using lines))

theorem head?_escapedLines_append {s : List Char} (h : '\n' ∉ s) (rest : List Char) :
    (escapedLines 0 s ++ '"' :: rest).head? ≠ some '\n' := by
  cases s with
  | nil => simp [escapedLines]
  | cons c s =>
      rw [escapedLines, if_neg (by rintro rfl; exact h List.mem_cons_self)]
      split
      · simp
      · rw [List.append_assoc]
        exact head?_escapedChar_append c _ (.inr rfl)

/-- One quote begins a text of one line, if it is not the first of three. -/
theorem readText_basic {s : List Char} (h : ∀ rest, s ≠ '"' :: '"' :: rest) :
    readText ('"' :: s) = readBasic s := by
  rw [readText]
  exact h

theorem readText_literal {s : List Char} (h : ∀ rest, s ≠ '\'' :: '\'' :: rest) :
    readText ('\'' :: s) = readLiteral s := by
  rw [readText]
  exact h

theorem ne_three_quotes {s rest : List Char} (ends : rest.head? ≠ some '"') (rest' : List Char) :
    s.flatMap escapedChar ++ '"' :: rest ≠ '"' :: '"' :: rest' := by
  intro same
  cases s with
  | nil =>
      obtain ⟨-, rfl⟩ := List.cons.inj same
      exact ends rfl
  | cons c s =>
      rw [List.flatMap_cons, List.append_assoc] at same
      have first := head?_escapedChar_append c (s.flatMap escapedChar ++ '"' :: rest) (.inl rfl)
      rw [same] at first
      exact first rfl

/-- What was written in a form that can show the text is read back as the text. -/
theorem readText_write {form : Form} {s : List Char} (h : form.Shows s) {rest : List Char}
    (double : rest.head? ≠ some '"') (single : rest.head? ≠ some '\'') :
    readText (form.write s ++ rest) = some (s, rest) := by
  cases form with
  | basic =>
      have shape : Form.basic.write s ++ rest = '"' :: (s.flatMap escapedChar ++ '"' :: rest) := by
        simp [Form.write]
      rw [shape, readText_basic (ne_three_quotes double), readBasic_escaped]
  | literal =>
      obtain ⟨some, chars⟩ := h
      have shape : Form.literal.write s ++ rest = '\'' :: (s ++ '\'' :: rest) := by
        simp [Form.write]
      have apart : ∀ rest', s ++ '\'' :: rest ≠ '\'' :: '\'' :: rest' := by
        intro rest' same
        obtain ⟨c, s, rfl⟩ := List.exists_cons_of_ne_nil some
        exact (chars c List.mem_cons_self).2 (List.cons.inj same).1
      rw [shape, readText_literal apart, readLiteral_append chars]
  | basicLines =>
      have shape : Form.basicLines.write s ++ rest = '"' :: '"' :: '"' ::
          (leadingBreak s ++ (escapedLines 0 s ++ '"' :: '"' :: '"' :: rest)) := by
        simp [Form.write]
      rw [shape, readText, dropBreak_leadingBreak fun lines => head?_escapedLines_append lines _,
        readBasicLines_escapedLines (Nat.zero_le 2) s double]
  | literalLines =>
      obtain ⟨chars, few⟩ := h
      have shape : Form.literalLines.write s ++ rest = '\'' :: '\'' :: '\'' ::
          (leadingBreak s ++ (s ++ '\'' :: '\'' :: '\'' :: rest)) := by
        simp [Form.write]
      have first : '\n' ∉ s → (s ++ '\'' :: '\'' :: '\'' :: rest).head? ≠ some '\n' := by
        intro lines
        cases s with
        | nil => simp
        | cons c s =>
            rw [List.cons_append, List.head?_cons, ne_eq, Option.some.injEq]
            rintro rfl
            exact lines List.mem_cons_self
      rw [shape, readText, dropBreak_leadingBreak first, readLiteralLines_append chars few single]

/-! ## Carriage returns -/

theorem return_not_mem_escapedChar (c : Char) : '\r' ∉ escapedChar c := by
  unfold escapedChar
  split
  · decide
  · decide
  · decide
  · decide
  · decide
  · decide
  · decide
  · by_cases text : isTextChar c = true
    · rw [if_pos text, List.mem_singleton]
      rintro rfl
      exact absurd text (by decide)
    · rw [if_neg text]
      have small := toNat_lt_of_not_isTextChar (by simpa using text)
      simpa using (codeDigits_of_lt c.toNat small).2.2

theorem return_not_mem_escapedLines (run : Nat) (s : List Char) :
    '\r' ∉ escapedLines run s := by
  induction s generalizing run with
  | nil => exact List.not_mem_nil
  | cons c s ih =>
      rw [escapedLines]
      split
      · simpa using ih 0
      · split
        · simpa using ih (run + 1)
        · rw [List.mem_append, not_or]
          exact ⟨return_not_mem_escapedChar c, ih 0⟩

theorem return_not_mem_leadingBreak (s : List Char) : '\r' ∉ leadingBreak s := by
  rw [leadingBreak]
  split <;> decide

/-- No carriage return is written, which a reader of lines would pass over. -/
theorem return_not_mem_write {form : Form} {s : List Char} (h : form.Shows s) :
    '\r' ∉ form.write s := by
  cases form with
  | basic => simp [Form.write, return_not_mem_escapedChar]
  | literal =>
      have absent : '\r' ∉ s := fun mem => absurd (h.2 _ mem).1 (by decide)
      simp [Form.write, absent]
  | basicLines =>
      simp [Form.write, return_not_mem_leadingBreak, return_not_mem_escapedLines]
  | literalLines =>
      have absent : '\r' ∉ s := fun mem => absurd (h.1 _ mem) (by decide)
      simp [Form.write, return_not_mem_leadingBreak, absent]

end Scad.Toml
