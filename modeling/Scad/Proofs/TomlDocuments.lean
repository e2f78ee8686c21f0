import Scad.Proofs.TomlTexts
import Scad.Toml.Document

/-!
# TOML documents of pairs

The plainest documents have one pair a line, each a bare key with its value. A line is
read as its pair if what it shows is read as the value up to the end of the line, and so
is then the document as the sequence of its pairs, for which it has enough characters
(`read?_document`). A text shows itself in whatever form it is written, and a truth value
by its name.
-/

namespace Scad.Toml

/-! ## Keys -/

/-- A key without quotes. -/
structure IsBareKey (key : String) : Prop where
  ne_nil : key.toList ≠ []
  all : key.toList.all isKeyChar = true

namespace IsBareKey

variable {key : String}

theorem chars (h : IsBareKey key) : ∀ c ∈ key.toList, isKeyChar c = true :=
  List.all_eq_true.1 h.all

/-- What begins with a bare key begins with no character that keys do not have. -/
theorem append_ne_cons (h : IsBareKey key) {d : Char} (hd : isKeyChar d = false)
    (rest s : List Char) : key.toList ++ rest ≠ d :: s := by
  intro same
  obtain ⟨c, others, first⟩ := List.exists_cons_of_ne_nil h.ne_nil
  have char : isKeyChar c = true := by
    apply h.chars
    rw [first]
    exact List.mem_cons_self
  rw [first, List.cons_append] at same
  rw [(List.cons.inj same).1, hd] at char
  contradiction

theorem return_not_mem (h : IsBareKey key) : '\r' ∉ key.toList :=
  fun mem => absurd (h.chars _ mem) (by decide)

theorem skipSpaces_append (h : IsBareKey key) (rest : List Char) :
    skipSpaces (key.toList ++ rest) = key.toList ++ rest := by
  rw [skipSpaces]
  cases front : key.toList ++ rest with
  | nil => rfl
  | cons c s =>
      apply List.dropWhile_cons_of_neg
      intro space
      simp only [isSpace, Bool.or_eq_true, beq_iff_eq] at space
      rcases space with rfl | rfl
      · exact h.append_ne_cons (by decide) rest s front
      · exact h.append_ne_cons (by decide) rest s front

theorem readSimpleKey_append (h : IsBareKey key) (rest : List Char) :
    readSimpleKey (key.toList ++ ' ' :: rest) = some (key, ' ' :: rest) := by
  have front : (key.toList ++ ' ' :: rest).takeWhile isKeyChar = key.toList := by
    rw [List.takeWhile_append_of_pos h.chars, List.takeWhile_cons_of_neg (by decide),
      List.append_nil]
  have behind : (key.toList ++ ' ' :: rest).dropWhile isKeyChar = ' ' :: rest := by
    rw [List.dropWhile_append_of_pos h.chars, List.dropWhile_cons_of_neg (by decide)]
  unfold readSimpleKey
  split
  · next same => exact absurd same (h.append_ne_cons (by decide) _ _)
  · next same => exact absurd same (h.append_ne_cons (by decide) _ _)
  · have proper : key.toList.isEmpty = false := by simpa using h.ne_nil
    simp only [front, behind, proper, String.ofList_toList]
    rfl

theorem readKey_append (h : IsBareKey key) {room : Nat} (proper : room ≠ 0) (rest : List Char) :
    readKey room (key.toList ++ ' ' :: '=' :: rest) = some (⟨[], key⟩, '=' :: rest) := by
  obtain ⟨room, rfl⟩ := Nat.exists_eq_add_one_of_ne_zero proper
  have sign : skipSpaces (' ' :: '=' :: rest) = '=' :: rest := rfl
  simp [readKey, h.skipSpaces_append, h.readSimpleKey_append, sign]

end IsBareKey

/-! ## Documents of pairs -/

/-- A pair on a line of its own. -/
structure PairLine where
  key : String
  shown : List Char
  value : Value

namespace PairLine

def text (l : PairLine) : List Char := l.key.toList ++ ' ' :: '=' :: ' ' :: (l.shown ++ ['\n'])

def statement (l : PairLine) : Statement := .pair ⟨[], l.key⟩ l.value

/-- The key is bare, and what is shown begins at once, has no carriage return, and is read
as the value up to the end of the line. -/
structure Reads (l : PairLine) : Prop where
  key : IsBareKey l.key
  head : ∀ rest, skipSpaces (l.shown ++ rest) = l.shown ++ rest
  plain : '\r' ∉ l.shown
  value : ∀ rest, readValue maxDepth (l.shown ++ '\n' :: rest) = some (l.value, '\n' :: rest)

theorem text_append (l : PairLine) (rest : List Char) :
    l.text ++ rest = l.key.toList ++ ' ' :: '=' :: ' ' :: (l.shown ++ '\n' :: rest) := by
  simp [text]

theorem Reads.return_not_mem_text {l : PairLine} (h : l.Reads) : '\r' ∉ l.text := by
  simp [text, h.key.return_not_mem, h.plain]

theorem Reads.readStatement_text {l : PairLine} (h : l.Reads) (rest : List Char) :
    readStatement (l.text ++ rest) = some (l.statement, '\n' :: rest) := by
  have space : skipSpaces (' ' :: (l.shown ++ '\n' :: rest)) = l.shown ++ '\n' :: rest :=
    h.head ('\n' :: rest)
  rw [text_append]
  unfold readStatement
  -- The bracket of a header cannot begin a bare key.
  split
  · next same => exact absurd same (h.key.append_ne_cons (by decide) _ _)
  · next same => exact absurd same (h.key.append_ne_cons (by decide) _ _)
  · have deep : maxDepth ≠ 0 := by decide
    rw [h.key.readKey_append deep]
    simp only [Option.bind_eq_bind, Option.bind_some, space]
    rw [h.value]
    rfl

theorem Reads.statementsFrom?_text {l : PairLine} (h : l.Reads) (fuel : Nat) (rest : List Char) :
    statementsFrom? (fuel + 1) (l.text ++ rest) =
      (statementsFrom? fuel rest).map (l.statement :: ·) := by
  have front : skipSpaces (l.text ++ rest) = l.text ++ rest := by
    rw [text_append, h.key.skipSpaces_append]
  have behind : behindLine ('\n' :: rest) = some rest := rfl
  rw [statementsFrom?, front]
  split
  · next same => simp [text_append] at same
  · next same => exact absurd (l.text_append rest ▸ same) (h.key.append_ne_cons (by decide) _ _)
  · next same => exact absurd (l.text_append rest ▸ same) (h.key.append_ne_cons (by decide) _ _)
  · rw [h.readStatement_text]
    simp only [Option.bind_eq_bind, Option.bind_some, behind]
    cases statementsFrom? fuel rest <;> rfl

end PairLine

/-- The text of a document of pairs. -/
def document (lines : List PairLine) : List Char := lines.flatMap PairLine.text

theorem document_cons (l : PairLine) (lines : List PairLine) :
    document (l :: lines) = l.text ++ document lines := List.flatMap_cons

/-- A pair takes one unit of the fuel, however long its line is. -/
theorem statementsFrom?_document {lines : List PairLine} (h : ∀ l ∈ lines, l.Reads) {fuel : Nat}
    (enough : lines.length < fuel) :
    statementsFrom? fuel (document lines) = some (lines.map PairLine.statement) := by
  induction lines generalizing fuel with
  | nil =>
      obtain ⟨fuel, rfl⟩ := Nat.exists_eq_add_one_of_ne_zero (Nat.ne_zero_of_lt enough)
      rfl
  | cons l lines ih =>
      obtain ⟨first, others⟩ := List.forall_mem_cons.1 h
      obtain ⟨fuel, rfl⟩ := Nat.exists_eq_add_one_of_ne_zero (Nat.ne_zero_of_lt enough)
      have later := ih others (Nat.lt_of_succ_lt_succ enough)
      rw [document_cons, first.statementsFrom?_text, later]
      rfl

theorem length_le_document (lines : List PairLine) : lines.length ≤ (document lines).length := by
  induction lines with
  | nil => exact Nat.le_refl _
  | cons l lines ih =>
      have some : 0 < l.text.length := by
        rw [PairLine.text, List.length_append, List.length_cons]
        omega
      rw [document_cons, List.length_append, List.length_cons]
      omega

theorem statements?_document {lines : List PairLine} (h : ∀ l ∈ lines, l.Reads) :
    statements? (document lines) = some (lines.map PairLine.statement) :=
  statementsFrom?_document h (Nat.lt_succ_of_le (length_le_document lines))

theorem normalLines_of_not_mem {s : List Char} (h : '\r' ∉ s) : normalLines s = s := by
  induction s with
  | nil => rfl
  | cons c s ih =>
      rw [List.mem_cons, not_or] at h
      rw [normalLines, ih h.2]
      intro rest same
      exact absurd same.symm h.1

theorem withoutMark_document {lines : List PairLine} (h : ∀ l ∈ lines, l.Reads) :
    withoutMark (document lines) = document lines := by
  cases lines with
  | nil => rfl
  | cons l lines =>
      have key := (List.forall_mem_cons.1 h).1.key
      rw [document_cons, PairLine.text_append]
      unfold withoutMark
      split
      · next same => exact absurd same (key.append_ne_cons (by decide) _ _)
      · rfl

/-- A document of pairs is read as its pairs. -/
theorem read?_document {lines : List PairLine} (h : ∀ l ∈ lines, l.Reads) {s : String}
    (text : s.toList = document lines) :
    read? s = Entries.ofStatements? (lines.map PairLine.statement) := by
  have plain : '\r' ∉ document lines := by
    intro mem
    obtain ⟨l, hl, mem⟩ := List.mem_flatMap.1 mem
    exact (h l hl).return_not_mem_text mem
  rw [read?, text, withoutMark_document h, normalLines_of_not_mem plain, statements?_document h]
  rfl

/-! ## Values -/

theorem readValue_of_quote (room : Nat) {s : List Char}
    (h : s.head? = some '"' ∨ s.head? = some '\'') :
    readValue room s = (readText s).map fun (text, rest) => (.text (String.ofList text), rest) := by
  rcases h with h | h
  · obtain ⟨s, rfl⟩ := List.head?_eq_some_iff.1 h
    cases room <;> rfl
  · obtain ⟨s, rfl⟩ := List.head?_eq_some_iff.1 h
    cases room <;> rfl

theorem head?_write (form : Form) (s rest : List Char) :
    (form.write s ++ rest).head? = some '"' ∨ (form.write s ++ rest).head? = some '\'' := by
  cases form with
  | basic => exact .inl rfl
  | literal => exact .inr rfl
  | basicLines => exact .inl rfl
  | literalLines => exact .inr rfl

/-- The line of a text, in the form that it is written in. -/
def textLine (key s : String) : PairLine := ⟨key, (formOf s.toList).write s.toList, .text s⟩

/-- The line of a truth value. -/
def boolLine (key : String) (b : Bool) : PairLine :=
  ⟨key, (if b then "true" else "false").toList, .bool b⟩

theorem reads_textLine {key : String} (h : IsBareKey key) (s : String) :
    (textLine key s).Reads where
  key := h
  head rest := by
    unfold textLine
    cases formOf s.toList <;> rfl
  plain := return_not_mem_write (formOf_shows s.toList)
  value rest := by
    have back : readText ((formOf s.toList).write s.toList ++ '\n' :: rest) =
        some (s.toList, '\n' :: rest) :=
      readText_write (formOf_shows s.toList) (by simp) (by simp)
    show readValue maxDepth ((formOf s.toList).write s.toList ++ '\n' :: rest) =
      some (.text s, '\n' :: rest)
    rw [readValue_of_quote maxDepth (head?_write _ _ _), back]
    show some (Value.text (String.ofList s.toList), _) = _
    rw [String.ofList_toList]

theorem reads_boolLine {key : String} (h : IsBareKey key) (b : Bool) :
    (boolLine key b).Reads where
  key := h
  head rest := by cases b <;> rfl
  plain := by
    unfold boolLine
    cases b <;> dsimp only <;> decide
  value rest := by cases b <;> rfl

end Scad.Toml
