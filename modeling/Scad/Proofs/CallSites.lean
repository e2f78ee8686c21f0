import Scad.Call
import Scad.Proofs.Numerals

/-!
# Reading call sites

A call site is read from the left without knowing what its values are: the name ends
at the parenthesis, a key at its `=`, and a value at the first comma or parenthesis
that stands outside of brackets and quotes. A written literal closes what it opens,
so the reader passes over the whole of it (`Literal.passes_write`) and stops where the call
put the end. Thus name, keys and values of a call are read back from its text whatever
follows (`text_readable`), and no value reaches beyond its parameter.
-/

namespace Scad

variable {K : Type}

/-! ## Words -/

def isWordChar (c : Char) : Bool := isIdentifierChar c || c == '$'

/-- Names and keys at a call site. -/
def IsWord (s : String) : Prop := s ≠ "" ∧ ∀ c ∈ s.toList, isWordChar c = true

instance (s : String) : Decidable (IsWord s) :=
  decidable_of_iff (s ≠ "" ∧ s.toList.all isWordChar = true) (by simp [IsWord])

theorem IsWord.takeWhile {s : String} (h : IsWord s) {c : Char} (hc : isWordChar c = false)
    (rest : List Char) : (s.toList ++ c :: rest).takeWhile isWordChar = s.toList := by
  rw [List.takeWhile_append_of_pos h.2]
  simp [hc]

theorem IsWord.dropWhile {s : String} (h : IsWord s) {c : Char} (hc : isWordChar c = false)
    (rest : List Char) : (s.toList ++ c :: rest).dropWhile isWordChar = c :: rest := by
  rw [List.dropWhile_append_of_pos h.2]
  simp [hc]

/-! ## Values -/

/-- Where a reader is within a value. -/
inductive Place where
  | bare
  | quoted
  /-- Behind a backslash in quotes. -/
  | escaped

/-- The text of a value and what comes after it. -/
abbrev Cut := List Char × List Char

def Cut.prepend (s : List Char) (cut : Cut) : Cut := (s ++ cut.1, cut.2)

@[simp] theorem Cut.prepend_prepend (s t : List Char) (cut : Cut) :
    (cut.prepend t).prepend s = cut.prepend (s ++ t) := by
  simp [prepend]

/-- Cuts a text where a value ends, with so many brackets open. -/
def cutValue (depth : Nat) : Place → List Char → Cut
  | _, [] => ([], [])
  | .bare, c :: rest =>
      if depth = 0 ∧ (c = ',' ∨ c = ')') then ([], c :: rest)
      else
        let depth := if c = '[' then depth + 1 else if c = ']' then depth - 1 else depth
        (cutValue depth (if c = '"' then .quoted else .bare) rest).prepend [c]
  | .quoted, c :: rest =>
      let place := if c = '\\' then .escaped else if c = '"' then .bare else .quoted
      (cutValue depth place rest).prepend [c]
  | .escaped, c :: rest => (cutValue depth .quoted rest).prepend [c]

/-! ## Texts that a value can hold -/

/-- Outside of quotes, with so many brackets open, the reader does not stop within the
text and is in the same place behind it. -/
def Passes (depth : Nat) (s : List Char) : Prop :=
  ∀ rest, cutValue depth .bare (s ++ rest) = (cutValue depth .bare rest).prepend s

namespace Passes

variable {depth : Nat} {s t : List Char}

theorem nil : Passes depth [] := fun _ => rfl

theorem append (hs : Passes depth s) (ht : Passes depth t) : Passes depth (s ++ t) := by
  intro rest
  rw [List.append_assoc, hs, ht, Cut.prepend_prepend]

theorem plain (h : ∀ c ∈ s, c ≠ ',' ∧ c ≠ ')' ∧ c ≠ '[' ∧ c ≠ ']' ∧ c ≠ '"') :
    Passes depth s := by
  induction s with
  | nil => exact nil
  | cons c s ih =>
      obtain ⟨⟨comma, parenthesis, opening, closing, quote⟩, hs⟩ := List.forall_mem_cons.1 h
      intro rest
      rw [List.cons_append, cutValue]
      simp only [comma, parenthesis, opening, closing, quote, or_self, and_false, if_false]
      rw [ih hs rest, Cut.prepend_prepend]
      rfl

/-- Within brackets the items of a vector may be set apart by commas. -/
theorem separator : Passes (depth + 1) [',', ' '] := by
  intro rest
  show cutValue (depth + 1) .bare (',' :: ' ' :: rest) = _
  simp [cutValue]

theorem bracketed (h : Passes (depth + 1) s) : Passes depth ('[' :: s ++ [']']) := by
  intro rest
  have closing : cutValue (depth + 1) .bare (']' :: rest) =
      (cutValue depth .bare rest).prepend [']'] := by
    simp [cutValue]
  have opening : cutValue depth .bare ('[' :: (s ++ ']' :: rest)) =
      (cutValue (depth + 1) .bare (s ++ ']' :: rest)).prepend ['['] := by
    simp [cutValue]
  have shape : '[' :: s ++ [']'] ++ rest = '[' :: (s ++ ']' :: rest) := by simp
  rw [shape, opening, h, closing, Cut.prepend_prepend, Cut.prepend_prepend]
  rfl

theorem intercalate (hs : Passes depth s) {l : List String}
    (h : ∀ item ∈ l, Passes depth item.toList) :
    Passes depth ((String.ofList s).intercalate l).toList := by
  induction l with
  | nil => exact nil
  | cons item l ih =>
      obtain ⟨first, others⟩ := List.forall_mem_cons.1 h
      cases l with
      | nil => rwa [String.intercalate_singleton]
      | cons next l =>
          rw [String.intercalate_cons_cons, String.toList_append, String.toList_append,
            String.toList_ofList]
          exact (first.append hs).append (ih others)

end Passes

/-! ## Literals -/

theorem IsNumeral.passes {s : String} (h : IsNumeral s) (depth : Nat) :
    Passes depth s.toList := by
  apply Passes.plain
  intro c hc
  rcases h.mem hc with rfl | rfl | rfl | digit
  · decide
  · decide
  · decide
  · refine ⟨?_, ?_, ?_, ?_, ?_⟩ <;> · rintro rfl; revert digit; decide

namespace Literal

/-- What stands for a character of a text neither ends the quotes nor leaves a
backslash behind that would keep the next character from ending them. -/
theorem cutValue_escapedChar (depth : Nat) (c : Char) (rest : List Char) :
    cutValue depth .quoted (escapedChar c ++ rest) =
      (cutValue depth .quoted rest).prepend (escapedChar c) := by
  unfold escapedChar
  split
  · simp [cutValue]
  · simp [cutValue]
  · simp [cutValue]
  · simp [cutValue]
  · simp [cutValue]
  · next quote backslash _ _ _ =>
      have quote : c ≠ '"' := fun h => quote h
      have backslash : c ≠ '\\' := fun h => backslash h
      simp [cutValue, quote, backslash]

theorem cutValue_escaped (depth : Nat) (s rest : List Char) :
    cutValue depth .quoted (s.flatMap escapedChar ++ rest) =
      (cutValue depth .quoted rest).prepend (s.flatMap escapedChar) := by
  induction s with
  | nil => rfl
  | cons c s ih =>
      rw [List.flatMap_cons, List.append_assoc, cutValue_escapedChar, ih, Cut.prepend_prepend]

theorem passes_writeText (depth : Nat) (s : String) : Passes depth (writeText s).toList := by
  intro rest
  have shape : (writeText s).toList ++ rest =
      '"' :: (s.toList.flatMap escapedChar ++ '"' :: rest) := by
    simp [writeText]
  have opening : ∀ t, cutValue depth .bare ('"' :: t) =
      (cutValue depth .quoted t).prepend ['"'] := by
    intro t
    simp [cutValue]
  have closing : cutValue depth .quoted ('"' :: rest) =
      (cutValue depth .bare rest).prepend ['"'] := by
    simp [cutValue]
  rw [shape, opening, cutValue_escaped, closing, Cut.prepend_prepend, Cut.prepend_prepend]
  simp [writeText]

variable [Numeral K]

mutual

/-- However deep a literal stands within others, the reader passes over it. -/
theorem passes_write (numerals : ∀ x : K, IsNumeral (Numeral.numeral x)) :
    ∀ (depth : Nat) (v : Literal K), Passes depth v.write.toList
  | depth, .int n => by
      have numeral : IsNumeral (toString n) := .inr (isDecimal_int n)
      rw [write]
      exact numeral.passes depth
  | depth, .number x => by
      rw [write]
      exact (numerals x).passes depth
  | depth, .bool b => by
      rw [write]
      apply Passes.plain
      cases b <;> simp
  | depth, .text s => by
      rw [write]
      exact passes_writeText depth s
  | depth, .vector items => by
      have inner := passes_writeAll numerals (depth + 1) items
      have shape : (write (.vector items)).toList =
          '[' :: (", ".intercalate (writeAll items)).toList ++ [']'] := by
        simp [write]
      rw [shape]
      exact (Passes.separator.intercalate inner).bracketed

theorem passes_writeAll (numerals : ∀ x : K, IsNumeral (Numeral.numeral x)) :
    ∀ (depth : Nat) (items : List (Literal K)),
      ∀ item ∈ writeAll items, Passes depth item.toList
  | _, [], _, h => by simp [writeAll] at h
  | depth, v :: items, item, h => by
      rw [writeAll] at h
      rcases List.mem_cons.1 h with rfl | h
      · exact passes_write numerals depth v
      · exact passes_writeAll numerals depth items item h

end

end Literal

/-! ## Call sites -/

/-- What is read of a call site: the name, keys and values in their order, and what
comes after the closing parenthesis. -/
structure CallSite where
  name : String
  arguments : List (String × String)
  rest : List Char
deriving DecidableEq

/-- Reads a key, its `=` and a value. -/
def readArgument? (s : List Char) : Option ((String × String) × List Char) :=
  match s.dropWhile isWordChar with
  | '=' :: value =>
      let cut := cutValue 0 .bare value
      some ((String.ofList (s.takeWhile isWordChar), String.ofList cut.1), cut.2)
  | _ => none

/-- Reads up to `fuel` arguments and the closing parenthesis. -/
def readArguments? : (fuel : Nat) → List Char → Option (List (String × String) × List Char)
  | 0, _ => none
  | fuel + 1, s =>
      match readArgument? s with
      | some (e, ')' :: rest) => some ([e], rest)
      | some (e, ',' :: ' ' :: rest) =>
          (readArguments? fuel rest).map fun later => (e :: later.1, later.2)
      | _ => none

/-- Reads a call site. No text has more arguments than characters. -/
def readCallSite? (s : List Char) : Option CallSite :=
  let name := String.ofList (s.takeWhile isWordChar)
  match s.dropWhile isWordChar with
  | '(' :: ')' :: rest => some ⟨name, [], rest⟩
  | '(' :: rest => (readArguments? s.length rest).map fun read => ⟨name, read.1, read.2⟩
  | _ => none

/-! ## Reading arguments -/

def argument (e : String × String) : String := e.1 ++ "=" ++ e.2

/-- The key is a word and the reader passes over the value. -/
def IsArgument (e : String × String) : Prop := IsWord e.1 ∧ Passes 0 e.2.toList

theorem readArgument?_argument {e : String × String} (h : IsArgument e) {c : Char}
    (stop : c = ',' ∨ c = ')') (rest : List Char) :
    readArgument? ((argument e).toList ++ c :: rest) = some (e, c :: rest) := by
  obtain ⟨word, passes⟩ := h
  have shape : (argument e).toList ++ c :: rest =
      e.1.toList ++ '=' :: (e.2.toList ++ c :: rest) := by
    simp [argument]
  have cut : cutValue 0 .bare (e.2.toList ++ c :: rest) = (e.2.toList, c :: rest) := by
    rw [passes, cutValue, if_pos ⟨rfl, stop⟩]
    simp [Cut.prepend]
  rw [shape, readArgument?, word.takeWhile (by decide), word.dropWhile (by decide)]
  simp [cut]

theorem readArguments?_intercalate : ∀ {l : List (String × String)} {fuel : Nat}, l ≠ [] →
    l.length ≤ fuel → (∀ e ∈ l, IsArgument e) → ∀ rest : List Char,
      readArguments? fuel ((", ".intercalate (l.map argument)).toList ++ ')' :: rest) =
        some (l, rest)
  | [], _, nonempty, _, _, _ => absurd rfl nonempty
  | _ :: _, 0, _, enough, _, _ => by simp at enough
  | [e], fuel + 1, _, _, h, rest => by
      have read := readArgument?_argument (h e List.mem_cons_self) (.inr rfl) rest
      rw [List.map_singleton, String.intercalate_singleton, readArguments?]
      simp only [read]
  | e :: e' :: l, fuel + 1, _, enough, h, rest => by
      obtain ⟨first, others⟩ := List.forall_mem_cons.1 h
      have later := readArguments?_intercalate (List.cons_ne_nil e' l)
        (Nat.le_of_succ_le_succ enough) others rest
      have shape : (", ".intercalate ((e :: e' :: l).map argument)).toList ++ ')' :: rest =
          (argument e).toList ++ ',' :: ' ' ::
            ((", ".intercalate ((e' :: l).map argument)).toList ++ ')' :: rest) := by
        simp [String.intercalate_cons_cons]
      have read := readArgument?_argument first (.inl rfl)
        (' ' :: ((", ".intercalate ((e' :: l).map argument)).toList ++ ')' :: rest))
      rw [shape, readArguments?]
      simp only [read, later, Option.map_some]

theorem length_le_arguments (l : List (String × String)) :
    l.length ≤ (", ".intercalate (l.map argument)).toList.length := by
  induction l with
  | nil => exact Nat.zero_le _
  | cons e l ih =>
      have one : 1 ≤ (argument e).toList.length := by
        simp [argument]
        omega
      cases l with
      | nil => rwa [List.map_singleton, String.intercalate_singleton]
      | cons e' l =>
          rw [List.map_cons, List.map_cons, String.intercalate_cons_cons, String.toList_append,
            List.length_append, String.toList_append, List.length_append, ← List.map_cons]
          simp only [List.length_cons] at ih ⊢
          omega

/-- Arguments begin with a key, and a key is not empty. -/
theorem arguments_ne {l : List (String × String)} (nonempty : l ≠ [])
    (h : ∀ e ∈ l, IsArgument e) (s t : List Char) :
    (", ".intercalate (l.map argument)).toList ++ s ≠ ')' :: t := by
  obtain ⟨e, l, rfl⟩ := List.exists_cons_of_ne_nil nonempty
  obtain ⟨⟨key, word⟩, -⟩ := h e List.mem_cons_self
  have chars : e.1.toList ≠ [] := fun none => key (String.toList_inj.1 none)
  obtain ⟨c, key', hc⟩ := List.exists_cons_of_ne_nil chars
  have first : isWordChar c = true := word c (hc ▸ List.mem_cons_self)
  intro same
  have head : c = ')' := by
    cases l with
    | nil =>
        simp [argument, hc] at same
        exact same.1
    | cons e' l =>
        simp [argument, hc, String.intercalate_cons_cons] at same
        exact same.1
  rw [head] at first
  revert first
  decide

/-! ## Reading calls -/

namespace Call

/-- Name and keys of the call are words, and its values are written literals. -/
structure Literate (K : Type) [Numeral K] (c : Call String) : Prop where
  name : IsWord c.name
  keys : ∀ e ∈ c.parameters.entries, IsWord e.1
  values : ∀ e ∈ c.parameters.entries, ∃ v : Literal K, v.write = e.2

theorem readCallSite?_text {c : Call String} (name : IsWord c.name)
    (arguments : ∀ e ∈ c.parameters.entries, IsArgument e) (rest : List Char) :
    readCallSite? (c.text.toList ++ rest) = some ⟨c.name, c.parameters.entries, rest⟩ := by
  have shape : c.text.toList ++ rest =
      c.name.toList ++ '(' :: (c.argumentText.toList ++ ')' :: rest) := by
    simp [Call.text]
  have inside : c.argumentText = ", ".intercalate (c.parameters.entries.map argument) := rfl
  have size := length_le_arguments c.parameters.entries
  rw [shape, readCallSite?, name.takeWhile (by decide), name.dropWhile (by decide), inside,
    String.ofList_toList]
  by_cases none : c.parameters.entries = []
  · simp [none]
  · have enough : c.parameters.entries.length ≤ (c.name.toList ++ '(' ::
        ((", ".intercalate (c.parameters.entries.map argument)).toList ++ ')' :: rest)).length := by
      simp only [List.length_append, List.length_cons]
      omega
    have read := readArguments?_intercalate none enough arguments rest
    split
    · next closed =>
        exact absurd (List.cons.inj closed).2 (arguments_ne none arguments _ _)
    · next opened =>
        rw [← (List.cons.inj opened).2, read]
        rfl
    · next other => exact absurd rfl (other _)

/-- The text of a call site is read back whatever follows it, so no other name and no
other parameters have the same text. -/
theorem text_readable [Numeral K] (numerals : ∀ x : K, IsNumeral (Numeral.numeral x)) :
    (∀ c : Call String, c.Literate K → ∀ rest,
      readCallSite? (c.text.toList ++ rest) = some ⟨c.name, c.parameters.entries, rest⟩) ∧
    (∀ c d : Call String, c.Literate K → d.Literate K → c.text = d.text →
      c.name = d.name ∧ c.parameters = d.parameters) := by
  have readable : ∀ c : Call String, c.Literate K → ∀ rest,
      readCallSite? (c.text.toList ++ rest) =
        some ⟨c.name, c.parameters.entries, rest⟩ := by
    intro c h
    apply readCallSite?_text h.name
    intro e he
    obtain ⟨v, hv⟩ := h.values e he
    exact ⟨h.keys e he, hv ▸ Literal.passes_write numerals 0 v⟩
  refine ⟨readable, ?_⟩
  intro c d hc hd same
  have read := readable c hc []
  rw [same, readable d hd [], Option.some.injEq, CallSite.mk.injEq] at read
  exact ⟨read.1.symm, SortedMap.eq_of_entries_perm (.of_eq read.2.1.symm)⟩

/-- The text of this label ends with a backslash and holds what would end its quotes,
its parameter and its call. -/
def forgedLabel : Call String :=
  ⟨"text", .insert (.insert (.insert ∅ "size" (Literal.number (0.5 : Float)).write)
    "text" (Literal.writeText "x\", size=9);\n\\")) "$fn" "[8, [true, \"]\"]]", [], none⟩

theorem forgedLabel_readable :
    (∀ x : Float, IsNumeral (Numeral.numeral x)) ∧ forgedLabel.Literate Float ∧
    readCallSite? (forgedLabel.text.toList ++ [';', '\n']) =
      some ⟨"text",
        [("$fn", "[8, [true, \"]\"]]"), ("size", (Literal.number (0.5 : Float)).write),
          ("text", "\"x\\\", size=9);\\n\\\\\"")], [';', '\n']⟩ ∧
    (∀ d : Call String, d.Literate Float → forgedLabel.text = d.text →
      forgedLabel.name = d.name ∧ forgedLabel.parameters = d.parameters) := by
  have entries : forgedLabel.parameters.entries =
      [("$fn", "[8, [true, \"]\"]]"), ("size", (Literal.number (0.5 : Float)).write),
        ("text", "\"x\\\", size=9);\\n\\\\\"")] := rfl
  have literate : forgedLabel.Literate Float := by
    refine ⟨by decide +kernel, ?_, ?_⟩
    · rw [entries]
      simp only [List.forall_mem_cons]
      exact ⟨by decide +kernel, by decide +kernel, by decide +kernel, List.forall_mem_nil _⟩
    · rw [entries]
      simp only [List.forall_mem_cons]
      exact ⟨⟨.vector [.int 8, .vector [.bool true, .text "]"]], rfl⟩, ⟨.number 0.5, rfl⟩,
        ⟨.text "x\", size=9);\n\\", rfl⟩, by simp⟩
  obtain ⟨readable, unique⟩ := text_readable isNumeral_float
  refine ⟨isNumeral_float, literate, ?_, fun d hd => unique _ d literate hd⟩
  rw [← entries]
  exact readable _ literate _

end Call

end Scad
