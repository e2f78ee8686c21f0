import Scad.Proofs.Decimals

/-!
# Reading literals

A literal is read from the left by its type, up to whatever ends it: a number is the
longest run of characters that numbers are written with, a text goes to the first quote
without a backslash, and a vector has as many items as its type says.

Each literal is read back whatever follows its end (`write_readable`), by induction on its
type: behind an item of a vector stands a comma or a bracket, and both end the item.
What stands within a text ends nothing, as the text is read by its own rules.
-/

namespace Scad.Literal

open Decimal

/-! ## Readers -/

/-- Reads a value from the front of a text and answers with the rest. -/
abbrev Reader (α : Type) := List Char → Option (α × List Char)

namespace Reader

variable {α : Type}

/-- The rest behind a text that has to stand in front. -/
def skip (front : List Char) (s : List Char) : Option (List Char) :=
  if front.isPrefixOf s then some (s.drop front.length) else none

/-- The value of the longest run of such characters. -/
def run (inRun : Char → Bool) (value? : List Char → Option α) : Reader α := fun s =>
  (value? (s.takeWhile inRun)).map fun x => (x, s.dropWhile inRun)

/-- So many items, the first of them behind the text given, each later one behind a comma. -/
def items (item : Reader α) : List Char → Nat → Reader (List α)
  | _, 0, s => some ([], s)
  | front, n + 1, s => do
      let (x, s) ← item (← skip front s)
      let (xs, s) ← items item [',', ' '] n s
      return (x :: xs, s)

end Reader

def unescaped (c : Char) : Char :=
  match c with
  | 'n' => '\n'
  | 't' => '\t'
  | 'r' => '\r'
  | c => c

/-- The characters up to the closing quote. A backslash takes the next character with it. -/
def readQuoted : Reader (List Char)
  | [] => none
  | '"' :: s => some ([], s)
  | '\\' :: c :: s => (readQuoted s).map fun (t, rest) => (unescaped c :: t, rest)
  | c :: s => (readQuoted s).map fun (t, rest) => (c :: t, rest)

def bool? (s : List Char) : Option Bool :=
  if s = "true".toList then some true else if s = "false".toList then some false else none

def isNumberChar (c : Char) : Bool := c == '-' || c == '.' || c == '/' || isDigit c

/-! ## Types -/

/-- A type that values can have, by which they are read. -/
inductive Kind where
  | int
  | number
  | bool
  | text
  | vector (item : Kind) (size : Nat)

/-- The literals of a type. A vector has as many items as the type says, all of one type. -/
inductive Typed : Kind → Literal Float → Prop
  | int (n : Int) : Typed .int (.int n)
  | number (x : Float) : Typed .number (.number x)
  | bool (b : Bool) : Typed .bool (.bool b)
  | text (s : String) : Typed .text (.text s)
  | vector {item : Kind} {items : List (Literal Float)}
      (typed : ∀ v ∈ items, Typed item v) : Typed (.vector item items.length) (.vector items)

def Kind.read : Kind → Reader (Literal Float)
  | .int, s => Reader.run isNumberChar (fun s => (int? s).map .int) s
  | .number, s => Reader.run isNumberChar (fun s => (number? s).map .number) s
  | .bool, s => Reader.run Char.isAlpha (fun s => (bool? s).map .bool) s
  | .text, s => do
      let (t, s) ← readQuoted (← Reader.skip ['"'] s)
      return (.text (String.ofList t), s)
  | .vector item size, s => do
      let (xs, s) ← Reader.items item.read [] size (← Reader.skip ['['] s)
      return (.vector xs, ← Reader.skip [']'] s)

/-- The characters that end a literal. -/
def closers : List Char := [',', ')', ']', ';']

/-- What follows a literal begins with one of the characters that end it. -/
def Ends (rest : List Char) : Prop := ∃ c s, c ∈ closers ∧ rest = c :: s

/-! ## Runs -/

variable {α : Type}

theorem Reader.skip_append (front s : List Char) : Reader.skip front (front ++ s) = some s := by
  rw [Reader.skip, if_pos (List.isPrefixOf_iff_prefix.2 (List.prefix_append _ _)), List.drop_left]

/-- A run stops where a character does not belong to it. -/
theorem Reader.run_append {inRun : Char → Bool} {value? : List Char → Option α} {s rest : List Char}
    {x : α} (read : value? s = some x) (within : s.all inRun = true)
    (stop : closers.any inRun = false) (ends : Ends rest) :
    Reader.run inRun value? (s ++ rest) = some (x, rest) := by
  obtain ⟨c, tail, closer, rfl⟩ := ends
  have within := List.all_eq_true.1 within
  have stop := List.any_eq_false.1 stop c closer
  rw [Reader.run, List.takeWhile_append_of_pos within, List.dropWhile_append_of_pos within,
    List.takeWhile_cons_of_neg stop, List.dropWhile_cons_of_neg stop, List.append_nil, read]
  rfl

theorem all_isNumberChar {s : String} (h : IsNumeral s) : s.toList.all isNumberChar = true := by
  rw [List.all_eq_true]
  intro c hc
  rcases h.mem hc with rfl | rfl | rfl | digit
  · decide
  · decide
  · decide
  · simp [isNumberChar, digit]

/-! ## Texts -/

theorem readQuoted_escapedChar (c : Char) (s : List Char) :
    readQuoted (escapedChar c ++ s) =
      (readQuoted s).map fun (t, rest) => (c :: t, rest) := by
  unfold escapedChar
  split
  · rfl
  · rfl
  · rfl
  · rfl
  · rfl
  · next quote backslash _ _ _ =>
      rw [List.singleton_append, readQuoted]
      · exact fun h => quote h
      · exact fun _ _ h => absurd h backslash

theorem readQuoted_escaped (t s : List Char) :
    readQuoted (t.flatMap escapedChar ++ '"' :: s) = some (t, s) := by
  induction t with
  | nil => rfl
  | cons c t ih =>
      rw [List.flatMap_cons, List.append_assoc, readQuoted_escapedChar, ih]
      rfl

/-- The blanks that a written text does not contain. -/
def lineBlanks : List Char := ['\n', '\t', '\r']

theorem escapedChar_not_mem (d : Char) : ∀ c ∈ escapedChar d, c ∉ lineBlanks := by
  unfold escapedChar
  split
  · simp [lineBlanks]
  · simp [lineBlanks]
  · simp [lineBlanks]
  · simp [lineBlanks]
  · simp [lineBlanks]
  · next _ _ newline tab feed =>
      intro c hc
      obtain rfl := List.mem_singleton.1 hc
      simp only [lineBlanks, List.mem_cons, List.not_mem_nil, or_false, not_or]
      exact ⟨newline, tab, feed⟩

theorem writeText_not_mem (s : String) : ∀ c ∈ (writeText s).toList, c ∉ lineBlanks := by
  intro c hc
  rw [writeText, String.toList_ofList, List.cons_append, List.mem_cons, List.mem_append,
    List.mem_singleton] at hc
  rcases hc with rfl | hc | rfl
  · decide
  · obtain ⟨d, -, hc⟩ := List.mem_flatMap.1 hc
    exact escapedChar_not_mem d c hc
  · decide

/-! ## Vectors -/

namespace Reader

/-- The items of a vector behind the first, each behind a comma. -/
def later (items : List (Literal Float)) : List Char :=
  items.flatMap fun v => [',', ' '] ++ v.write.toList

theorem intercalate_writeAll (v : Literal Float) (items : List (Literal Float)) :
    (", ".intercalate (writeAll (v :: items))).toList = v.write.toList ++ later items := by
  induction items generalizing v with
  | nil => simp [writeAll, later]
  | cons w items ih =>
      have rest := ih w
      rw [writeAll] at rest ⊢
      rw [writeAll, String.intercalate_cons_cons, String.toList_append,
        String.toList_append, rest]
      simp [later]

variable {read : Reader (Literal Float)}

/-- Every item is read back as it stands, up to what ends it. -/
def ReadsBack (read : Reader (Literal Float)) (v : Literal Float) : Prop :=
  ∀ rest, Ends rest → read (v.write.toList ++ rest) = some (v, rest)

theorem ends_later (items : List (Literal Float)) (rest : List Char) :
    Ends (later items ++ ']' :: rest) := by
  cases items with
  | nil => exact ⟨']', rest, by decide, rfl⟩
  | cons v items => exact ⟨',', _, by decide, rfl⟩

theorem items_cons {v : Literal Float} (first : ReadsBack read v) (front : List Char) (n : Nat)
    {rest : List Char} (ends : Ends rest) :
    Reader.items read front (n + 1) (front ++ (v.write.toList ++ rest)) =
      (Reader.items read [',', ' '] n rest).map fun (xs, s) => (v :: xs, s) := by
  rw [Reader.items, skip_append, Option.bind_eq_bind, Option.bind_some, first rest ends,
    Option.bind_eq_bind, Option.bind_some]
  simp only
  cases Reader.items read [',', ' '] n rest with
  | none => rfl
  | some _ => rfl

theorem items_later {items : List (Literal Float)} (h : ∀ v ∈ items, ReadsBack read v)
    (rest : List Char) :
    Reader.items read [',', ' '] items.length (later items ++ ']' :: rest) =
      some (items, ']' :: rest) := by
  induction items with
  | nil => rfl
  | cons v items ih =>
      obtain ⟨first, others⟩ := List.forall_mem_cons.1 h
      have shape : later (v :: items) ++ ']' :: rest =
          [',', ' '] ++ (v.write.toList ++ (later items ++ ']' :: rest)) := by
        simp [later]
      rw [shape, List.length_cons, items_cons first _ _ (ends_later items rest), ih others]
      rfl

theorem items_written {items : List (Literal Float)} (h : ∀ v ∈ items, ReadsBack read v)
    (rest : List Char) :
    Reader.items read [] items.length
        ((", ".intercalate (writeAll items)).toList ++ ']' :: rest) =
      some (items, ']' :: rest) := by
  cases items with
  | nil => rfl
  | cons v items =>
      obtain ⟨first, others⟩ := List.forall_mem_cons.1 h
      have behind := items_cons first [] items.length (ends_later items rest)
      rw [List.nil_append] at behind
      rw [intercalate_writeAll, List.append_assoc, List.length_cons, behind, items_later others]
      rfl

end Reader

/-! ## Reading back -/

open Reader (ReadsBack)

theorem readsBack_text (s : String) : ReadsBack Kind.text.read (.text s) := by
  intro rest _
  have shape : (Literal.text s : Literal Float).write.toList ++ rest =
      ['"'] ++ (s.toList.flatMap escapedChar ++ '"' :: rest) := by
    simp [write, writeText]
  rw [shape, Kind.read, Reader.skip_append, Option.bind_eq_bind, Option.bind_some,
    readQuoted_escaped, Option.bind_eq_bind, Option.bind_some]
  simp only
  rw [String.ofList_toList]
  rfl

theorem readsBack_vector {item : Kind} {items : List (Literal Float)}
    (h : ∀ v ∈ items, ReadsBack item.read v) :
    ReadsBack (Kind.vector item items.length).read (.vector items) := by
  intro rest _
  have shape : (Literal.vector items).write.toList ++ rest =
      ['['] ++ ((", ".intercalate (writeAll items)).toList ++ ']' :: rest) := by
    simp [write]
  have closing : Reader.skip [']'] (']' :: rest) = some rest := Reader.skip_append [']'] rest
  rw [shape, Kind.read, Reader.skip_append, Option.bind_eq_bind, Option.bind_some,
    Reader.items_written h, Option.bind_eq_bind, Option.bind_some]
  simp only
  rw [closing]
  rfl

theorem Typed.readsBack {t : Kind} {v : Literal Float} (typed : Typed t v) :
    ReadsBack t.read v := by
  induction typed with
  | int n =>
      intro rest ends
      have numeral : IsNumeral (toString n) := .inr (isDecimal_int n)
      rw [Kind.read, write]
      exact Reader.run_append (by rw [int?_toString]; rfl) (all_isNumberChar numeral)
        (by decide) ends
  | number x =>
      intro rest ends
      rw [Kind.read, write]
      exact Reader.run_append (by rw [number?_numeral]; rfl)
        (all_isNumberChar (isNumeral_float x)) (by decide) ends
  | bool b =>
      intro rest ends
      rw [Kind.read, write]
      cases b with
      | true => exact Reader.run_append (s := "true".toList) rfl (by decide) (by decide) ends
      | false => exact Reader.run_append rfl (by decide) (by decide) ends
  | text s => exact readsBack_text s
  | vector _ ih => exact readsBack_vector ih

theorem numeral_injective : Function.Injective (Numeral.numeral : Float → String) := by
  intro x y same
  have read := number?_numeral x
  rw [same, number?_numeral y] at read
  exact (Option.some.inj read).symm

/-- Every literal is read back by its type, whatever follows its end, and a written text is
a single line. A decimal is rounded to the nearest number with its sign kept, and the three
divisions are read as what they come to. So no two numbers are written alike, least of all a
finite number and one that is not. -/
theorem write_readable :
    (∀ {t : Kind} {v : Literal Float}, Typed t v → ∀ rest, Ends rest →
        t.read (v.write.toList ++ rest) = some (v, rest)) ∧
      (∀ s : String, ∀ c ∈ (writeText s).toList, c ≠ '\n' ∧ c ≠ '\t' ∧ c ≠ '\r') ∧
      (∀ (negative : Bool) {s : List Char} {d : Digits}, decimal? s = some d →
        ∃ x, number? (signText negative ++ s) = some x ∧ Rounded negative d.value x) ∧
      (number? "1/0".toList = some (1 / 0) ∧ number? "-1/0".toList = some (-1 / 0) ∧
        number? "0/0".toList = some (0 / 0)) ∧
      (∀ x y : Float, Numeral.numeral x = Numeral.numeral y → x = y) ∧
      ∀ x y : Float, x.isFinite = true → y.isFinite = false →
        Numeral.numeral x ≠ Numeral.numeral y := by
  refine ⟨fun typed => typed.readsBack, fun s c hc => ?_, fun negative s d read => ?_,
    by decide +kernel, fun x y same => numeral_injective same, fun x y finite other same => ?_⟩
  · have blank := writeText_not_mem s c hc
    simp only [lineBlanks, List.mem_cons, List.not_mem_nil, or_false, not_or] at blank
    exact blank
  · exact ⟨_, number?_decimal read negative, Decimal.rounded_nearest negative d.value⟩
  · rw [numeral_injective same, other] at finite
    contradiction

/-- A list of labels. What stands in them looks like the end of a label or of the list. -/
def labels : Literal Float := .vector [.text "lid\", ]", .text "\\\n", .text ""]

/-- A matrix with every kind of number in it. -/
def matrix : Literal Float :=
  .vector [.vector [.number (-0.0), .number 0.1], .vector [.number (-1 / 0), .number (0 / 0)]]

theorem labels_readable :
    (Kind.vector .text 3).read (labels.write.toList ++ [')', ';']) =
        some (labels, [')', ';']) ∧
      (Kind.vector (.vector .number 2) 2).read (matrix.write.toList ++ [',', '1']) =
        some (matrix, [',', '1']) ∧
      (∃ x, number? "-0.00".toList = some x ∧ Rounded true (Digits.value ⟨0, -2⟩) x) ∧
      Numeral.numeral (0.5 : Float) ≠ Numeral.numeral (1 / 0 : Float) := by
  obtain ⟨readsBack, -, rounds, -, -, apart⟩ := write_readable
  have labelled : Typed (.vector .text 3) labels :=
    .vector (List.forall_mem_cons.2 ⟨.text _, List.forall_mem_cons.2
      ⟨.text _, List.forall_mem_singleton.2 (.text _)⟩⟩)
  have row : ∀ x y : Float, Typed (.vector .number 2) (.vector [.number x, .number y]) :=
    fun x y => .vector (List.forall_mem_cons.2 ⟨.number x, List.forall_mem_singleton.2 (.number y)⟩)
  have squared : Typed (.vector (.vector .number 2) 2) matrix :=
    .vector (List.forall_mem_cons.2 ⟨row _ _, List.forall_mem_singleton.2 (row _ _)⟩)
  exact ⟨readsBack labelled _ ⟨_, _, by decide, rfl⟩, readsBack squared _ ⟨_, _, by decide, rfl⟩,
    rounds true rfl, apart _ _ (by decide +kernel) (by decide +kernel)⟩

end Scad.Literal
