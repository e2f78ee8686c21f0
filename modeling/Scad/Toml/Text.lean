/-!
# Quoted text in TOML

A text is written between double quotes, where a backslash begins an escape,
or between single quotes, where every character stands for itself. Both have a
form with three quotes that may run over several lines: a line break right
behind the opening quotes does not count, and one or two quotes may stand
before the closing three. The reader here takes line breaks as single line
feeds; a carriage return is not a character of any text.
-/

namespace Scad.Toml

/-- A reader takes what it reads from the front of the text, and answers with
the rest as well. -/
abbrev Reader (α : Type) := List Char → Option (α × List Char)

def isSpace (c : Char) : Bool := c == ' ' || c == '\t'

/-- A tab, and every character that is not a control character of ASCII. -/
def isTextChar (c : Char) : Bool := c == '\t' || (' ' ≤ c && c != '\x7f')

/-! ## Escapes -/

def hexValue? (c : Char) : Option Nat :=
  if '0' ≤ c && c ≤ '9' then some (c.toNat - '0'.toNat)
  else if 'a' ≤ c && c ≤ 'f' then some (c.toNat - 'a'.toNat + 10)
  else if 'A' ≤ c && c ≤ 'F' then some (c.toNat - 'A'.toNat + 10)
  else none

/-- The number that hexadecimal digits stand for, behind the digits before them. -/
def hexNumber? : Nat → List Char → Option Nat
  | n, [] => some n
  | n, c :: rest => do hexNumber? (n * 16 + (← hexValue? c)) rest

/-- The character of a code point. Half of a surrogate pair is no character. -/
def charOfCode? (n : Nat) : Option Char :=
  if n.isValidChar then some (Char.ofNat n) else none

/-- The character of a code point with a fixed number of digits. -/
def readCode (digits : Nat) : Reader Char := fun s => do
  if s.length < digits then none
  return (← charOfCode? (← hexNumber? 0 (s.take digits)), s.drop digits)

/-- What stands behind a backslash. -/
def readEscape : Reader Char
  | 'b' :: rest => some ('\x08', rest)
  | 't' :: rest => some ('\t', rest)
  | 'n' :: rest => some ('\n', rest)
  | 'f' :: rest => some ('\x0c', rest)
  | 'r' :: rest => some ('\r', rest)
  | '"' :: rest => some ('"', rest)
  | '\\' :: rest => some ('\\', rest)
  | 'u' :: rest => readCode 4 rest
  | 'U' :: rest => readCode 8 rest
  | _ => none

theorem length_le_of_readCode {n : Nat} {s rest : List Char} {c : Char}
    (h : readCode n s = some (c, rest)) : rest.length ≤ s.length := by
  simp only [readCode, Option.bind_eq_bind, Option.pure_def] at h
  split at h
  · contradiction
  · obtain ⟨code, _, h⟩ := Option.bind_eq_some_iff.1 h
    obtain ⟨_, _, h⟩ := Option.bind_eq_some_iff.1 h
    cases h
    simp

theorem length_lt_of_readEscape {s rest : List Char} {c : Char}
    (h : readEscape s = some (c, rest)) : rest.length < s.length := by
  unfold readEscape at h
  split at h
  case h_8 => exact Nat.lt_succ_of_le (length_le_of_readCode h)
  case h_9 => exact Nat.lt_succ_of_le (length_le_of_readCode h)
  case h_10 => contradiction
  all_goals
    cases h
    simp

/-! ## Text on one line -/

/-- Puts a character before what has been read. -/
def before (c : Char) (read : List Char × List Char) : List Char × List Char :=
  (c :: read.1, read.2)

/-- Reads up to the closing double quote. -/
def readBasic : Reader (List Char)
  | [] => none
  | c :: rest =>
      if c = '"' then some ([], rest)
      else if c = '\\' then
        match h : readEscape rest with
        | none => none
        | some (c, rest') =>
            have := length_lt_of_readEscape h
            (readBasic rest').map (before c)
      else if isTextChar c then (readBasic rest).map (before c)
      else none
termination_by s => s.length
decreasing_by all_goals simp_all; try omega

/-- Reads up to the closing single quote. -/
def readLiteral : Reader (List Char)
  | [] => none
  | c :: rest =>
      if c = '\'' then some ([], rest)
      else if isTextChar c then (readLiteral rest).map (before c)
      else none

/-! ## Text over several lines -/

/-- Of the quotes at the front, those that belong to the text and the rest
behind the closing three; nothing if there are fewer than three. -/
def closing (quote : Char) (s : List Char) : Option (List Char × List Char) :=
  let run := (s.takeWhile (· = quote)).length
  if run < 3 then none
  else
    let own := min (run - 3) 2
    some (List.replicate own quote, s.drop (own + 3))

/-- The rest behind a line break that a backslash hides, and behind the blanks
and line breaks after it. -/
def hiddenBreak (s : List Char) : Option (List Char) :=
  match s.dropWhile isSpace with
  | '\n' :: rest => some (rest.dropWhile fun c => isSpace c || c == '\n')
  | _ => none

theorem length_dropWhile_le {α : Type} (p : α → Bool) (s : List α) :
    (s.dropWhile p).length ≤ s.length :=
  (List.dropWhile_sublist p).length_le

theorem length_lt_of_hiddenBreak {s rest : List Char} (h : hiddenBreak s = some rest) :
    rest.length < s.length := by
  unfold hiddenBreak at h
  split at h
  · next tail ht =>
      cases h
      have short := length_dropWhile_le isSpace s
      rw [ht, List.length_cons] at short
      exact Nat.lt_of_le_of_lt (length_dropWhile_le _ tail) short
  · contradiction

/-- Reads up to the closing three double quotes. -/
def readBasicLines : Reader (List Char)
  | [] => none
  | c :: rest =>
      if c = '"' then
        match closing '"' (c :: rest) with
        | some (own, rest) => some (own, rest)
        | none => (readBasicLines rest).map (before c)
      else if c = '\\' then
        match h : hiddenBreak rest with
        | some rest' =>
            have := length_lt_of_hiddenBreak h
            readBasicLines rest'
        | none =>
            match h : readEscape rest with
            | none => none
            | some (c, rest') =>
                have := length_lt_of_readEscape h
                (readBasicLines rest').map (before c)
      else if isTextChar c || c == '\n' then (readBasicLines rest).map (before c)
      else none
termination_by s => s.length
decreasing_by all_goals simp_all; try omega

/-- Reads up to the closing three single quotes. -/
def readLiteralLines : Reader (List Char)
  | [] => none
  | c :: rest =>
      if c = '\'' then
        match closing '\'' (c :: rest) with
        | some (own, rest) => some (own, rest)
        | none => (readLiteralLines rest).map (before c)
      else if isTextChar c || c == '\n' then (readLiteralLines rest).map (before c)
      else none

/-! ## Any text -/

/-- The text without a line break at its front. -/
def dropBreak : List Char → List Char
  | '\n' :: rest => rest
  | s => s

/-- Reads a text that begins with a quote, in the form that the quotes show. -/
def readText : Reader (List Char)
  | '"' :: '"' :: '"' :: rest => readBasicLines (dropBreak rest)
  | '"' :: rest => readBasic rest
  | '\'' :: '\'' :: '\'' :: rest => readLiteralLines (dropBreak rest)
  | '\'' :: rest => readLiteral rest
  | _ => none

end Scad.Toml
