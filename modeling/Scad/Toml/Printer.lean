import Scad.Toml.Text

/-!
# Writing text in TOML

Of the four forms of a text, the first that can show it as it is: between
double quotes if it has one line and nothing to escape, then between single
quotes, then the two forms with three quotes. A text that none of them can show
is escaped.
-/

namespace Scad.Toml

/-- The length of the longest run of a character, where the run at the front
already has the given length. -/
def longestRun (c : Char) (length : Nat) : List Char → Nat
  | [] => length
  | d :: rest => if d = c then longestRun c (length + 1) rest else max length (longestRun c 0 rest)

/-- A control character other than a tab or a line feed. -/
def needsEscape (c : Char) : Bool := c != '\n' && !isTextChar c

/-! ## Escapes -/

/-- Four hexadecimal digits. -/
def codeDigits (n : Nat) : List Char :=
  let digits := (Nat.toDigits 16 n).map Char.toUpper
  List.replicate (4 - digits.length) '0' ++ digits

def escapedChar (c : Char) : List Char :=
  match c with
  | '\x08' => ['\\', 'b']
  | '\t' => ['\\', 't']
  | '\n' => ['\\', 'n']
  | '\x0c' => ['\\', 'f']
  | '\r' => ['\\', 'r']
  | '"' => ['\\', '"']
  | '\\' => ['\\', '\\']
  | c => if isTextChar c then [c] else ['\\', 'u'] ++ codeDigits c.toNat

/-- The characters between three double quotes, behind `run` quotes that were
not escaped. Line feeds stand for themselves, and so do two quotes in a row. -/
def escapedLines (run : Nat) : List Char → List Char
  | [] => []
  | c :: rest =>
      if c = '\n' then '\n' :: escapedLines 0 rest
      else if c = '"' && run < 2 then '"' :: escapedLines (run + 1) rest
      else escapedChar c ++ escapedLines 0 rest

/-! ## Forms -/

inductive Form where
  | basic
  | literal
  | basicLines
  | literalLines
deriving DecidableEq, Repr

/-- The form in which a text is written. -/
def formOf (s : List Char) : Form :=
  let controls := s.any needsEscape
  let backslashes := s.contains '\\'
  let doubles := longestRun '"' 0 s
  let singles := longestRun '\'' 0 s
  let lines := s.contains '\n'
  if !controls && !backslashes && doubles == 0 && !lines then .basic
  else if !controls && singles == 0 && !lines then .literal
  else if !controls && !backslashes && doubles ≤ 2 then .basicLines
  else if !controls && singles ≤ 2 then .literalLines
  else if lines then .basicLines
  else .basic

/-- A line feed that does not count, where the text has lines. -/
def leadingBreak (s : List Char) : List Char := if s.contains '\n' then ['\n'] else []

def Form.write (form : Form) (s : List Char) : List Char :=
  match form with
  | .basic => '"' :: s.flatMap escapedChar ++ ['"']
  | .literal => '\'' :: s ++ ['\'']
  | .basicLines => ['"', '"', '"'] ++ leadingBreak s ++ escapedLines 0 s ++ ['"', '"', '"']
  | .literalLines => ['\'', '\'', '\''] ++ leadingBreak s ++ s ++ ['\'', '\'', '\'']

def writeText (s : String) : String :=
  String.ofList ((formOf s.toList).write s.toList)

end Scad.Toml
