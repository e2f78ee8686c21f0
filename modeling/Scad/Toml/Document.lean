import Scad.Toml.Date
import Scad.Toml.Table
import Scad.Toml.Text

/-!
# Reading TOML

A document has one statement a line: a key with its value, or the header of a
table. Blank lines and comments may stand anywhere between, also inside an
array. Only the root table of a document is needed, so that is what reading
gives; a document with any fault gives nothing.
-/

namespace Scad.Toml

open Decimal (isDigit)

/-! ## Between the statements -/

/-- A line may end in a carriage return and a line feed, which count as the
latter alone. -/
def normalLines : List Char → List Char
  | '\r' :: '\n' :: rest => '\n' :: normalLines rest
  | c :: rest => c :: normalLines rest
  | [] => []

def skipSpaces (s : List Char) : List Char := s.dropWhile isSpace

/-- The rest behind blanks, a comment and a line break, or nothing at the end. -/
def behindLine (s : List Char) : Option (List Char) :=
  let rest :=
    match skipSpaces s with
    | '#' :: rest => rest.dropWhile isTextChar
    | rest => rest
  match rest with
  | [] => some []
  | '\n' :: rest => some rest
  | _ => none

/-- Passes over blanks, line breaks and comments. -/
def skipLines (inComment : Bool) : List Char → List Char
  | [] => []
  | c :: rest =>
      if c = '\n' then skipLines false rest
      else if inComment then
        if isTextChar c then skipLines true rest else c :: rest
      else if isSpace c then skipLines false rest
      else if c = '#' then skipLines true rest
      else c :: rest

/-! ## Keys -/

def isKeyChar (c : Char) : Bool :=
  ('a' ≤ c && c ≤ 'z') || ('A' ≤ c && c ≤ 'Z') || isDigit c || c == '_' || c == '-'

/-- A key without dots, bare or quoted. -/
def readSimpleKey : Reader String
  | '"' :: rest => do
      let (text, rest) ← readBasic rest
      return (String.ofList text, rest)
  | '\'' :: rest => do
      let (text, rest) ← readLiteral rest
      return (String.ofList text, rest)
  | s =>
      let bare := s.takeWhile isKeyChar
      if bare.isEmpty then none else some (String.ofList bare, s.dropWhile isKeyChar)

/-- A key of at most `room` parts, with blanks around each. -/
def readKey : Nat → Reader Key
  | 0 => fun _ => none
  | room + 1 => fun s => do
      let (part, rest) ← readSimpleKey (skipSpaces s)
      match skipSpaces rest with
      | '.' :: rest => do
          let (key, rest) ← readKey room rest
          return (⟨part :: key.path, key.last⟩, rest)
      | rest => return (⟨[], part⟩, rest)

/-- How many parts a key may have, and how deep arrays and inline tables may lie
in each other. -/
def maxDepth : Nat := 79

/-! ## Values -/

/-- A character of a value without quotes or brackets. -/
def isPlainChar (c : Char) : Bool := isKeyChar c || c == '+' || c == '.' || c == ':'

/-- The text of a value without quotes or brackets. A date may be followed by a
blank and a time. -/
def takePlain (s : List Char) : List Char × List Char :=
  let plain := s.takeWhile isPlainChar
  match s.dropWhile isPlainChar with
  | ' ' :: c :: rest =>
      if isDate plain && isDigit c then
        (plain ++ ' ' :: (c :: rest).takeWhile isPlainChar, (c :: rest).dropWhile isPlainChar)
      else (plain, ' ' :: c :: rest)
  | rest => (plain, rest)

def readPlain : Reader Value := fun s =>
  let (plain, rest) := takePlain s
  if plain == ['t', 'r', 'u', 'e'] then some (.bool true, rest)
  else if plain == ['f', 'a', 'l', 's', 'e'] then some (.bool false, rest)
  else if isNumber plain || isDate plain || isTime plain || isDateTime plain then
    some (.other, rest)
  else none

/-- The items of an array behind its bracket. -/
def skipItems (item : Reader Value) : Nat → List Char → Option (List Char)
  | 0, _ => none
  | fuel + 1, s =>
      match skipLines false s with
      | ']' :: rest => some rest
      | s => do
          let (_, rest) ← item s
          match skipLines false rest with
          | ',' :: rest => skipItems item fuel rest
          | ']' :: rest => some rest
          | _ => none

/-- The pairs of an inline table that has some, behind its brace. -/
def readPairs (item : Reader Value) : Nat → Reader (List (Key × Value))
  | 0 => fun _ => none
  | fuel + 1 => fun s => do
      let (key, rest) ← readKey maxDepth s
      match rest with
      | '=' :: rest => do
          let (v, rest) ← item (skipSpaces rest)
          match skipSpaces rest with
          | ',' :: rest => do
              let (pairs, rest) ← readPairs item fuel rest
              return ((key, v) :: pairs, rest)
          | '}' :: rest => some ([(key, v)], rest)
          | _ => none
      | _ => none

/-- An inline table behind its brace. -/
def skipInlineTable (item : Reader Value) (s : List Char) : Option (List Char) :=
  match skipSpaces s with
  | '}' :: rest => some rest
  | s => do
      let (pairs, rest) ← readPairs item (s.length + 1) s
      if Entries.agree pairs then some rest else none

/-- A value, where `room` more arrays and inline tables may be opened. -/
def readValue (room : Nat) : Reader Value := fun s =>
  match s, room with
  | '[' :: rest, room + 1 => do
      return (.other, ← skipItems (readValue room) (rest.length + 1) rest)
  | '{' :: rest, room + 1 => do
      return (.other, ← skipInlineTable (readValue room) rest)
  | '"' :: _, _ => (readText s).map fun (text, rest) => (.text (String.ofList text), rest)
  | '\'' :: _, _ => (readText s).map fun (text, rest) => (.text (String.ofList text), rest)
  | s, _ => readPlain s

/-! ## Statements -/

def readStatement : Reader Statement
  | '[' :: '[' :: rest => do
      let (key, rest) ← readKey maxDepth rest
      match rest with
      | ']' :: ']' :: rest => return (.tables key, rest)
      | _ => none
  | '[' :: rest => do
      let (key, rest) ← readKey maxDepth rest
      match rest with
      | ']' :: rest => return (.table key, rest)
      | _ => none
  | s => do
      let (key, rest) ← readKey maxDepth s
      match rest with
      | '=' :: rest => do
          let (v, rest) ← readValue maxDepth (skipSpaces rest)
          return (.pair key v, rest)
      | _ => none

/-- The statements of a text that has fewer lines than `fuel`. -/
def statementsFrom? : Nat → List Char → Option (List Statement)
  | 0, _ => none
  | fuel + 1, s =>
      match skipSpaces s with
      | [] => some []
      | '\n' :: rest => statementsFrom? fuel rest
      | '#' :: rest => do statementsFrom? fuel (← behindLine ('#' :: rest))
      | s => do
          let (statement, rest) ← readStatement s
          return statement :: (← statementsFrom? fuel (← behindLine rest))

def statements? (s : List Char) : Option (List Statement) := statementsFrom? (s.length + 1) s

/-- A mark of the byte order may stand at the front. -/
def withoutMark : List Char → List Char
  | '\uFEFF' :: rest => rest
  | s => s

/-- The root table of a document. -/
def read? (s : String) : Option Entries := do
  Entries.ofStatements? (← statements? (normalLines (withoutMark s.toList)))

end Scad.Toml
