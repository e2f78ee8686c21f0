/-!
# Written JSON

The two written forms of the JSON values that a call tree needs. The compact
form has no blanks. The pretty form puts each member and item on a line of its
own, two spaces deeper than what holds it.
-/

namespace Scad

inductive Json where
  | string (s : String)
  | array (items : List Json)
  | object (members : List (String × Json))

namespace Json

/-! ## Strings -/

/-- Four hexadecimal digits. -/
def unitDigits (n : Nat) : List Char :=
  let digits := Nat.toDigits 16 n
  List.replicate (4 - digits.length) '0' ++ digits

/-- A quote, a backslash and the control characters are escaped. -/
def escapedChar (c : Char) : List Char :=
  match c with
  | '"' => ['\\', '"']
  | '\\' => ['\\', '\\']
  | '\x08' => ['\\', 'b']
  | '\x0c' => ['\\', 'f']
  | '\n' => ['\\', 'n']
  | '\r' => ['\\', 'r']
  | '\t' => ['\\', 't']
  | c => if c.toNat < 0x20 then ['\\', 'u'] ++ unitDigits c.toNat else [c]

def writeString (s : String) : String :=
  String.ofList ('"' :: s.toList.flatMap escapedChar ++ ['"'])

/-! ## The compact form -/

mutual

def compact : Json → String
  | .string s => writeString s
  | .array items => "[" ++ ",".intercalate (compactItems items) ++ "]"
  | .object members => "\x7b" ++ ",".intercalate (compactMembers members) ++ "\x7d"

def compactItems : List Json → List String
  | [] => []
  | item :: items => compact item :: compactItems items

def compactMembers : List (String × Json) → List String
  | [] => []
  | (key, value) :: members =>
      (writeString key ++ ":" ++ compact value) :: compactMembers members

end

/-! ## The pretty form -/

/-- A line break and the indentation of a depth. -/
def newLine (depth : Nat) : String :=
  String.ofList ('\n' :: List.replicate (2 * depth) ' ')

/-- Parts on lines of their own between brackets. -/
def block (depth : Nat) (opening closing : String) (parts : List String) : String :=
  if parts.isEmpty then opening ++ closing
  else
    opening ++ newLine (depth + 1) ++ ("," ++ newLine (depth + 1)).intercalate parts ++
      newLine depth ++ closing

mutual

def prettyAt (depth : Nat) : Json → String
  | .string s => writeString s
  | .array items => block depth "[" "]" (prettyItems (depth + 1) items)
  | .object members => block depth "\x7b" "\x7d" (prettyMembers (depth + 1) members)

def prettyItems (depth : Nat) : List Json → List String
  | [] => []
  | item :: items => prettyAt depth item :: prettyItems depth items

def prettyMembers (depth : Nat) : List (String × Json) → List String
  | [] => []
  | (key, value) :: members =>
      (writeString key ++ ": " ++ prettyAt depth value) :: prettyMembers depth members

end

def pretty (v : Json) : String := prettyAt 0 v

end Json

end Scad
