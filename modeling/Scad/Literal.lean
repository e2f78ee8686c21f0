import Scad.Decimal.Shortest

/-!
# Literals

The values that a parameter of a call can have, and how each is written. A
number is written positionally with the fewest digits that read back to it;
there is no literal for an infinity or for an undefined number, so these are
written as the divisions that produce them.
-/

namespace Scad

variable {K : Type}

/-- Numbers that have a written form. -/
class Numeral (K : Type) where
  numeral : K → String

structure Vec2 (K : Type) where
  x : K
  y : K
deriving BEq, DecidableEq, Inhabited, Repr

structure Vec3 (K : Type) where
  x : K
  y : K
  z : K
deriving BEq, DecidableEq, Inhabited, Repr

inductive Literal (K : Type) where
  | int (n : Int)
  | number (x : K)
  | bool (b : Bool)
  | text (s : String)
  | vector (items : List (Literal K))

namespace Literal

def xy (v : Vec2 K) : Literal K := .vector [.number v.x, .number v.y]

def xyz (v : Vec3 K) : Literal K := .vector [.number v.x, .number v.y, .number v.z]

/-! ## Writing -/

/-- A quote, a backslash and the three common blanks are written behind a
backslash, every other character stands for itself. -/
def escapedChar (c : Char) : List Char :=
  match c with
  | '"' => ['\\', '"']
  | '\\' => ['\\', '\\']
  | '\n' => ['\\', 'n']
  | '\t' => ['\\', 't']
  | '\r' => ['\\', 'r']
  | c => [c]

def writeText (s : String) : String :=
  String.ofList ('"' :: s.toList.flatMap escapedChar ++ ['"'])

variable [Numeral K]

mutual

def write : Literal K → String
  | .int n => toString n
  | .number x => Numeral.numeral x
  | .bool b => if b then "true" else "false"
  | .text s => writeText s
  | .vector items => "[" ++ ", ".intercalate (writeAll items) ++ "]"

def writeAll : List (Literal K) → List String
  | [] => []
  | item :: items => write item :: writeAll items

end

end Literal

/-! ## Floating-point numbers -/

def Decimal.Binary.write : Decimal.Binary → String
  | .nan => "0/0"
  | .infinite negative => if negative then "-1/0" else "1/0"
  | .finite negative magnitude => (if negative then "-" else "") ++ magnitude.text

instance : Numeral Float where
  numeral x := (Decimal.Binary.ofFloat x).write

end Scad
