import Scad.Decimal.Digits

/-!
# Numbers in TOML

Which texts are integers and floating-point numbers. Underscores may stand
between digits. An integer fits into 64 bits; in front of a number in base ten
there may be a sign, but no leading zero. The infinity is written out: a number
that is too large and not negative is none.
-/

namespace Scad.Toml

open Decimal (Digits isDigit isExponentMark)

def isHexDigit (c : Char) : Bool :=
  isDigit c || ('a' ≤ c && c ≤ 'f') || ('A' ≤ c && c ≤ 'F')

def isOctalDigit (c : Char) : Bool := '0' ≤ c && c ≤ '7'

def isBinaryDigit (c : Char) : Bool := c == '0' || c == '1'

/-- The number that a digit of any base stands for. -/
def digitValue (c : Char) : Nat :=
  if isDigit c then c.toNat - '0'.toNat
  else if 'a' ≤ c then c.toNat - 'a'.toNat + 10
  else c.toNat - 'A'.toNat + 10

/-- The number that digits stand for, with underscores passed over. -/
def digitsValue (base : Nat) (s : List Char) : Nat :=
  (s.filter (· != '_')).foldl (fun n c => n * base + digitValue c) 0

/-- Digits with single underscores between them. -/
def areDigits (digit : Char → Bool) : List Char → Bool
  | [] => false
  | [c] => digit c
  | c :: '_' :: rest => digit c && areDigits digit rest
  | c :: rest => digit c && areDigits digit rest

/-- Digits in base ten without a leading zero. -/
def isWhole (s : List Char) : Bool :=
  areDigits isDigit s && (s.length == 1 || s.head? != some '0')

def isNegative (s : List Char) : Bool := s.head? == some '-'

def withoutSign : List Char → List Char
  | '+' :: rest => rest
  | '-' :: rest => rest
  | s => s

/-! ## Integers -/

def isInteger (s : List Char) : Bool :=
  match s with
  | '0' :: 'x' :: rest => areDigits isHexDigit rest && digitsValue 16 rest < Nat.pow 2 63
  | '0' :: 'o' :: rest => areDigits isOctalDigit rest && digitsValue 8 rest < Nat.pow 2 63
  | '0' :: 'b' :: rest => areDigits isBinaryDigit rest && digitsValue 2 rest < Nat.pow 2 63
  | s =>
      let limit := if isNegative s then Nat.pow 2 63 else Nat.pow 2 63 - 1
      isWhole (withoutSign s) && digitsValue 10 (withoutSign s) ≤ limit

/-! ## Floating-point numbers -/

/-- A number with decimal places or an exponent, or both. -/
def isDecimal (s : List Char) : Bool :=
  let mantissa := (withoutSign s).takeWhile fun c => !isExponentMark c
  let exponent := ((withoutSign s).dropWhile fun c => !isExponentMark c).drop 1
  let whole := mantissa.takeWhile (· != '.')
  let places := (mantissa.dropWhile (· != '.')).drop 1
  let hasPlaces := mantissa.contains '.'
  let hasExponent := s.any isExponentMark
  (hasPlaces || hasExponent) && isWhole whole && (!hasPlaces || areDigits isDigit places) &&
    (!hasExponent || areDigits isDigit (withoutSign exponent)) &&
      (isNegative s || !(Digits.ofText s).overflows)

def isSpecial (s : List Char) : Bool :=
  withoutSign s == ['i', 'n', 'f'] || withoutSign s == ['n', 'a', 'n']

def isNumber (s : List Char) : Bool := isInteger s || isDecimal s || isSpecial s

end Scad.Toml
