/-!
# Decimal numbers

A number as it is written in base ten: digits, and the power of ten that they
are times. It is read from a text with or without a point and an exponent, and
written without an exponent. A number of 64 bits holds it unless it is too
large, which is decided on natural numbers, without rounding.
-/

namespace Scad.Decimal

/-- The digits of `number`, and the power of ten that they are times. -/
structure Digits where
  number : Nat
  exponent : Int
deriving DecidableEq, Repr

def isDigit (c : Char) : Bool := '0' ≤ c && c ≤ '9'

def isExponentMark (c : Char) : Bool := c == 'e' || c == 'E'

namespace Digits

/-! ## Reading -/

/-- The number that the digits of a text stand for. What is not a digit does not count. -/
def wholeOfText (s : List Char) : Nat :=
  (s.filter isDigit).foldl (fun n c => n * 10 + (c.toNat - '0'.toNat)) 0

/-- The magnitude of a decimal text. Each digit behind the point divides by ten
once more, and the exponent is added with its sign. -/
def ofText (s : List Char) : Digits :=
  let mantissa := s.takeWhile fun c => !isExponentMark c
  let places := (mantissa.dropWhile (· != '.')).filter isDigit
  let power := s.drop (mantissa.length + 1)
  let shift : Int := wholeOfText power
  { number := wholeOfText mantissa
    exponent := (if power.head? == some '-' then -shift else shift) - places.length }

/-! ## Positional notation -/

/-- The decimal without an exponent: zeros fill up to the point, and there is a
point only where digits follow it. -/
def positional (d : Digits) : String :=
  let digits := Nat.toDigits 10 d.number
  let places := (-d.exponent).toNat
  if places = 0 then String.ofList (digits ++ List.replicate d.exponent.toNat '0')
  else
    let padded := List.replicate (places + 1 - digits.length) '0' ++ digits
    let whole := padded.length - places
    String.ofList (padded.take whole ++ '.' :: padded.drop whole)

/-! ## The range of numbers -/

/-- The least number that 64 bits round to infinity: halfway from the greatest
finite number to the power of two above it, where the tie goes up. -/
def overflow : Nat := Nat.pow 2 1024 - Nat.pow 2 970

/-- The number is at least `overflow`. A nonzero number times the 309th power of
ten always is, and a number with no more digits than places is below one, so
that no greater power of ten is worked out. -/
def overflows (d : Digits) : Bool :=
  let power := d.exponent.natAbs
  if 0 ≤ d.exponent then
    d.number != 0 && (309 ≤ power || overflow ≤ d.number * Nat.pow 10 power)
  else
    power < (Nat.toDigits 10 d.number).length && overflow * Nat.pow 10 power ≤ d.number

end Digits

end Scad.Decimal
