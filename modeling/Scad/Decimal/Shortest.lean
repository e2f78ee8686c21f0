import Scad.Decimal.Binary
import Scad.Decimal.Digits

/-!
# Shortest decimals

The decimal of fewest digits among those that read back to a given magnitude,
and of several with that many digits the nearest. A decimal reads back when it
lies between the two points halfway to the neighbours of the magnitude; those
points themselves read back exactly when the mantissa is even.

The magnitude and the two points are first written over one power of ten, so
that everything after is a comparison of natural numbers.
-/

namespace Scad.Decimal

/-- A magnitude between the ends of its rounding interval, all three times
`10 ^ exponent`. -/
structure Span where
  value : Nat
  lower : Nat
  upper : Nat
  /-- The ends belong to the interval. -/
  closed : Bool
  exponent : Int
deriving DecidableEq, Repr

/-- A quarter of the last binary place is a whole number of units: the power of
two itself where it is whole, and a power of five over a power of ten below that. -/
def Magnitude.span (m : Magnitude) : Span :=
  let quarter := m.exponent - 2
  let unit := if 0 ≤ quarter then Nat.pow 2 quarter.toNat else Nat.pow 5 (-quarter).toNat
  { value := 4 * m.mantissa * unit
    lower := (4 * m.mantissa - if m.narrowBelow then 1 else 2) * unit
    upper := (4 * m.mantissa + 2) * unit
    closed := m.mantissa % 2 == 0
    exponent := min quarter 0 }

namespace Span

/-- The number `n`, in units of the span, reads back to its value. -/
def Holds (s : Span) (n : Nat) : Prop :=
  if s.closed then s.lower ≤ n ∧ n ≤ s.upper else s.lower < n ∧ n < s.upper

instance (s : Span) (n : Nat) : Decidable (s.Holds n) := by
  unfold Holds; infer_instance

/-- The nearer of two multiples of the grid around the value, the upper one on a tie. -/
def nearer (s : Span) (grid below : Nat) : Nat :=
  if 2 * s.value < (2 * below + 1) * grid then below else below + 1

/-- The first hit on the grids of `10 ^ place`, `10 ^ (place - 1)`, and so on
down to single units, where the value itself is a hit. -/
def search (s : Span) (place : Nat) : Digits :=
  let grid := Nat.pow 10 place
  let below := s.value / grid
  let exponent := s.exponent + place
  if s.Holds (below * grid) then
    if s.Holds ((below + 1) * grid) then ⟨s.nearer grid below, exponent⟩
    else ⟨below, exponent⟩
  else if s.Holds ((below + 1) * grid) then ⟨below + 1, exponent⟩
  else
    match place with
    | 0 => ⟨s.value, s.exponent⟩
    | place + 1 => s.search place

/-- The search begins at the least power of ten above the value. -/
def shortest (s : Span) : Digits :=
  s.search (Nat.toDigits 10 s.value).length

end Span

/-- The shortest text of a magnitude. Zero has no digits to choose from. -/
def Magnitude.text (m : Magnitude) : String :=
  if m.mantissa = 0 then "0" else m.span.shortest.positional

end Scad.Decimal
