/-!
# Binary floating-point numbers

A number of 64 bits is taken apart into a sign and a magnitude
`mantissa * 2 ^ exponent`. The gap to the neighbour below is half the gap to
the neighbour above exactly at a power of two above the least exponent.
-/

namespace Scad.Decimal

structure Magnitude where
  mantissa : Nat
  exponent : Int
  /-- The neighbour below is half as far away as the neighbour above. -/
  narrowBelow : Bool
deriving DecidableEq, Repr

inductive Binary where
  | nan
  | infinite (negative : Bool)
  | finite (negative : Bool) (magnitude : Magnitude)
deriving DecidableEq, Repr

namespace Binary

/-- The number whose bits are given, from the sign down to the fraction. -/
def ofBits (bits : Nat) : Binary :=
  let negative := bits / Nat.pow 2 63 % 2 == 1
  let scale := bits / Nat.pow 2 52 % Nat.pow 2 11
  let fraction := bits % Nat.pow 2 52
  if scale = Nat.pow 2 11 - 1 then
    if fraction = 0 then .infinite negative else .nan
  else if scale = 0 then
    .finite negative ⟨fraction, -1074, false⟩
  else
    .finite negative
      ⟨Nat.pow 2 52 + fraction, (scale : Int) - 1075, fraction == 0 && scale > 1⟩

def ofFloat (x : Float) : Binary :=
  ofBits x.toBits.toNat

end Binary

end Scad.Decimal
