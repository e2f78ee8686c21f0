/-!
# Ranges of code points

A character property is held as its closed ranges of code points, in
ascending order and apart. All tables of this library follow version 17 of
the Unicode character database.
-/

namespace Scad.Text

abbrev Ranges := List (Nat × Nat)

/-- Whether a code point lies in one of the ranges. The search stops at the
first range that begins beyond it. -/
def Ranges.contains : Ranges → Nat → Bool
  | [], _ => false
  | (lo, hi) :: rest, n => if n < lo then false else n ≤ hi || Ranges.contains rest n

end Scad.Text
