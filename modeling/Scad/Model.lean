import Scad.Literal
import Scad.Record.Encode

/-!
# Models

A model is a record whose parameters are literals over some type of numbers.
Its call tree is that of the record with the literals written out.
-/

namespace Scad

variable {K : Type}

abbrev Model (K : Type) := Record (Literal K)

abbrev ModelField (K : Type) := Field (Literal K) (Model K)

/-- The numbers that the dimensions of a model are reckoned with. -/
class Scalar (K : Type) extends Add K, Sub K, Mul K, Div K where
  ofNat : Nat → K

instance : Scalar Float where
  ofNat := Float.ofNat

def Model.call? [Numeral K] (m : Model K) : Except Fault (Call String) :=
  (Record.encode m).map (Call.mapValues Literal.write)

/-! ## Parameter fields -/

def Field.number (ident : String) (s : Setting K) : ModelField K := .parameter ident (s.map .number)

def Field.int (ident : String) (s : Setting Int) : ModelField K := .parameter ident (s.map .int)

def Field.bool (ident : String) (s : Setting Bool) : ModelField K := .parameter ident (s.map .bool)

def Field.text (ident : String) (s : Setting String) : ModelField K :=
  .parameter ident (s.map .text)

def Field.xy (ident : String) (s : Setting (Vec2 K)) : ModelField K :=
  .parameter ident (s.map Literal.xy)

def Field.xyz (ident : String) (s : Setting (Vec3 K)) : ModelField K :=
  .parameter ident (s.map Literal.xyz)

end Scad
