import Scad.Model.Composition
import Scad.Model.Shape

/-!
# Signs

A plate with raised letters, wide enough for its text by the number of its
characters.
-/

namespace Scad

structure Sign (K : Type) where
  text : String
  size : K
  height : K

namespace Sign

variable {K : Type} [Scalar K] [Inhabited K]

open Scalar (ofNat)

def typeName : String := "scadgen::models::sign::Sign"

omit [Inhabited K] in
/-- A sign of the usual size. -/
def ofText (text : String) : Sign K := ⟨text, ofNat 10, ofNat 2⟩

def model (s : Sign K) : Model K :=
  let width := s.size * ofNat s.text.length
  let plate := Cube.box ⟨width + s.size, s.size * ofNat 2, ofNat 1⟩
  let letters : Lettering K :=
    { (default : Lettering K) with
      text := .of s.text
      size := .of s.size
      halign := .of "center"
      valign := .of "center" }
  let raised := (Model.within letters.model (.extrude s.height)).within
    (.translate ⟨(width + s.size) / ofNat 2, s.size, ofNat 1⟩)
  .custom typeName (Model.addWithName "sign" plate.model [raised])

end Sign

end Scad
