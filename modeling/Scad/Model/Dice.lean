import Scad.Model.Composition
import Scad.Model.Shape

/-!
# Dice

A dimple is the hollow that a sphere leaves in a face, given by its depth and
by its diameter where it meets the face. A die is a cube with a dimple in its
top face.
-/

namespace Scad

variable {K : Type}

structure Dimple (K : Type) where
  /-- The name of the module, `dimple` if it is empty. -/
  name : String
  depth : K
  diameter : K

structure Die (K : Type) where
  size : K
  dimple : Dimple K

variable [Scalar K] [Inhabited K]

open Scalar (ofNat)

namespace Dimple

def typeName : String := "scadgen::models::dice::Dimple"

omit [Inhabited K] in
/-- The radius of the sphere that is cut by the face. With the depth `h` and half
the diameter `a`, the centre lies `r - h` above the face, so `r ^ 2` is
`a ^ 2 + (r - h) ^ 2`. -/
def radius (d : Dimple K) : K :=
  let half := d.diameter / ofNat 2
  (d.depth * d.depth + half * half) / (ofNat 2 * d.depth)

/-- The sphere raised above the face and turned over. -/
def model (d : Dimple K) : Model K :=
  let sphere : Sphere K := { (default : Sphere K) with r := .of d.radius, fn := .of 48 }
  let body := Model.applyAll sphere.model
    [.translate ⟨ofNat 0, ofNat 0, d.radius - d.depth⟩,
      .rotateAbout (ofNat 180) ⟨ofNat 1, ofNat 0, ofNat 0⟩]
  Record.named typeName (firstNonEmpty [d.name, "dimple"]) body

end Dimple

namespace Die

def typeName : String := "scadgen::models::dice::Die"

omit [Inhabited K] in
/-- A die of a size, with a dimple in proportion. -/
def ofSize (size : K) : Die K := ⟨size, ⟨"", size / ofNat 12, size / ofNat 4⟩⟩

def model (d : Die K) : Model K :=
  let cube := (Cube.box ⟨d.size, d.size, d.size⟩).centered
  let pip := Model.within d.dimple.model (.translate ⟨ofNat 0, ofNat 0, d.size / ofNat 2⟩)
  Record.named typeName "die" (Transformation.model ⟨.difference, [cube.model, pip]⟩)

end Die

end Scad
