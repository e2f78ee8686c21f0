import Scad.Model

/-!
# Transformations

The calls that act on child calls: the three combinations of solids, the moves,
and the extrusion of a flat shape. A transformation holds the children it was
given, and takes a further one behind them.
-/

namespace Scad

variable {K : Type}

structure LinearExtrude (K : Type) where
  height : Setting K
  twist : Setting K
  center : Setting Bool
  slices : Setting Int
  scale : Setting K
  scaleXY : Setting (Vec2 K)
deriving Inhabited

inductive Operation (K : Type) where
  | union
  | difference
  | intersection
  | translate (v : Setting (Vec3 K))
  /-- By an angle about the axis `v`, or by an angle for each axis. -/
  | rotate (angle : Setting K) (angles v : Setting (Vec3 K))
  | scale (v : Setting (Vec3 K))
  | linearExtrude (extrude : LinearExtrude K)

structure Transformation (K : Type) where
  operation : Operation K
  children : List (Model K)

namespace Operation

def typeName : Operation K → String
  | .union => "scadgen::primitives::boolean::Union"
  | .difference => "scadgen::primitives::boolean::Difference"
  | .intersection => "scadgen::primitives::boolean::Intersection"
  | .translate _ => "scadgen::primitives::transformation::Translate"
  | .rotate _ _ _ => "scadgen::primitives::transformation::Rotate"
  | .scale _ => "scadgen::primitives::transformation::Scale"
  | .linearExtrude _ => "scadgen::primitives::extrude::LinearExtrude"

/-- The name field and the parameter fields. -/
def ownFields : Operation K → List (ModelField K)
  | .union => [.autoName "Union"]
  | .difference => [.autoName "Difference"]
  | .intersection => [.autoName "Intersection"]
  | .translate v => [.autoName "Translate", .xyz "V" v]
  | .rotate angle angles v =>
      [.autoName "Rotate", .number "A" angle, (Field.xyz "AXYZ" angles).renamed "a", .xyz "V" v]
  | .scale v => [.autoName "Scale", .xyz "V" v]
  | .linearExtrude e =>
      [(Field.autoName "linearExtrude").renamed "linear_extrude", .number "Height" e.height,
        .number "Twist" e.twist, .bool "Center" e.center, .int "Slices" e.slices,
        .number "Scale" e.scale, (Field.xy "ScaleXY" e.scaleXY).renamed "scale"]

/-- The transformation with no children yet. -/
def bare (o : Operation K) : Transformation K := ⟨o, []⟩

end Operation

namespace Transformation

def translate (v : Vec3 K) : Transformation K := (Operation.translate (.of v)).bare

def rotateAbout [Inhabited K] (angle : K) (axis : Vec3 K) : Transformation K :=
  (Operation.rotate (.of angle) .unset (.of axis)).bare

def extrude [Inhabited K] (height : K) : Transformation K :=
  (Operation.linearExtrude { (default : LinearExtrude K) with height := .of height }).bare

/-- Takes a further child. -/
def push (t : Transformation K) (child : Model K) : Transformation K :=
  { t with children := t.children ++ [child] }

def model (t : Transformation K) : Model K :=
  .fields t.operation.typeName (t.operation.ownFields ++ [.children "Children" t.children])

end Transformation

end Scad
