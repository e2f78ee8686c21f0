import Scad.Model

/-!
# Shapes

The solids and the flat shapes that every model is built from. Each of their
settings may be left out. A cube and a square have two settings for the one
parameter `size`, a number or a number for each axis.
-/

namespace Scad

variable {K : Type}

/-! ## Solids -/

structure Cube (K : Type) where
  size : Setting K
  sizeXYZ : Setting (Vec3 K)
  center : Setting Bool
deriving Inhabited

structure Sphere (K : Type) where
  r : Setting K
  d : Setting K
  fn : Setting Int
deriving Inhabited

structure Cylinder (K : Type) where
  h : Setting K
  r : Setting K
  r1 : Setting K
  r2 : Setting K
  d : Setting K
  d1 : Setting K
  d2 : Setting K
  center : Setting Bool
  fn : Setting Int
deriving Inhabited

namespace Cube

def typeName : String := "scadgen::primitives::primitive3d::Cube"

/-- A box by its edges. -/
def box [Inhabited K] (edges : Vec3 K) : Cube K := { (default : Cube K) with sizeXYZ := .of edges }

def centered (c : Cube K) : Cube K := { c with center := c.center.set true }

def model (c : Cube K) : Model K :=
  .fields typeName
    [.autoName "Cube", .number "Size" c.size, (Field.xyz "SizeXYZ" c.sizeXYZ).renamed "size",
      .bool "Center" c.center]

end Cube

namespace Sphere

def typeName : String := "scadgen::primitives::primitive3d::Sphere"

def model (s : Sphere K) : Model K :=
  .fields typeName
    [.autoName "Sphere", .number "R" s.r, .number "D" s.d, (Field.int "Fn" s.fn).renamed "$fn"]

end Sphere

namespace Cylinder

def typeName : String := "scadgen::primitives::primitive3d::Cylinder"

def model (c : Cylinder K) : Model K :=
  .fields typeName
    [.autoName "Cylinder", .number "H" c.h, .number "R" c.r, .number "R1" c.r1,
      .number "R2" c.r2, .number "D" c.d, .number "D1" c.d1, .number "D2" c.d2,
      .bool "Center" c.center, (Field.int "Fn" c.fn).renamed "$fn"]

end Cylinder

/-! ## Flat shapes -/

structure Square (K : Type) where
  size : Setting K
  sizeXY : Setting (Vec2 K)
  center : Setting Bool
deriving Inhabited

structure Circle (K : Type) where
  r : Setting K
  d : Setting K
  fn : Setting Int
deriving Inhabited

structure Lettering (K : Type) where
  text : Setting String
  size : Setting K
  font : Setting String
  halign : Setting String
  valign : Setting String
  spacing : Setting K
deriving Inhabited

namespace Square

def typeName : String := "scadgen::primitives::primitive2d::Square"

def model (s : Square K) : Model K :=
  .fields typeName
    [.autoName "Square", .number "Size" s.size, (Field.xy "SizeXY" s.sizeXY).renamed "size",
      .bool "Center" s.center]

end Square

namespace Circle

def typeName : String := "scadgen::primitives::primitive2d::Circle"

def model (c : Circle K) : Model K :=
  .fields typeName
    [.autoName "Circle", .number "R" c.r, .number "D" c.d, (Field.int "Fn" c.fn).renamed "$fn"]

end Circle

namespace Lettering

def typeName : String := "scadgen::primitives::primitive2d::Text"

def model (l : Lettering K) : Model K :=
  .fields typeName
    [.autoName "Text", .text "Text" l.text, .number "Size" l.size, .text "Font" l.font,
      .text "HAlign" l.halign, .text "VAlign" l.valign, .number "Spacing" l.spacing]

end Lettering

end Scad
