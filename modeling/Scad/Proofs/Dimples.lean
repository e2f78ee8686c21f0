import Mathlib.Algebra.Order.Field.Basic
import Mathlib.Algebra.Order.Ring.Abs
import Mathlib.Algebra.Order.Ring.Rat
import Mathlib.Order.Bounds.Basic
import Mathlib.Tactic.FieldSimp
import Mathlib.Tactic.Linarith
import Mathlib.Tactic.LinearCombination
import Mathlib.Tactic.Positivity
import Mathlib.Tactic.Ring
import Scad.Proofs.Chains
import Scad.Proofs.Pieces

/-!
# The hollow in a die

The calls of a die are read as solids over the rational numbers. What is taken from the cube is
a ball, whose surface meets the top face of the cube in a circle of the diameter that was asked
for. The half turn comes after the ball was raised, so the centre of the ball ends up below the
face and not above it: the ball stands out of the face by the depth that was asked for, and
what it leaves in the cube is the larger part of it. The hollow is as deep as it should be
only if the ball is cut in half (`Die.model_hollow`).
-/

namespace Scad

/-! ## Solids -/

/-- A solid as the set of its points. -/
abbrev Solid := Set (Vec3 ℚ)

namespace Solid

def shift (v p : Vec3 ℚ) : Vec3 ℚ := ⟨p.x + v.x, p.y + v.y, p.z + v.z⟩

/-- Half a turn about the first axis. -/
def halfTurn (p : Vec3 ℚ) : Vec3 ℚ := ⟨p.x, -p.y, -p.z⟩

/-- The box around the origin with the given edges. -/
def box (edges : Vec3 ℚ) : Solid :=
  {p | |p.x| ≤ edges.x / 2 ∧ |p.y| ≤ edges.y / 2 ∧ |p.z| ≤ edges.z / 2}

def ball (centre : Vec3 ℚ) (radius : ℚ) : Solid :=
  {p | (p.x - centre.x) ^ 2 + (p.y - centre.y) ^ 2 + (p.z - centre.z) ^ 2 ≤ radius ^ 2}

/-- The surface of a ball. -/
def sphere (centre : Vec3 ℚ) (radius : ℚ) : Solid :=
  {p | (p.x - centre.x) ^ 2 + (p.y - centre.y) ^ 2 + (p.z - centre.z) ^ 2 = radius ^ 2}

def union (parts : List Solid) : Solid := {p | ∃ s ∈ parts, p ∈ s}

theorem union_singleton (s : Solid) : union [s] = s := by
  ext p
  simp [union]

variable {edges centre p : Vec3 ℚ} {radius : ℚ}

theorem mem_ball : p ∈ ball centre radius ↔
    (p.x - centre.x) ^ 2 + (p.y - centre.y) ^ 2 + (p.z - centre.z) ^ 2 ≤ radius ^ 2 := Iff.rfl

theorem image_shift_ball (v centre : Vec3 ℚ) (radius : ℚ) :
    shift v '' ball centre radius = ball (shift v centre) radius := by
  ext p
  constructor
  · rintro ⟨q, hq, rfl⟩
    simpa [mem_ball, shift] using hq
  · intro hp
    refine ⟨⟨p.x - v.x, p.y - v.y, p.z - v.z⟩, ?_, by simp [shift]⟩
    simpa [mem_ball, shift, sub_sub, add_comm] using hp

theorem image_halfTurn_ball (centre : Vec3 ℚ) (radius : ℚ) :
    halfTurn '' ball centre radius = ball (halfTurn centre) radius := by
  have opposite : ∀ a b : ℚ, (-a - b) ^ 2 = (a - -b) ^ 2 := by
    intro a b
    ring
  ext p
  constructor
  · rintro ⟨q, hq, rfl⟩
    rw [mem_ball] at hq ⊢
    rwa [halfTurn, halfTurn, opposite, opposite, neg_neg, neg_neg]
  · intro hp
    rw [mem_ball, halfTurn] at hp
    refine ⟨⟨p.x, -p.y, -p.z⟩, ?_, by simp [halfTurn]⟩
    rwa [mem_ball, opposite, opposite]

/-- The top face of a box. -/
theorem isGreatest_box (x : 0 ≤ edges.x) (y : 0 ≤ edges.y) (z : 0 ≤ edges.z) :
    IsGreatest (Vec3.z '' box edges) (edges.z / 2) := by
  constructor
  · refine ⟨⟨0, 0, edges.z / 2⟩, ⟨?_, ?_, ?_⟩, rfl⟩
    · rw [abs_zero]
      linarith
    · rw [abs_zero]
      linarith
    · rw [abs_of_nonneg (by linarith)]
  · rintro _ ⟨p, hp, rfl⟩
    exact (abs_le.1 hp.2.2).2

theorem abs_z_sub_le (positive : 0 ≤ radius) (hp : p ∈ ball centre radius) :
    |p.z - centre.z| ≤ radius := by
  rw [mem_ball] at hp
  have x := sq_nonneg (p.x - centre.x)
  have y := sq_nonneg (p.y - centre.y)
  exact abs_le_of_sq_le_sq (by linarith) positive

theorem isLeast_ball (positive : 0 ≤ radius) :
    IsLeast (Vec3.z '' ball centre radius) (centre.z - radius) := by
  constructor
  · exact ⟨⟨centre.x, centre.y, centre.z - radius⟩, by simp [ball], rfl⟩
  · rintro _ ⟨p, hp, rfl⟩
    have := (abs_le.1 (abs_z_sub_le positive hp)).1
    linarith

theorem isGreatest_ball (positive : 0 ≤ radius) :
    IsGreatest (Vec3.z '' ball centre radius) (centre.z + radius) := by
  constructor
  · exact ⟨⟨centre.x, centre.y, centre.z + radius⟩, by simp [ball], rfl⟩
  · rintro _ ⟨p, hp, rfl⟩
    have := (abs_le.1 (abs_z_sub_le positive hp)).2
    linarith

/-! ### Caps

A ball of which a cap of a height stands out of a level plane; the cap is as wide as the circle
in which the surface of the ball meets the plane. -/

variable {level height width : ℚ}

theorem mem_sphere_level (cap : 2 * height * radius = height ^ 2 + (width / 2) ^ 2) (x y : ℚ) :
    ⟨x, y, level⟩ ∈ sphere ⟨0, 0, level + height - radius⟩ radius ↔
      x ^ 2 + y ^ 2 = (width / 2) ^ 2 := by
  show (x - 0) ^ 2 + (y - 0) ^ 2 + (level - (level + height - radius)) ^ 2 = radius ^ 2 ↔ _
  constructor
  · intro h
    linear_combination h + cap
  · intro h
    linear_combination h - cap

theorem isGreatest_cap (positive : 0 ≤ radius) :
    IsGreatest (Vec3.z '' ball ⟨0, 0, level + height - radius⟩ radius) (level + height) := by
  have top : IsGreatest (Vec3.z '' ball ⟨0, 0, level + height - radius⟩ radius)
      (level + height - radius + radius) := isGreatest_ball positive
  rwa [sub_add_cancel] at top

/-- How far the ball reaches below the plane: the two heights of the ball multiply to the square
of half the width, as parts of chords that meet do. -/
theorem isLeast_cap (cap : 2 * height * radius = height ^ 2 + (width / 2) ^ 2)
    (raised : 0 < height) (positive : 0 ≤ radius) :
    IsLeast (Vec3.z '' ball ⟨0, 0, level + height - radius⟩ radius)
      (level - (width / 2) ^ 2 / height) := by
  have lowest : level + height - radius - radius = level - (width / 2) ^ 2 / height := by
    field_simp
    linear_combination -4 * cap
  rw [← lowest]
  exact isLeast_ball positive

/-- As much of the ball lies below the plane as above it only if the cap is half of the ball. -/
theorem isLeast_cap_iff (cap : 2 * height * radius = height ^ 2 + (width / 2) ^ 2)
    (raised : 0 < height) (positive : 0 ≤ radius) (wide : 0 ≤ width / 2) :
    IsLeast (Vec3.z '' ball ⟨0, 0, level + height - radius⟩ radius) (level - height) ↔
      height = width / 2 := by
  have bottom : IsLeast _ (level - _) := isLeast_cap cap raised positive
  have deep : IsLeast (Vec3.z '' ball ⟨0, 0, level + height - radius⟩ radius) (level - height) ↔
      (width / 2) ^ 2 / height = height := by
    constructor
    · intro h
      linarith [h.unique bottom]
    · intro h
      rwa [h] at bottom
  rw [deep, div_eq_iff raised.ne', ← sq, sq_eq_sq₀ wide raised.le, eq_comm]

end Solid

/-! ## The solid of a tree of calls -/

namespace Call

def number? (parameters : SortedMap String (Literal ℚ)) (key : String) : Option ℚ :=
  match parameters.get? key with
  | some (.number x) => some x
  | _ => none

def vector? (parameters : SortedMap String (Literal ℚ)) (key : String) : Option (Vec3 ℚ) :=
  match parameters.get? key with
  | some (.vector [.number x, .number y, .number z]) => some ⟨x, y, z⟩
  | _ => none

def isCentered (parameters : SortedMap String (Literal ℚ)) : Bool :=
  match parameters.get? "center" with
  | some (.bool b) => b
  | _ => false

/-- What a call makes of the solids of its children. Of the turns only the half turn about the
first axis is known here, and of the boxes only those around the origin. -/
def shape? (name : String) (parameters : SortedMap String (Literal ℚ)) (parts : List Solid) :
    Option Solid :=
  match name with
  | "cube" => if isCentered parameters then (vector? parameters "size").map Solid.box else none
  | "sphere" => (number? parameters "r").map (Solid.ball ⟨0, 0, 0⟩)
  | "translate" => (vector? parameters "v").map fun v => Solid.shift v '' Solid.union parts
  | "rotate" =>
      if number? parameters "a" = some 180 ∧ vector? parameters "v" = some ⟨1, 0, 0⟩ then
        some (Solid.halfTurn '' Solid.union parts)
      else none
  | "difference" => parts.head?.map fun first => first \ Solid.union parts.tail
  | _ => none

mutual

/-- The solid that a tree of calls describes. -/
def solid? : Call (Literal ℚ) → Option Solid
  | ⟨name, parameters, children, _⟩ => solids? children >>= shape? name parameters

def solids? : List (Call (Literal ℚ)) → Option (List Solid)
  | [] => some []
  | c :: cs => do return (← solid? c) :: (← solids? cs)

end

def sphereCall (r : ℚ) : Call (Literal ℚ) :=
  ⟨"sphere", .insert (.insert ∅ "r" (.number r)) "$fn" (.int 48), [], none⟩

def cubeCall (edges : Vec3 ℚ) : Call (Literal ℚ) :=
  ⟨"cube", .insert (.insert ∅ "size" (Literal.xyz edges)) "center" (.bool true), [], none⟩

def translateCall (v : Vec3 ℚ) (child : Call (Literal ℚ)) : Call (Literal ℚ) :=
  ⟨"translate", .insert ∅ "v" (Literal.xyz v), [child], none⟩

def halfTurnCall (child : Call (Literal ℚ)) : Call (Literal ℚ) :=
  ⟨"rotate", .insert (.insert ∅ "a" (.number 180)) "v" (Literal.xyz ⟨1, 0, 0⟩), [child], none⟩

def differenceCall (first second : Call (Literal ℚ)) : Call (Literal ℚ) :=
  ⟨"difference", ∅, [first, second], none⟩

variable {c d : Call (Literal ℚ)} {s t : Solid}

theorem solid?_sphereCall (r : ℚ) : (sphereCall r).solid? = some (Solid.ball ⟨0, 0, 0⟩ r) := rfl

theorem solid?_cubeCall (edges : Vec3 ℚ) : (cubeCall edges).solid? = some (Solid.box edges) := rfl

theorem solid?_translateCall (v : Vec3 ℚ) (h : c.solid? = some s) :
    (translateCall v c).solid? = some (Solid.shift v '' s) := by
  rw [translateCall, solid?, solids?, h]
  show some (Solid.shift v '' Solid.union [s]) = _
  rw [Solid.union_singleton]

theorem solid?_halfTurnCall (h : c.solid? = some s) :
    (halfTurnCall c).solid? = some (Solid.halfTurn '' s) := by
  rw [halfTurnCall, solid?, solids?, h]
  show some (Solid.halfTurn '' Solid.union [s]) = _
  rw [Solid.union_singleton]

theorem solid?_differenceCall (first : c.solid? = some s) (second : d.solid? = some t) :
    (differenceCall c d).solid? = some (s \ t) := by
  rw [differenceCall, solid?, solids?, solids?, first, second]
  show some (s \ Solid.union [t]) = _
  rw [Solid.union_singleton]

end Call

/-! ## The calls of a die -/

/-- Rational numbers are reckoned with exactly. -/
instance : Scalar ℚ where
  ofNat n := n

theorem Model.encode_within_ok {K : Type} {t : Transformation K} {m : Model K}
    {c d : Call (Literal K)} (outside : Record.encode t.model = .ok c)
    (inside : Record.encode m = .ok d) : Record.encode (m.within t) = .ok (c.push d) := by
  rw [encode_within outside, inside]
  rfl

/-- A name changes a call in its module alone. -/
theorem Call.nameModule_eq_ok {V : Type} {name : String} {c d : Call V}
    (h : c.nameModule name = .ok d) : ∃ m, d = { c with moduleId := m } := by
  rw [nameModule] at h
  split at h
  · cases h
    exact ⟨c.moduleId, by cases c; rfl⟩
  · obtain ⟨m, -, rfl⟩ := map_eq_ok.1 h
    exact ⟨some m, rfl⟩

namespace Dimple

/-- The call of a dimple, without the name of its module. -/
def body (d : Dimple ℚ) : Call (Literal ℚ) :=
  .halfTurnCall (.translateCall ⟨0, 0, d.radius - d.depth⟩ (.sphereCall d.radius))

theorem encode_model (d : Dimple ℚ) (name : IsModuleName d.name) :
    ∃ m, Record.encode d.model = .ok { d.body with moduleId := m } := by
  let sphere : Sphere ℚ := { (default : Sphere ℚ) with r := .of d.radius, fn := .of 48 }
  have ball : Record.encode sphere.model = .ok (.sphereCall d.radius) := rfl
  have raised := Model.encode_within_ok (t := .translate ⟨0, 0, d.radius - d.depth⟩) rfl ball
  have turned := Model.encode_within_ok (t := .rotateAbout 180 ⟨1, 0, 0⟩) rfl raised
  obtain ⟨c, hc⟩ := d.outcome.encodes.2 name
  have named : d.body.nameModule (firstNonEmpty [d.name, "dimple"]) = .ok c := by
    rw [model, Record.encode, bind_eq_ok] at hc
    obtain ⟨c', hc', named⟩ := hc
    rwa [Except.ok.inj (hc'.symm.trans turned)] at named
  obtain ⟨m, rfl⟩ := Call.nameModule_eq_ok named
  exact ⟨m, hc⟩

/-- The ball is raised and then turned over, so it comes to lie below where it was raised to. -/
theorem solid?_body (d : Dimple ℚ) (m : Option Identifier) :
    ({ d.body with moduleId := m } : Call (Literal ℚ)).solid? =
      some (Solid.ball ⟨0, 0, d.depth - d.radius⟩ d.radius) := by
  have raised := Call.solid?_translateCall ⟨0, 0, d.radius - d.depth⟩
    (Call.solid?_sphereCall d.radius)
  have turned := Call.solid?_halfTurnCall raised
  have centre : Solid.halfTurn (Solid.shift ⟨0, 0, d.radius - d.depth⟩ ⟨0, 0, 0⟩) =
      ⟨0, 0, d.depth - d.radius⟩ := by
    simp [Solid.halfTurn, Solid.shift]
  rw [Solid.image_shift_ball, Solid.image_halfTurn_ball, centre] at turned
  exact turned

/-- The relation between the radius, the depth and half the diameter of a cap. -/
theorem radius_mul (d : Dimple ℚ) (depth : 0 < d.depth) :
    2 * d.depth * d.radius = d.depth ^ 2 + (d.diameter / 2) ^ 2 := by
  have quotient : d.radius =
      (d.depth * d.depth + d.diameter / 2 * (d.diameter / 2)) / (2 * d.depth) := rfl
  rw [quotient, mul_div_cancel₀ _ (by positivity)]
  ring

theorem radius_pos (d : Dimple ℚ) (depth : 0 < d.depth) : 0 < d.radius := by
  have product : 0 < 2 * d.depth * d.radius := by
    rw [d.radius_mul depth]
    positivity
  exact pos_of_mul_pos_right product (by positivity)

end Dimple

namespace Die

/-- The call of a die, with the module of its dimple. -/
def call (d : Die ℚ) (m : Option Identifier) : Call (Literal ℚ) :=
  (Call.differenceCall (.cubeCall ⟨d.size, d.size, d.size⟩)
    (.translateCall ⟨0, 0, d.size / 2⟩ { d.dimple.body with moduleId := m })).withModule
      ⟨"die", by decide⟩

theorem encode_model (d : Die ℚ) (name : IsModuleName d.dimple.name) :
    ∃ m, Record.encode d.model = .ok (d.call m) := by
  let cube : Cube ℚ := (Cube.box ⟨d.size, d.size, d.size⟩).centered
  have block : Record.encode cube.model = .ok (.cubeCall ⟨d.size, d.size, d.size⟩) := rfl
  obtain ⟨m, dimple⟩ := d.dimple.encode_model name
  have pip := Model.encode_within_ok (t := .translate ⟨0, 0, d.size / 2⟩) rfl dimple
  have first := Model.encode_within_ok (t := ⟨.difference, []⟩) rfl block
  have both := Model.encode_within_ok (t := ⟨.difference, [cube.model]⟩) first pip
  refine ⟨m, ?_⟩
  rw [model, Record.encode, bind_eq_ok]
  exact ⟨_, both, rfl⟩

/-- The ball of the dimple is raised from the origin to the top face. -/
theorem solid?_pip (d : Die ℚ) (m : Option Identifier) :
    (Call.translateCall ⟨0, 0, d.size / 2⟩ { d.dimple.body with moduleId := m }).solid? =
      some (Solid.ball ⟨0, 0, d.size / 2 + d.dimple.depth - d.dimple.radius⟩ d.dimple.radius) := by
  have moved : Solid.shift ⟨0, 0, d.size / 2⟩ ⟨0, 0, d.dimple.depth - d.dimple.radius⟩ =
      ⟨0, 0, d.size / 2 + d.dimple.depth - d.dimple.radius⟩ := by
    simp only [Solid.shift, Vec3.mk.injEq]
    exact ⟨by ring, by ring, by ring⟩
  rw [Call.solid?_translateCall _ (d.dimple.solid?_body m), Solid.image_shift_ball, moved]

/-- What is taken from the cube is a ball that stands out of the top face by the depth of the
dimple. Its surface meets the face in a circle of the diameter of the dimple, and its lowest
point is as deep as it was asked to be only if the depth is half the diameter. -/
theorem model_hollow (d : Die ℚ) (size : 0 < d.size) (depth : 0 < d.dimple.depth)
    (flat : d.dimple.depth ≤ d.dimple.diameter / 2) (name : IsModuleName d.dimple.name) :
    ∃ call cube pip centre radius, Record.encode d.model = .ok call ∧
      call.name = "difference" ∧ call.children = [cube, pip] ∧
      cube.solid? = some (Solid.box ⟨d.size, d.size, d.size⟩) ∧
      IsGreatest (Vec3.z '' Solid.box ⟨d.size, d.size, d.size⟩) (d.size / 2) ∧
      pip.solid? = some (Solid.ball centre radius) ∧
      call.solid? = some (Solid.box ⟨d.size, d.size, d.size⟩ \ Solid.ball centre radius) ∧
      (∀ x y, ⟨x, y, d.size / 2⟩ ∈ Solid.sphere centre radius ↔
        x ^ 2 + y ^ 2 = (d.dimple.diameter / 2) ^ 2) ∧
      IsGreatest (Vec3.z '' Solid.ball centre radius) (d.size / 2 + d.dimple.depth) ∧
      IsLeast (Vec3.z '' Solid.ball centre radius)
        (d.size / 2 - (d.dimple.diameter / 2) ^ 2 / d.dimple.depth) ∧
      (IsLeast (Vec3.z '' Solid.ball centre radius) (d.size / 2 - d.dimple.depth) ↔
        d.dimple.depth = d.dimple.diameter / 2) := by
  obtain ⟨m, encodes⟩ := d.encode_model name
  have cap := d.dimple.radius_mul depth
  have positive := (d.dimple.radius_pos depth).le
  have block := Call.solid?_cubeCall ⟨d.size, d.size, d.size⟩
  have pip := d.solid?_pip m
  have hollowed := Call.solid?_differenceCall block pip
  have wide : 0 ≤ d.dimple.diameter / 2 := depth.le.trans flat
  exact ⟨_, _, _, _, _, encodes, rfl, rfl, block, Solid.isGreatest_box size.le size.le size.le, pip,
    hollowed, Solid.mem_sphere_level cap, Solid.isGreatest_cap positive,
    Solid.isLeast_cap cap depth positive, Solid.isLeast_cap_iff cap depth positive wide⟩

/-- A die with a dimple that is less deep than half a ball. -/
def shallowDie : Die ℚ := ⟨12, ⟨"", 1, 4⟩⟩

/-- The hollow of the shallow die is four times as deep as it was asked to be. -/
theorem shallowDie_hollow :
    0 < shallowDie.size ∧ 0 < shallowDie.dimple.depth ∧
    shallowDie.dimple.depth ≤ shallowDie.dimple.diameter / 2 ∧
    IsModuleName shallowDie.dimple.name ∧
    ∃ call centre radius, Record.encode shallowDie.model = .ok call ∧
      call.solid? = some (Solid.box ⟨12, 12, 12⟩ \ Solid.ball centre radius) ∧
      (∀ x y, ⟨x, y, 6⟩ ∈ Solid.sphere centre radius ↔ x ^ 2 + y ^ 2 = 4) ∧
      IsLeast (Vec3.z '' Solid.ball centre radius) (6 - 4) ∧
      ¬ IsLeast (Vec3.z '' Solid.ball centre radius) (6 - shallowDie.dimple.depth) := by
  have size : 0 < shallowDie.size := by decide
  have depth : 0 < shallowDie.dimple.depth := by decide
  have flat : shallowDie.dimple.depth ≤ shallowDie.dimple.diameter / 2 := by norm_num [shallowDie]
  have name : IsModuleName shallowDie.dimple.name := fun nonempty => absurd rfl nonempty
  obtain ⟨call, _, _, centre, radius, encodes, -, -, -, -, -, solid, circle, -, bottom, deep⟩ :=
    model_hollow shallowDie size depth flat name
  have face : shallowDie.size / 2 = 6 := by norm_num [shallowDie]
  have width : (shallowDie.dimple.diameter / 2) ^ 2 = 4 := by norm_num [shallowDie]
  have hollow : (4 : ℚ) / shallowDie.dimple.depth = 4 := by norm_num [shallowDie]
  rw [face] at circle bottom deep
  rw [width] at circle bottom
  rw [hollow] at bottom
  exact ⟨size, depth, flat, name, call, centre, radius, encodes, solid, circle, bottom,
    mt deep.1 (by norm_num [shallowDie])⟩

end Die

end Scad
