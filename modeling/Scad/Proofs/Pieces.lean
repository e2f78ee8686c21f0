import Scad.Model.Dice
import Scad.Model.Sign
import Scad.Proofs.Outcomes

/-!
# Models of the library

A model that is built from the shapes, the transformations and the compositions of the
library is the model of a tree of pieces (`Piece`). Whether it has a call is seen on the
tree (`Piece.Sound`): no parameter may be set through two settings, and what is to name a
module must be an identifier. Nothing else can go wrong with such a model, and its files
can only be refused for modules in conflict (`Piece.model_outcome`).
-/

namespace Scad

open Record (Outcome Outcomes Basic)

variable {K : Type}

/-! ## Shapes -/

/-- The size is not given in two ways. -/
def Cube.Sound (c : Cube K) : Prop := ¬ (c.size.isSet = true ∧ c.sizeXYZ.isSet = true)

/-- The size is not given in two ways. -/
def Square.Sound (s : Square K) : Prop := ¬ (s.size.isSet = true ∧ s.sizeXY.isSet = true)

theorem Cube.outcome (c : Cube K) : Outcome c.model c.Sound := by
  refine Basic.outcome ?_ typeName
  refine .of_twins [.autoName "Cube"] [.bool "Center" c.center] ⟨"cube", by decide, rfl⟩ rfl rfl ?_
  show ["size", "center"].Nodup
  decide

theorem Sphere.outcome (s : Sphere K) : Outcome s.model True := by
  refine Basic.outcome (.of_distinct ⟨"sphere", by decide, rfl⟩ rfl ?_) typeName
  show ["r", "d", "$fn"].Nodup
  decide

theorem Cylinder.outcome (c : Cylinder K) : Outcome c.model True := by
  refine Basic.outcome (.of_distinct ⟨"cylinder", by decide, rfl⟩ rfl ?_) typeName
  show ["h", "r", "r1", "r2", "d", "d1", "d2", "center", "$fn"].Nodup
  decide

theorem Square.outcome (s : Square K) : Outcome s.model s.Sound := by
  refine Basic.outcome ?_ typeName
  refine .of_twins [.autoName "Square"] [.bool "Center" s.center]
    ⟨"square", by decide, rfl⟩ rfl rfl ?_
  show ["size", "center"].Nodup
  decide

theorem Circle.outcome (c : Circle K) : Outcome c.model True := by
  refine Basic.outcome (.of_distinct ⟨"circle", by decide, rfl⟩ rfl ?_) typeName
  show ["r", "d", "$fn"].Nodup
  decide

theorem Lettering.outcome (l : Lettering K) : Outcome l.model True := by
  refine Basic.outcome (.of_distinct ⟨"text", by decide, rfl⟩ rfl ?_) typeName
  show ["text", "size", "font", "halign", "valign", "spacing"].Nodup
  decide

theorem Cube.outcome_box [Inhabited K] (edges : Vec3 K) (center : Setting Bool) :
    Outcome ({ box edges with center := center }).model True := by
  refine (Cube.outcome _).congr (iff_true_intro ?_)
  rintro ⟨size, -⟩
  contradiction

/-! ## Transformations and compositions -/

/-- No rotation has its angle, and no extrusion its scale, given in two ways. -/
def Operation.Sound : Operation K → Prop
  | .rotate angle angles _ => ¬ (angle.isSet = true ∧ angles.isSet = true)
  | .linearExtrude e => ¬ (e.scale.isSet = true ∧ e.scaleXY.isSet = true)
  | _ => True

theorem Operation.basic (o : Operation K) : Basic o.ownFields o.Sound := by
  cases o with
  | union => exact .of_distinct ⟨"union", by decide, rfl⟩ rfl .nil
  | difference => exact .of_distinct ⟨"difference", by decide, rfl⟩ rfl .nil
  | intersection => exact .of_distinct ⟨"intersection", by decide, rfl⟩ rfl .nil
  | translate v =>
      refine .of_distinct ⟨"translate", by decide, rfl⟩ rfl ?_
      show ["v"].Nodup
      decide
  | rotate angle angles v =>
      refine .of_twins [.autoName "Rotate"] [.xyz "V" v] ⟨"rotate", by decide, rfl⟩ rfl rfl ?_
      show ["a", "v"].Nodup
      decide
  | scale v =>
      refine .of_distinct ⟨"scale", by decide, rfl⟩ rfl ?_
      show ["v"].Nodup
      decide
  | linearExtrude e =>
      refine .of_twins
        [(Field.autoName "linearExtrude").renamed "linear_extrude", .number "Height" e.height,
          .number "Twist" e.twist, .bool "Center" e.center, .int "Slices" e.slices] []
        ⟨"linear_extrude", by decide, rfl⟩ rfl rfl ?_
      show ["height", "twist", "center", "slices", "scale"].Nodup
      decide

namespace Record

variable {m : Model K} {ms : List (Model K)} {P Q : Prop}

theorem Outcomes.transformation (o : Operation K) (hs : Outcomes ms Q) :
    Outcome (Transformation.model ⟨o, ms⟩) (o.Sound ∧ Q) :=
  o.basic.outcome_children hs o.typeName "Children"

theorem Outcome.within (o : Operation K) (h : Outcome m P) (hs : Outcomes ms Q) :
    Outcome (m.within ⟨o, ms⟩) (P ∧ o.Sound ∧ Q) := by
  have outcome : Outcome (m.within ⟨o, ms⟩) (o.Sound ∧ Q ∧ P) := (hs.concat h).transformation o
  refine outcome.congr ?_
  rw [← and_assoc, and_comm]

/-- What puts a model inside a transformation with no other children. -/
theorem Outcome.within_bare {o : Operation K} (h : Outcome m P) (sound : o.Sound) :
    Outcome (m.within o.bare) P :=
  (h.within o .nil).congr (by simp [sound])

theorem Outcome.translate (v : Vec3 K) (h : Outcome m P) : Outcome (m.within (.translate v)) P :=
  h.within_bare trivial

theorem Outcome.rotateAbout [Inhabited K] (angle : K) (axis : Vec3 K) (h : Outcome m P) :
    Outcome (m.within (.rotateAbout angle axis)) P := by
  refine h.within_bare ?_
  rintro ⟨-, angles⟩
  contradiction

theorem Outcome.extrude [Inhabited K] (height : K) (h : Outcome m P) :
    Outcome (m.within (.extrude height)) P := by
  refine h.within_bare ?_
  rintro ⟨scale, -⟩
  contradiction

theorem Outcomes.union (name : Option String) (hs : Outcomes ms Q) :
    Outcome (Model.union ms name) (Q ∧ ∀ given ∈ name, IsModuleName given) := by
  have inline : Outcome (Transformation.model ⟨.union, ms⟩) Q :=
    (hs.transformation .union).congr (and_iff_right trivial)
  cases name with
  | none => exact inline.congr (by simp)
  | some given =>
      rw [Model.union]
      split
      · next empty => exact inline.congr (by simp [IsModuleName, empty])
      · exact (inline.named _ given).congr (by simp)

end Record

/-! ## Pieces -/

mutual

/-- What a model of the library is built from. -/
inductive Piece (K : Type) where
  | cube (c : Cube K)
  | sphere (s : Sphere K)
  | cylinder (c : Cylinder K)
  | square (s : Square K)
  | circle (c : Circle K)
  | lettering (l : Lettering K)
  | transformation (step : Step K)
  | named (body : Piece K) (name : String)
  | component (body : Piece K)
  | boxed (body : Piece K)
  | within (body : Piece K) (step : Step K)
  | apply (body : Piece K) (steps : List (Step K))
  | wrap (body : Piece K) (steps : List (Step K))
  | union (items : List (Piece K)) (name : Option String)
  | add (first : Piece K) (rest : List (Piece K))
  | addWithName (name : String) (first : Piece K) (rest : List (Piece K))
  | dimple (d : Dimple K)
  | die (d : Die K)
  | sign (s : Sign K)

/-- A transformation with the children that it holds before it takes another one. -/
inductive Step (K : Type) where
  | mk (operation : Operation K) (children : List (Piece K))

end

mutual

/-- No parameter is set through two settings, and every name that a module is given is an
identifier, in the piece and in all that it is built from. -/
def Piece.Sound : Piece K → Prop
  | .cube c => c.Sound
  | .square s => s.Sound
  | .sphere _ | .cylinder _ | .circle _ | .lettering _ | .sign _ => True
  | .transformation step => step.Sound
  | .named body name => body.Sound ∧ IsModuleName name
  | .component body => body.Sound
  | .boxed body => body.Sound
  | .within body step => body.Sound ∧ step.Sound
  | .apply body steps => body.Sound ∧ Step.AllSound steps
  | .wrap body steps => body.Sound ∧ Step.AllSound steps
  | .union items name => Piece.AllSound items ∧ ∀ given ∈ name, IsModuleName given
  | .add first rest => first.Sound ∧ Piece.AllSound rest
  | .addWithName name first rest => (first.Sound ∧ Piece.AllSound rest) ∧ IsModuleName name
  | .dimple d => IsModuleName d.name
  | .die d => IsModuleName d.dimple.name

def Piece.AllSound : List (Piece K) → Prop
  | [] => True
  | p :: ps => p.Sound ∧ Piece.AllSound ps

def Step.Sound : Step K → Prop
  | ⟨operation, children⟩ => operation.Sound ∧ Piece.AllSound children

def Step.AllSound : List (Step K) → Prop
  | [] => True
  | step :: steps => step.Sound ∧ Step.AllSound steps

end

variable [Scalar K] [Inhabited K]

mutual

/-- The model that is built from a piece. -/
def Piece.model : Piece K → Model K
  | .cube c => c.model
  | .sphere s => s.model
  | .cylinder c => c.model
  | .square s => s.model
  | .circle c => c.model
  | .lettering l => l.model
  | .transformation step => step.transformation.model
  | .named body name => body.model.named name
  | .component body => body.model.component
  | .boxed body => .reference body.model
  | .within body step => body.model.within step.transformation
  | .apply body steps => body.model.applyAll (Step.transformations steps)
  | .wrap body steps => body.model.wrapAll ((Step.transformations steps).map Model.wrapper)
  | .union items name => Model.union (Piece.models items) name
  | .add first rest => Model.add first.model (Piece.models rest)
  | .addWithName name first rest => Model.addWithName name first.model (Piece.models rest)
  | .dimple d => d.model
  | .die d => d.model
  | .sign s => s.model

def Piece.models : List (Piece K) → List (Model K)
  | [] => []
  | p :: ps => p.model :: Piece.models ps

def Step.transformation : Step K → Transformation K
  | ⟨operation, children⟩ => ⟨operation, Piece.models children⟩

def Step.transformations : List (Step K) → List (Transformation K)
  | [] => []
  | step :: steps => step.transformation :: Step.transformations steps

end

/-! ## Dice and signs -/

theorem Dimple.outcome (d : Dimple K) : Outcome d.model (IsModuleName d.name) := by
  have sphere := Sphere.outcome { (default : Sphere K) with r := .of d.radius, fn := .of 48 }
  have body := (sphere.translate ⟨Scalar.ofNat 0, Scalar.ofNat 0, d.radius - d.depth⟩).rotateAbout
    (Scalar.ofNat 180) ⟨Scalar.ofNat 1, Scalar.ofNat 0, Scalar.ofNat 0⟩
  refine (body.named typeName (firstNonEmpty [d.name, "dimple"])).congr ?_
  rw [isModuleName_firstNonEmpty (by decide), true_and]

theorem Die.outcome (d : Die K) : Outcome d.model (IsModuleName d.dimple.name) := by
  have cube := Cube.outcome_box ⟨d.size, d.size, d.size⟩ (.of true)
  have pip := d.dimple.outcome.translate ⟨Scalar.ofNat 0, Scalar.ofNat 0, d.size / Scalar.ofNat 2⟩
  have body := (Outcomes.cons cube (.cons pip .nil)).transformation .difference
  have die : IsModuleName "die" := fun _ => by decide
  refine (body.named typeName "die").congr ?_
  simp [Operation.Sound, die]

theorem Sign.outcome (s : Sign K) : Outcome s.model True := by
  have sign : IsModuleName "sign" := fun _ => by decide
  have plate (edges : Vec3 K) := Cube.outcome_box edges .unset
  have raised (l : Lettering K) (v : Vec3 K) := (l.outcome.extrude s.height).translate v
  have both (edges : Vec3 K) (l : Lettering K) (v : Vec3 K) :=
    (Outcomes.cons (plate edges) (.cons (raised l v) .nil)).union (some "sign")
  exact ((both _ _ _).congr (by simp [sign])).custom typeName

/-! ## The outcome of a piece -/

mutual

theorem Piece.outcome : ∀ p : Piece K, Outcome p.model p.Sound
  | .cube c => c.outcome
  | .sphere s => s.outcome
  | .cylinder c => c.outcome
  | .square s => s.outcome
  | .circle c => c.outcome
  | .lettering l => l.outcome
  | .transformation ⟨operation, children⟩ => (Piece.outcomes children).transformation operation
  | .named body name => body.outcome.named _ name
  | .component body => body.outcome.component _
  | .boxed body => body.outcome.reference
  | .within body step => step.outcome_within body.outcome
  | .apply body steps => Step.outcome_applyAll steps body.outcome
  | .wrap body steps => by
      have same : body.model.wrapAll ((Step.transformations steps).map Model.wrapper) =
          body.model.applyAll (Step.transformations steps) := List.foldl_map
      rw [Piece.model, Piece.Sound, same]
      exact Step.outcome_applyAll steps body.outcome
  | .union items name => (Piece.outcomes items).union name
  | .add first rest =>
      ((Outcomes.cons first.outcome (Piece.outcomes rest)).union none).congr (by simp [Piece.Sound])
  | .addWithName name first rest =>
      ((Outcomes.cons first.outcome (Piece.outcomes rest)).union (some name)).congr
        (by simp [Piece.Sound])
  | .dimple d => d.outcome
  | .die d => d.outcome
  | .sign s => s.outcome

theorem Piece.outcomes : ∀ ps : List (Piece K), Outcomes (Piece.models ps) (Piece.AllSound ps)
  | [] => .nil
  | p :: ps => .cons p.outcome (Piece.outcomes ps)

theorem Step.outcome_within : ∀ (step : Step K) {m : Model K} {P : Prop}, Outcome m P →
    Outcome (m.within step.transformation) (P ∧ step.Sound)
  | ⟨operation, children⟩, _, _, h => h.within operation (Piece.outcomes children)

theorem Step.outcome_applyAll : ∀ (steps : List (Step K)) {m : Model K} {P : Prop}, Outcome m P →
    Outcome (m.applyAll (Step.transformations steps)) (P ∧ Step.AllSound steps)
  | [], _, _, h => h.congr (and_iff_left trivial).symm
  | step :: steps, _, _, h =>
      (Step.outcome_applyAll steps (step.outcome_within h)).congr (by rw [and_assoc]; rfl)

end

/-- A model of the library has a call exactly if its piece is sound. What is reported
otherwise goes back to a parameter set twice or a text that is no identifier, and the
files of a sound piece are refused only for modules in conflict. -/
theorem Piece.model_outcome [Numeral K] (p : Piece K) :
    (p.model.Encodes ↔ p.Sound) ∧
    (∀ fault, Record.encode p.model = .error fault →
      (∃ typeName key, fault.root = .repeatedParameter typeName key) ∨
        ∃ text, fault.root = .invalidIdentifier text) ∧
    (p.model.Encodes → ∀ config : Config, config.suffix = Config.standard.suffix →
      ∀ fault, p.model.files? config = .error fault → ∃ id, fault = .conflictingModule id) := by
  refine ⟨p.outcome.encodes, p.outcome.misuse, ?_⟩
  intro encodes config suffix fault refused
  exact p.outcome.conflicting_of_files? encodes suffix refused

/-- A label beside a ring, in a module that has the name of the label. -/
def nestedLabel : Piece Float :=
  let letters : Lettering Float := { (default : Lettering Float) with text := .of "A" }
  .addWithName "label" (.named (.lettering letters) "label") [.component (.circle default)]

/-- A die under a rotation by two angles. -/
def unsoundDie : Piece Float :=
  .apply (.die (.ofSize 16)) [⟨.rotate (.of 90) (.of ⟨0, 0, 90⟩) .unset, [.sphere default]⟩]

theorem nestedLabel_outcome :
    nestedLabel.Sound ∧ nestedLabel.model.Encodes ∧
    nestedLabel.model.files? Config.standard = .error (.conflictingModule "label") ∧
    (∃ id, Fault.conflictingModule "label" = .conflictingModule id) ∧
    ¬ unsoundDie.Sound ∧ ∃ fault, Record.encode unsoundDie.model = .error fault ∧
      ((∃ typeName key, fault.root = .repeatedParameter typeName key) ∨
        ∃ text, fault.root = .invalidIdentifier text) := by
  have label : IsModuleName "label" := fun _ => by decide
  have sound : nestedLabel.Sound := ⟨⟨⟨trivial, label⟩, trivial, trivial⟩, label⟩
  obtain ⟨encodes, -, files⟩ := Piece.model_outcome nestedLabel
  let call : Call String := ⟨"union", ∅,
    [⟨"text", .insert ∅ "text" "\"A\"", [], some ⟨"label", by decide⟩⟩,
      ⟨"circle", ∅, [], some ⟨"circle_component", by decide⟩⟩], some ⟨"label", by decide⟩⟩
  have hcall : nestedLabel.model.call? = .ok call := rfl
  have hid : Module.rootId? "_component" call = .ok ⟨"label", by decide⟩ := rfl
  have refused : nestedLabel.model.files? Config.standard =
      .error (.conflictingModule "label") := by
    rw [Model.files?, hcall]
    show call.files? _ _ = _
    rw [Call.files?_of_rootId? hid, Module.ofCall?_eq]
    rfl
  have unsound : ¬ unsoundDie.Sound := by
    rintro ⟨-, ⟨rotation, -⟩, -⟩
    exact rotation ⟨rfl, rfl⟩
  have failed : Record.encode unsoundDie.model =
      .error (.repeatedParameter "scadgen::primitives::transformation::Rotate" "a") := rfl
  exact ⟨sound, encodes.2 sound, refused, files (encodes.2 sound) _ rfl _ refused, unsound,
    _, failed, (Piece.model_outcome unsoundDie).2.1 _ failed⟩

end Scad
