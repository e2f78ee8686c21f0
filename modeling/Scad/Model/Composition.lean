import Scad.Model.Transformation

/-!
# Composition

Models are put inside transformations, grouped under a union, and made modules
under a given name or under one that follows from their call.
-/

namespace Scad.Model

variable {K : Type}

def namedTypeName (body : String) : String := "scadgen::compose::Named<" ++ body ++ ">"

def componentTypeName (body : String) : String := "scadgen::compose::Component<" ++ body ++ ">"

/-- The name of the type of a model whose own type is not known. -/
def anyTypeName : String := "alloc::boxed::Box<dyn scadgen::ast::encode::Encode>"

/-! ## Modules -/

/-- The model as a module of a name, inline if the name is empty. -/
def named (m : Model K) (name : String) : Model K := Record.named (namedTypeName anyTypeName) name m

/-- The model as a module named after its call. -/
def component (m : Model K) : Model K := Record.component (componentTypeName anyTypeName) m

/-! ## Transformations around a model -/

/-- The model as the last child of a transformation. -/
def within (m : Model K) (t : Transformation K) : Model K := (t.push m).model

/-- The model inside a stack of transformations, innermost first. -/
def applyAll (m : Model K) (ts : List (Transformation K)) : Model K := ts.foldl within m

/-- What puts a model inside a transformation. -/
def wrapper (t : Transformation K) : Model K → Model K := fun m => m.within t

/-- The model after each of the wrappers in turn. -/
def wrapAll (m : Model K) (wrappers : List (Model K → Model K)) : Model K :=
  wrappers.foldl (fun inner wrap => wrap inner) m

/-! ## Groups -/

/-- The models under a union, which is a module if it has a name that is not empty. -/
def union (items : List (Model K)) (name : Option String) : Model K :=
  let t : Transformation K := ⟨.union, items⟩
  match name with
  | none => t.model
  | some name =>
      if name = "" then t.model
      else Record.named (namedTypeName t.operation.typeName) name t.model

def add (first : Model K) (rest : List (Model K)) : Model K := union (first :: rest) none

def addWithName (name : String) (first : Model K) (rest : List (Model K)) : Model K :=
  union (first :: rest) (some name)

end Scad.Model
