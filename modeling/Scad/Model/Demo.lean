import Scad.Model.Dice
import Scad.Model.Sign

/-!
# Demo models

The models that the command line knows by name.
-/

namespace Scad

inductive Demo where
  | cube
  | translatedCube
  | dimple
  | die
  | sign
deriving DecidableEq, Repr

namespace Demo

def all : List Demo := [.cube, .translatedCube, .dimple, .die, .sign]

def name : Demo → String
  | .cube => "cube"
  | .translatedCube => "translated-cube"
  | .dimple => "dimple"
  | .die => "die"
  | .sign => "sign"

/-- The demo of a name, in capitals or not. -/
def ofName? (s : String) : Option Demo :=
  all.find? fun d => d.name == Text.lowercase s

def model : Demo → Model Float
  | .cube => (Cube.box ⟨1, 2, 3⟩).model
  | .translatedCube =>
      let cube := Model.component (Cube.box ⟨1, 2, 3⟩).model
      let t : Transformation Float := .translate ⟨1, 2, 3⟩
      Record.component (Model.componentTypeName t.operation.typeName) (cube.within t)
  | .dimple => Dimple.model ⟨"", 1, 4⟩
  | .die => (Die.ofSize 16).model
  | .sign => (Sign.ofText "scadgen").model

end Demo

end Scad
