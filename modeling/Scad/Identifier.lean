import Scad.Text.Alphabetic
import Scad.Text.Numeric
import Scad.Fault
import Scad.Path

/-!
# Module identifiers

An identifier names a module and the file that holds it. It has at least two
characters, begins with a letter, ends in a letter or digit, and holds only
letters, digits and underscores, of any script.
-/

namespace Scad

def isAlphanumeric (c : Char) : Bool := Text.isAlphabetic c || Text.isNumeric c

def isIdentifierChar (c : Char) : Bool := isAlphanumeric c || c == '_'

def IsIdentifier (s : String) : Prop :=
  2 ≤ s.toList.length ∧ s.toList.head?.any Text.isAlphabetic = true ∧
    s.toList.getLast?.any isAlphanumeric = true ∧ s.toList.all isIdentifierChar = true

instance (s : String) : Decidable (IsIdentifier s) := by
  unfold IsIdentifier; infer_instance

structure Identifier where
  text : String
  isIdentifier : IsIdentifier text
deriving DecidableEq

namespace Identifier

def ofString? (s : String) : Except Fault Identifier :=
  if h : IsIdentifier s then .ok ⟨s, h⟩ else .error (.invalidIdentifier s)

instance : ToString Identifier := ⟨text⟩

instance : Ord Identifier := ⟨fun a b => compare a.text b.text⟩

/-- The name of the file that holds the module. -/
def fileName (m : Identifier) : String := m.text ++ ".scad"

/-- Where the module's file lies in a directory. -/
def path (m : Identifier) (dir : Path) : Path := dir.entry m.fileName

end Identifier

/-- The first candidate that is not empty, the empty text if there is none. -/
def firstNonEmpty (candidates : List String) : String :=
  (candidates.find? (· != "")).getD ""

end Scad
