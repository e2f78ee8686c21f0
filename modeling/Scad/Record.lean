import Scad.Setting
import Scad.Text.Lowercase

/-!
# Records

A record describes one call through its fields. A name field gives the name of
the call, a parameter field gives one parameter once its value is set, and a
children field gives the records of the child calls. Other records stand
around a record: one that makes it a module, one that another record takes the
place of, one that only refers to it.
-/

namespace Scad

variable {V : Type}

/-- What a field contributes to the call. Without a given text, a name field
names the call by its key. -/
inductive Role (V R : Type) where
  | name (given : Option String)
  | parameter (setting : Setting V)
  | children (items : List R)

/-- A field by its identifier, with the key that replaces the identifier if
there is one. -/
structure Field (V R : Type) where
  ident : String
  rename : Option String
  role : Role V R

/-- The replacement if it is not empty, else the identifier in lower case. -/
def fieldKey (ident : String) : Option String → String
  | none => Text.lowercase ident
  | some key => if key = "" then Text.lowercase ident else key

inductive Record (V : Type) where
  | absent (typeName : String)
  | scalar (typeName : String)
  | fields (typeName : String) (fields : List (Field V (Record V)))
  /-- Another record takes its place. -/
  | custom (typeName : String) (inner : Record V)
  /-- The body as a module of the given name, or as it is if the name is empty. -/
  | named (typeName name : String) (body : Record V)
  /-- The body as a module named after its call, unless it is a module already. -/
  | component (typeName : String) (body : Record V)
  /-- The body itself, reached through a reference. -/
  | reference (body : Record V)

namespace Field

variable {R : Type}

def name (ident given : String) : Field V R := ⟨ident, none, .name (some given)⟩

/-- A name field whose text is its key. -/
def autoName (ident : String) : Field V R := ⟨ident, none, .name none⟩

def parameter (ident : String) (setting : Setting V) : Field V R :=
  ⟨ident, none, .parameter setting⟩

def children (ident : String) (items : List R) : Field V R := ⟨ident, none, .children items⟩

def renamed (f : Field V R) (key : String) : Field V R := { f with rename := some key }

def key (f : Field V R) : String := fieldKey f.ident f.rename

end Field

/-- The name under which messages speak of a record. -/
def Record.typeName : Record V → String
  | .absent typeName => typeName
  | .scalar typeName => typeName
  | .fields typeName _ => typeName
  | .custom typeName _ => typeName
  | .named typeName _ _ => typeName
  | .component typeName _ => typeName
  | .reference body => body.typeName

end Scad
