import Scad.Call
import Scad.Record

/-!
# The call of a record

The fields of a record are taken in their order into a draft of the call: the
name, the parameters and the children, each as far as a field has given it.
The first fault ends the encoding.
-/

namespace Scad

variable {V : Type}

/-- What the fields so far have given. -/
structure Draft (V : Type) where
  name : Option String
  parameters : SortedMap String V
  children : Option (List (Call V))

namespace Draft

def empty : Draft V := ⟨none, ∅, none⟩

/-- A name field names the call by its text, or by its key if the text is empty. -/
def addName (typeName key : String) (given : Option String) (d : Draft V) :
    Except Fault (Draft V) :=
  if d.name.isSome then .error (.repeatedName typeName key)
  else
    let text := given.getD ""
    .ok { d with name := some (if text = "" then key else text) }

/-- A parameter that is not set leaves no trace, not even of its key. -/
def addParameter (typeName key : String) (s : Setting V) (d : Draft V) : Except Fault (Draft V) :=
  match s.get? with
  | none => .ok d
  | some value =>
      if d.parameters.contains key then .error (.repeatedParameter typeName key)
      else .ok { d with parameters := d.parameters.insert key value }

/-- A call needs a name, and one that is not empty. -/
def finish (typeName : String) (d : Draft V) : Except Fault (Call V) :=
  match d.name with
  | none => .error (.missingName typeName)
  | some name =>
      if name = "" then .error (.missingName typeName)
      else .ok ⟨name, d.parameters, d.children.getD [], none⟩

end Draft

/-- Makes a call the module of a name, or leaves it as it is if the name is empty. -/
def Call.nameModule (name : String) (c : Call V) : Except Fault (Call V) :=
  if name = "" then .ok c else (Identifier.ofString? name).map c.withModule

/-- What the identifier of a component adds to the name of its call. -/
def componentSuffix : String := "_component"

/-- Makes a call the module named after it, unless it is a module already. -/
def Call.nameComponent (c : Call V) : Except Fault (Call V) :=
  if c.isModule then .ok c
  else (Identifier.ofString? (c.name ++ componentSuffix)).map c.withModule

namespace Record

mutual

def encode : Record V → Except Fault (Call V)
  | .absent _ => .error .absentRecord
  | .scalar typeName => .error (.notARecord typeName)
  | .fields typeName list => encodeFields typeName .empty list
  | .custom _ inner => encode inner
  | .named _ name body => do (← encode body).nameModule name
  | .component _ body => do (← encode body).nameComponent
  | .reference body => encode body

/-- Takes fields into a draft and finishes it. -/
def encodeFields (typeName : String) (d : Draft V) :
    List (Field V (Record V)) → Except Fault (Call V)
  | [] => d.finish typeName
  | ⟨ident, rename, .name given⟩ :: rest => do
      encodeFields typeName (← d.addName typeName (fieldKey ident rename) given) rest
  | ⟨ident, rename, .parameter setting⟩ :: rest => do
      encodeFields typeName (← d.addParameter typeName (fieldKey ident rename) setting) rest
  | ⟨ident, rename, .children items⟩ :: rest => do
      if d.children.isSome then .error (.repeatedChildren typeName (fieldKey ident rename))
      else
        let calls ← encodeItems typeName 0 items
        encodeFields typeName { d with children := some calls } rest

/-- The calls of child records, the first of which has the given index. -/
def encodeItems (typeName : String) (index : Nat) :
    List (Record V) → Except Fault (List (Call V))
  | [] => .ok []
  | item :: rest => do
      let call ← (encode item).mapError (.child typeName index)
      return call :: (← encodeItems typeName (index + 1) rest)

end

end Record

end Scad
