import Scad.Call
import Scad.Json.Printer
import Scad.Json.Reader

/-!
# Call trees as JSON

A call is written as an object with its name, its parameters, its children and
its module, in this order; what is empty is left out. Reading takes the members
in any order and passes over unknown ones. It also takes an array of the four
values, of which those after the name may be missing.
-/

namespace Scad

namespace Call

/-! ## Writing -/

def parametersJson (m : SortedMap String String) : Json :=
  .object (m.entries.map fun e => (e.1, .string e.2))

mutual

def toJson : Call String → Json
  | ⟨name, parameters, children, moduleId⟩ =>
      .object <|
        [("name", .string name)] ++
        (if parameters.isEmpty then [] else [("parameters", parametersJson parameters)]) ++
        (if children.isEmpty then [] else [("children", .array (toJsonAll children))]) ++
        (match moduleId with
          | none => []
          | some m => [("module", .string m.text)])

def toJsonAll : List (Call String) → List Json
  | [] => []
  | c :: cs => toJson c :: toJsonAll cs

end

/-! ## Reading -/

open Json (ReadFault Reader)

/-- An identifier is a string that obeys the rules of identifiers. -/
def readIdentifier : Reader Identifier := fun tokens => do
  let (text, rest) ← Json.readString tokens
  match Identifier.ofString? text with
  | .ok m => return (m, rest)
  | .error fault => .error (.refused fault.message)

def readModule : Reader (Option Identifier)
  | .null :: rest => .ok (none, rest)
  | tokens => do
      let (m, rest) ← readIdentifier tokens
      return (some m, rest)

/-- Sets the value of one parameter. A key that comes again has its last value. -/
def readParameter (key : Option String) (m : SortedMap String String) :
    Reader (SortedMap String String) :=
  match key with
  | none => fun _ => .error .notJson
  | some key => Json.behindColon fun tokens => do
      let (value, rest) ← Json.readString tokens
      return (m.insert key value, rest)

/-- Reads parameters where `room` more levels may be opened. -/
def readParameters (room : Nat) : Reader (SortedMap String String)
  | .openBrace :: rest =>
      if room = 0 then .error .notJson else Json.members readParameter ∅ rest
  | tokens => .error (Json.unexpected tokens)

/-- The members of a call that have been read. -/
structure Members where
  name : Option String
  parameters : Option (SortedMap String String)
  children : Option (List (Call String))
  moduleId : Option (Option Identifier)

def Members.none : Members := ⟨.none, .none, .none, .none⟩

/-- Only the name is needed. -/
def Members.call (d : Members) : Except ReadFault (Call String) :=
  match d.name with
  | .none => .error (.missingField "name")
  | some name =>
      .ok ⟨name, d.parameters.getD ∅, d.children.getD [], d.moduleId.getD .none⟩

/-- Reads one member. A known member that comes again is refused at its key. -/
def readMember (room : Nat) (children : Reader (List (Call String)))
    (key : Option String) (d : Members) : Reader Members := fun tokens =>
  match key with
  | some "name" =>
      if d.name.isSome then .error (.duplicateField "name")
      else do
        let (value, rest) ← Json.behindColon Json.readString tokens
        return ({ d with name := some value }, rest)
  | some "parameters" =>
      if d.parameters.isSome then .error (.duplicateField "parameters")
      else do
        let (value, rest) ← Json.behindColon (readParameters room) tokens
        return ({ d with parameters := some value }, rest)
  | some "children" =>
      if d.children.isSome then .error (.duplicateField "children")
      else do
        let (value, rest) ← Json.behindColon children tokens
        return ({ d with children := some value }, rest)
  | some "module" =>
      if d.moduleId.isSome then .error (.duplicateField "module")
      else do
        let (value, rest) ← Json.behindColon readModule tokens
        return ({ d with moduleId := some value }, rest)
  | some _ => do
      let (_, rest) ← Json.behindColon Json.skip tokens
      return (d, rest)
  | .none => .error .notJson

/-- The call of members up to the closing brace. -/
def readMembers (room : Nat) (children : Reader (List (Call String))) : Reader (Call String) :=
  fun tokens => do
    let (d, rest) ← Json.members (readMember room children) .none tokens
    return (← d.call, rest)

/-- Reads the next value of an array of values if there is one, and goes on. -/
def readNext {α : Type} (value : Reader α) (d : Members) (add : α → Members)
    (go : Members → Reader Members) : Reader Members := fun tokens => do
  let (more, rest) ← Json.nextItem false tokens
  if more then
    let (v, rest) ← value rest
    go (add v) rest
  else return (d, rest)

/-- Reads a call that is written as an array, behind the bracket. -/
def readPositions (room : Nat) (children : Reader (List (Call String))) : Reader (Call String) :=
  fun tokens => do
    let (more, rest) ← Json.nextItem true tokens
    if !more then .error .wrongShape
    let (name, rest) ← Json.readString rest
    let named : Members := { Members.none with name := some name }
    let closed : Members → Reader Members := fun d tokens =>
      match tokens with
      | .closeBracket :: rest => .ok (d, rest)
      | _ => .error .notJson
    let (d, rest) ←
      readNext (readParameters room) named (fun v => { named with parameters := some v })
        (fun d => readNext children d (fun v => { d with children := some v })
          (fun d => readNext readModule d (fun v => { d with moduleId := some v }) closed)) rest
    return (← d.call, rest)

mutual

/-- Reads a call where `room` more levels may be opened. -/
def readCall (room : Nat) : Reader (Call String) := fun tokens =>
  match room, tokens with
  | room + 1, .openBrace :: rest => readMembers room (readChildren room) rest
  | room + 1, .openBracket :: rest => readPositions room (readChildren room) rest
  | 0, .openBrace :: _ => .error .notJson
  | 0, .openBracket :: _ => .error .notJson
  | _, tokens => .error (Json.unexpected tokens)

def readChildren (room : Nat) : Reader (List (Call String)) := fun tokens =>
  match room, tokens with
  | room + 1, .openBracket :: rest => Json.items (readCall room) rest
  | 0, .openBracket :: _ => .error .notJson
  | _, tokens => .error (Json.unexpected tokens)

end

/-- The number of levels of objects and arrays that may be open at once. -/
def maxLevels : Nat := 127

def ofJson? (s : String) : Except ReadFault (Call String) :=
  Json.readAll (readCall maxLevels) s

end Call

def Identifier.ofJson? (s : String) : Except Json.ReadFault Identifier :=
  Json.readAll Call.readIdentifier s

end Scad
