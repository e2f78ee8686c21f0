import Scad.Text.Quoted

/-!
# Faults

Why a record has no call tree, or a call tree no files. A fault in a child
record is reported by its parents as well: each level adds the index of the
child that failed, so the indices from the outside in lead to the culprit.
-/

namespace Scad

open Text (quoted)

inductive Fault where
  | absentRecord
  | notARecord (typeName : String)
  | missingName (typeName : String)
  | repeatedName (typeName key : String)
  | repeatedParameter (typeName key : String)
  | repeatedChildren (typeName key : String)
  | child (typeName : String) (index : Nat) (cause : Fault)
  | invalidIdentifier (text : String)
  | conflictingModule (identifier : String)
deriving DecidableEq, Repr

namespace Fault

def message : Fault → String
  | .absentRecord => "attempted to encode a nil record"
  | .notARecord typeName => "attempted to encode non-record value (" ++ typeName ++ ")"
  | .missingName typeName => "record (" ++ typeName ++ ") has no name field"
  | .repeatedName typeName key =>
      "record (" ++ typeName ++ ") has multiple name fields, second is " ++ quoted key
  | .repeatedParameter typeName key =>
      "record (" ++ typeName ++ ") sets parameter " ++ quoted key ++ " more than once"
  | .repeatedChildren typeName key =>
      "record (" ++ typeName ++ ") has multiple children fields, second is " ++ quoted key
  | .child typeName index cause =>
      "child " ++ toString index ++ " of record (" ++ typeName ++ ") failed to encode: " ++
        cause.message
  | .invalidIdentifier text => "invalid identifier " ++ quoted text
  | .conflictingModule identifier => "conflicting definitions for module " ++ quoted identifier

/-- The messages of the fault and of the faults behind it, from the outside in. -/
def messages : Fault → List String
  | .child typeName index cause =>
      (Fault.child typeName index cause).message :: cause.messages
  | fault => [fault.message]

/-- The fault of the innermost record. -/
def root : Fault → Fault
  | .child _ _ cause => cause.root
  | fault => fault

/-- The indices that lead from the outermost record to the innermost. -/
def childPath : Fault → List Nat
  | .child _ index cause => index :: cause.childPath
  | _ => []

end Fault

end Scad
