import Scad.Fault
import Scad.Path

/-!
# Failures

Why a command did not do its work. A failure is a chain of messages: the first
says what was attempted, each further one is the reason for the one before. The
reasons that only the operating system or the syntax of a file could give are
not part of the chain.
-/

namespace Scad

open Text (quoted)

inductive Failure where
  | unreadableConfig (path : Path)
  | malformedConfig (path : Path)
  /-- The text of a configuration, of whatever origin, is faulty. -/
  | invalidConfig
  | invalidFlag (name raw flag : String)
  | unwritableConfig (path : Path)
  | cannotRender (typeName : String) (fault : Fault)
  | cannotCreateDirectory (path : Path)
  | cannotWriteFile (path : Path)
  | faulty (fault : Fault)
  | unknownDemo (name : String)
deriving DecidableEq, Repr

namespace Failure

def invalidConfigMessage : String := "Invalid generator configuration"

/-- The messages from the outermost to the innermost. -/
def chain : Failure → List String
  | .unreadableConfig path => ["Failed to read config file: " ++ quoted path.text]
  | .malformedConfig path =>
      ["Failed to parse config file: " ++ quoted path.text, invalidConfigMessage]
  | .invalidConfig => [invalidConfigMessage]
  | .invalidFlag name raw flag =>
      ["Invalid " ++ name ++ ": " ++ quoted raw, "expected a boolean flag, got " ++ quoted flag]
  | .unwritableConfig path => ["Failed to write config file: " ++ quoted path.text]
  | .cannotRender typeName fault => ("Failed to render " ++ typeName) :: fault.messages
  | .cannotCreateDirectory path => ["Failed to create directory: " ++ path.text]
  | .cannotWriteFile path => ["Failed to write SCAD file: " ++ path.text]
  | .faulty fault => fault.messages
  | .unknownDemo name => ["unknown demo " ++ quoted name ++ ", try `scadgen list`"]

def message (f : Failure) : String := f.chain.headD ""

/-- The fault of the model that is behind the failure. -/
def fault? : Failure → Option Fault
  | .cannotRender _ fault => some fault
  | .faulty fault => some fault
  | _ => none

end Failure

end Scad
