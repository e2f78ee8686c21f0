import Scad.CommandLine.Colour

/-!
# Reports

What the command line prints about its work.
-/

namespace Scad.CommandLine.Report

variable (coloured : Bool)

/-! ## Durations -/

/-- A quotient with two places, rounded. -/
def twoPlaces (n unit : Nat) : String :=
  let hundredths := (200 * n + unit) / (2 * unit)
  let places := toString (hundredths % 100)
  toString (hundredths / 100) ++ "." ++ (if places.length < 2 then "0" else "") ++ places

/-- A number of microseconds in a unit that suits it. -/
def duration (micros : Nat) : String :=
  if micros < 1000 then toString micros ++ "µs"
  else if micros < 1000000 then twoPlaces micros 1000 ++ "ms"
  else twoPlaces micros 1000000 ++ "s"

/-! ## Models -/

def rule : String := Ink.grey.paint coloured (String.ofList (List.replicate 80 '━')) ++ "\n"

def fileLine (written : Bool) (file : SourceFile) : String :=
  let mark := if written then Ink.green.paint coloured "✅" else Ink.grey.paint coloured "•"
  let size := "(" ++ toString file.body.utf8ByteSize ++ " bytes)"
  "  " ++ mark ++ " " ++ Ink.cyan.paint coloured file.path.text ++ " " ++
    Ink.grey.paint coloured size ++ "\n"

/-- The files of a model, which have been written or could be. -/
def generated (model : String) (files : List SourceFile) (micros : Nat) (written : Bool) :
    String :=
  "\n" ++ rule coloured ++
    Ink.bold.paint coloured "Model:" ++ " " ++ Ink.cyan.paint coloured model ++ "\n" ++
    rule coloured ++
    String.join (files.map (fileLine coloured written)) ++
    "\n  " ++ Ink.grey.paint coloured "Modules:" ++ " " ++
      Ink.cyan.paint coloured (toString files.length) ++ "\n" ++
    "  " ++ Ink.grey.paint coloured "Time:" ++ " " ++
      Ink.yellow.paint coloured (duration micros) ++ "\n" ++
    rule coloured

/-- A file under a line with its path. -/
def contents (file : SourceFile) : String :=
  Ink.grey.paint coloured "//" ++ " " ++ Ink.grey.paint coloured file.path.text ++ "\n" ++
    file.body ++ "\n"

/-! ## Messages -/

def info (message : String) : String := Ink.blue.paint coloured "ℹ️" ++ " " ++ message ++ "\n"

def error (message : String) : String :=
  "\n" ++ Ink.boldRed.paint coloured "❌ Error:" ++ " " ++ message ++ "\n"

/-- The reasons of a failure, numbered if there are several. -/
def reasons : List String → String
  | [] => ""
  | [reason] => "\n\nCaused by:\n    " ++ reason
  | several =>
      let numbered := several.mapIdx fun i reason => "\n    " ++ toString i ++ ": " ++ reason
      "\n\nCaused by:" ++ String.join numbered

def failure (f : Failure) : String := "Error: " ++ f.message ++ reasons f.chain.tail ++ "\n"

end Scad.CommandLine.Report
