import Scad.Call.Json
import Scad.CommandLine.Report
import Scad.CommandLine.Request
import Scad.Generation
import Scad.Model.Demo

/-!
# The command line

Runs a command under a configuration, and answers with what is printed and the
code to exit with: zero for success, one for a failure, two for a misuse. A
file of configuration that is named stands alone; else the standard file counts
if it is there, under the overrides of the environment.
-/

namespace Scad.CommandLine

structure Outcome where
  exitCode : Nat
  stdout : String
  stderr : String
deriving DecidableEq, Repr

def Outcome.success (stdout : String) : Outcome := ⟨0, stdout, ""⟩

/-- A failure, with what was printed before it. -/
def Outcome.failure (stdout : String) (f : Failure) : Outcome := ⟨1, stdout, Report.failure f⟩

def usage : String := "Usage: scadgen [OPTIONS] <COMMAND>\n"

def versionText : String := "scadgen v0.1.0\n"

/-- What a run has around it. -/
structure Surroundings where
  env : Config.Environment
  isTerminal : Bool

def Surroundings.coloured (s : Surroundings) : Bool := isColoured s.env s.isTerminal

/-! ## Commands -/

/-- The outcome of a name that no demo has. -/
def unknownDemo (coloured : Bool) (name : String) : Outcome :=
  ⟨1, "", Report.error coloured ("Unknown demo: " ++ name) ++ Report.failure (.unknownDemo name)⟩

def listText : String := String.join (Demo.all.map fun d => d.name ++ "\n")

def encode (d : Demo) : Outcome :=
  match d.model.call? with
  | .error fault => .failure "" (.faulty fault)
  | .ok call => .success (call.toJson.pretty ++ "\n")

variable {m : Type → Type} [Monad m] [FileSystem m]

/-- Generates the files of a demo, or only shows them. `clock` tells the time in
microseconds. -/
def demo (coloured : Bool) (clock : m Nat) (config : Config) (d : Demo) (dryRun : Bool) :
    m Outcome := do
  let opening :=
    if config.verbose then
      Report.info coloured ("Rendering " ++ d.name ++ " into " ++ config.outputDir.text)
    else ""
  let start ← clock
  if dryRun then
    match d.model.files? config with
    | .error fault => return .failure opening (.faulty fault)
    | .ok files =>
        let shown := String.join (files.map (Report.contents coloured))
        let stop ← clock
        let closing :=
          if config.verbose then Report.generated coloured d.name files (stop - start) false
          else ""
        return .success (opening ++ shown ++ closing)
  else
    match ← (d.model.generate config).run with
    | .error failure => return .failure opening failure
    | .ok files =>
        let stop ← clock
        return .success (opening ++ Report.generated coloured d.name files (stop - start) true)

def perform (around : Surroundings) (clock : m Nat) (config : Config) : Command → m Outcome
  | .demo name out dryRun =>
      match Demo.ofName? name with
      | none => pure (unknownDemo around.coloured name)
      | some d =>
          let config := { config with outputDir := out.getD config.outputDir }
          demo around.coloured clock config d dryRun
  | .encode name =>
      match Demo.ofName? name with
      | none => pure (unknownDemo around.coloured name)
      | some d => pure (encode d)
  | .list => pure (.success listText)
  | .version => pure (.success versionText)

/-! ## The whole run -/

/-- The configuration that an invocation runs under. -/
def Invocation.config? (env : Config.Environment) (i : Invocation) : ExceptT Failure m Config := do
  let config ← match i.config with
    | some path => Config.ofFile? path
    | none => Config.load? env
  return { config with verbose := config.verbose || i.verbose }

def run (around : Surroundings) (clock : m Nat) (args : List String) : m Outcome := do
  match Request.ofArguments args with
  | .misuse => return ⟨2, "", usage⟩
  | .help => return .success usage
  | .invoke i =>
      match ← (i.config? around.env).run with
      | .error failure => return .failure "" failure
      | .ok config => perform around clock config i.command

end Scad.CommandLine
