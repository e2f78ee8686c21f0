import Scad.CommandLine

/-!
# The program

Runs the command line on the file system and the environment of the process.
-/

namespace Scad.Main

/-- The result of an action, if it does not fail. -/
def attempt? {α : Type} (action : IO α) : IO (Option α) := do
  match ← action.toBaseIO with
  | .ok value => return some value
  | .error _ => return none

def succeeds (action : IO Unit) : IO Bool := return (← attempt? action).isSome

instance : FileSystem IO where
  readText? p := attempt? (IO.FS.readFile p.text)
  hasEntry p := return (← attempt? (IO.FS.realPath p.text)).isSome
  createDirectories p := succeeds (IO.FS.createDirAll p.text)
  writeText p text := succeeds (IO.FS.writeFile p.text text)

/-- The variables of the environment that a run looks at. -/
def observedVariables : List String :=
  [Config.outputDirVariable, Config.indentVariable, Config.verboseVariable, "CLICOLOR_FORCE",
    "NO_COLOR", "CLICOLOR"]

def environment : IO Config.Environment := do
  let values ← observedVariables.mapM fun name => do return (name, ← IO.getEnv name)
  return fun name => (values.lookup name).join

def microseconds : IO Nat := return (← IO.monoNanosNow) / 1000

end Scad.Main

def main (args : List String) : IO UInt32 := do
  let stdout ← IO.getStdout
  let around : Scad.CommandLine.Surroundings :=
    { env := ← Scad.Main.environment, isTerminal := ← stdout.isTty }
  let outcome ← Scad.CommandLine.run around Scad.Main.microseconds args
  IO.print outcome.stdout
  IO.eprint outcome.stderr
  return outcome.exitCode.toUInt32
