import Scad.Config

/-!
# File systems

What the generator asks of a file system, and what it does with one: it writes
source files with the directories above them, and it keeps its configuration in
a file.
-/

namespace Scad

class FileSystem (m : Type → Type) where
  /-- The text of a file, if there is one that can be read. -/
  readText? : Path → m (Option String)
  /-- Whether a path leads to a file or a directory. -/
  hasEntry : Path → m Bool
  /-- Creates a directory and those above it, as far as they are missing. The
  answer tells success. -/
  createDirectories : Path → m Bool
  /-- Creates a file or replaces its text. The answer tells success. -/
  writeText : Path → String → m Bool

variable {m : Type → Type} [Monad m] [FileSystem m]

open FileSystem (readText? hasEntry createDirectories writeText)

/-- Goes on if an attempt succeeded. -/
def demand (attempt : m Bool) (failure : Failure) : ExceptT Failure m Unit := do
  unless ← attempt do
    throw failure

namespace SourceFile

/-- Writes a file, and before it the directories above it. -/
def store (file : SourceFile) : ExceptT Failure m Unit := do
  match file.path.parent with
  | none => pure ()
  | some dir =>
      unless dir.isEmpty do
        demand (createDirectories dir) (.cannotCreateDirectory dir)
  demand (writeText file.path file.body) (.cannotWriteFile file.path)

/-- Writes files one after the other. The first failure ends it; what was
written before stays. -/
def storeAll : List SourceFile → ExceptT Failure m Unit
  | [] => pure ()
  | file :: rest => do
      file.store
      storeAll rest

end SourceFile

namespace Config

/-- The file that is looked for where none is named. -/
def standardFile : Path := ⟨"scadgen.toml"⟩

/-- The configuration that a file holds. -/
def ofFile? (path : Path) : ExceptT Failure m Config := do
  match ← (readText? path : m (Option String)) with
  | none => throw (.unreadableConfig path)
  | some text =>
      match ofToml? text with
      | none => throw (.malformedConfig path)
      | some config => return config

/-- The configuration of the standard file if it is there, under the overrides
of the environment. -/
def load? (env : Environment) : ExceptT Failure m Config := do
  let config ← if ← (hasEntry standardFile : m Bool) then ofFile? standardFile else pure standard
  config.override? env

def save (config : Config) (path : Path) : ExceptT Failure m Unit :=
  demand (writeText path config.toToml) (.unwritableConfig path)

end Config

end Scad
