import Scad.FileSystem
import Scad.Model

/-!
# Generation

The whole way from a model to its files, as a configuration asks for it.
-/

namespace Scad.Model

variable {K : Type} [Numeral K]

/-- The files of a model below the output directory. -/
def files? (model : Model K) (config : Config) : Except Fault (List SourceFile) := do
  (← model.call?).files? config.style config.outputDir

variable {m : Type → Type} [Monad m] [FileSystem m]

/-- Writes the files of a model and answers with them. Nothing is written if
there are no files. -/
def generate (model : Model K) (config : Config) : ExceptT Failure m (List SourceFile) := do
  match model.files? config with
  | .error fault => throw (.cannotRender (Record.typeName model) fault)
  | .ok files =>
      SourceFile.storeAll files
      return files

end Scad.Model
