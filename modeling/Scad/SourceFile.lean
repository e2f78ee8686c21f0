import Scad.Module

/-!
# Source files

Each module of a tree is written to a file of its own. The file names the
files of its parts, which lie in directories beside it, defines the module, and
calls it. In the definition a part is a call of its module; every other call is
written out, with its children in braces.
-/

namespace Scad

structure SourceFile where
  path : Path
  body : String
deriving DecidableEq

/-- What one level of calls is indented by, and what the name of an unnamed
root call is completed with to name its module. -/
structure Style where
  indent : String
  suffix : String
deriving DecidableEq

/-! ## Statements -/

def indentation (indent : String) (depth : Nat) : String :=
  String.join (List.replicate depth indent)

namespace Call

mutual

/-- The statement of a call at a depth, written out whether or not it is named. -/
def statement (indent : String) (depth : Nat) : Call String → String
  | ⟨name, parameters, children, moduleId⟩ =>
      let pad := indentation indent depth
      let text := (⟨name, parameters, children, moduleId⟩ : Call String).text
      if children.isEmpty then pad ++ text ++ ";\n"
      else pad ++ text ++ " \x7b\n" ++ statements indent (depth + 1) children ++ pad ++ "\x7d\n"

/-- The statements of the children of a call. -/
def statements (indent : String) (depth : Nat) : List (Call String) → String
  | [] => ""
  | c :: cs =>
      (match c.moduleId with
        | some m => indentation indent depth ++ m.text ++ "();\n"
        | none => statement indent depth c) ++ statements indent depth cs

end

/-- The statement of a call that stands alone. -/
def preview (indent : String) (c : Call String) : String := c.statement indent 0

end Call

/-! ## Files -/

namespace Module

def useLine (m : Identifier) : String :=
  "use <" ++ m.text ++ "/" ++ m.fileName ++ ">\n"

/-- The lines that name the files of the parts, and a blank line behind them. -/
def useBlock (parts : List Identifier) : String :=
  if parts.isEmpty then "" else String.join (parts.map useLine) ++ "\n"

/-- The text of the file of a module. -/
def text (indent : String) (m : Module) : String :=
  useBlock (m.parts.map (·.id)) ++
    "module " ++ m.id.text ++ "() \x7b\n" ++ m.definition.statement indent 1 ++ "\x7d\n\n" ++
      m.id.text ++ "();\n"

mutual

/-- The files of a module and its parts below a directory, its own file first. -/
def files (indent : String) (dir : Path) : Module → List SourceFile
  | ⟨id, definition, parts⟩ =>
      ⟨id.path dir, text indent ⟨id, definition, parts⟩⟩ :: filesOfParts indent dir parts

/-- The files of parts, each below a directory named after it. -/
def filesOfParts (indent : String) (dir : Path) : List Module → List SourceFile
  | [] => []
  | ⟨id, definition, parts⟩ :: rest =>
      files indent (dir.entry id.text) ⟨id, definition, parts⟩ ++ filesOfParts indent dir rest

end

end Module

/-- The files of a call tree below a directory. -/
def Call.files? (style : Style) (dir : Path) (c : Call String) :
    Except Fault (List SourceFile) := do
  let id ← Module.rootId? style.suffix c
  let m ← Module.ofCall? id c
  return m.files style.indent dir

end Scad
