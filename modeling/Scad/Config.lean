import Scad.Failure
import Scad.Record.Encode
import Scad.SourceFile
import Scad.Text.Blank
import Scad.Toml.Document
import Scad.Toml.Printer

/-!
# Configuration

The settings of a generator: where the files go, how they are indented, how an
unnamed root call is completed to the name of a module, and whether the command
line says more. A configuration is written as TOML. Reading one takes the
defaults for what the text leaves out and passes over keys that are no
settings. Variables of the environment override single settings.
-/

namespace Scad

structure Config where
  outputDir : Path
  indent : String
  suffix : String
  verbose : Bool
deriving DecidableEq, Repr

namespace Config

/-- The current directory, a tab, and few words. -/
def standard : Config := ⟨⟨"."⟩, "\t", componentSuffix, false⟩

def style (c : Config) : Style := ⟨c.indent, c.suffix⟩

/-! ## Text -/

def outputDirKey : String := "output_dir"

def indentKey : String := "indent"

def suffixKey : String := "component_suffix"

def verboseKey : String := "verbose"

/-- The text at a key, or the default if there is no such key. -/
def textAt? (entries : Toml.Entries) (key default : String) : Option String :=
  match entries.lookup key with
  | none => some default
  | some (.value (.text s)) => some s
  | some _ => none

def boolAt? (entries : Toml.Entries) (key : String) (default : Bool) : Option Bool :=
  match entries.lookup key with
  | none => some default
  | some (.value (.bool b)) => some b
  | some _ => none

def ofEntries? (entries : Toml.Entries) : Option Config := do
  let outputDir ← textAt? entries outputDirKey standard.outputDir.text
  let indent ← textAt? entries indentKey standard.indent
  let suffix ← textAt? entries suffixKey standard.suffix
  let verbose ← boolAt? entries verboseKey standard.verbose
  return ⟨⟨outputDir⟩, indent, suffix, verbose⟩

/-- The configuration that a TOML document describes. -/
def ofToml? (s : String) : Option Config := do
  ofEntries? (← Toml.read? s)

def textLine (key value : String) : String := key ++ " = " ++ Toml.writeText value ++ "\n"

def boolLine (key : String) (value : Bool) : String :=
  key ++ " = " ++ (if value then "true" else "false") ++ "\n"

/-- The TOML document of a configuration, with every setting. -/
def toToml (c : Config) : String :=
  textLine outputDirKey c.outputDir.text ++ textLine indentKey c.indent ++
    textLine suffixKey c.suffix ++ boolLine verboseKey c.verbose

/-! ## Environment -/

abbrev Environment := String → Option String

/-- The capitals of ASCII in lower case, other characters unchanged. -/
def lowerLatin (s : String) : String := String.ofList (s.toList.map Char.toLower)

/-- What a flag says, once trimmed and in lower case. -/
def flag? (s : String) : Option Bool :=
  if s ∈ ["1", "true", "yes", "on"] then some true
  else if s ∈ ["0", "false", "no", "off", ""] then some false
  else none

def outputDirVariable : String := "SCADGEN_OUTPUT_DIR"

def indentVariable : String := "SCADGEN_INDENT"

def verboseVariable : String := "SCADGEN_VERBOSE"

/-- The configuration with the settings that the environment overrides. -/
def override? (env : Environment) (c : Config) : Except Failure Config := do
  let c := match env outputDirVariable with
    | none => c
    | some dir => { c with outputDir := ⟨dir⟩ }
  let c := match env indentVariable with
    | none => c
    | some indent => { c with indent := indent }
  match env verboseVariable with
  | none => .ok c
  | some raw =>
      let flag := lowerLatin (Text.trim raw)
      match flag? flag with
      | none => .error (.invalidFlag verboseVariable raw flag)
      | some verbose => .ok { c with verbose := verbose }

end Config

end Scad
