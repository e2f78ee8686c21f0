import Scad.Proofs.Directories
import Scad.Proofs.Overrides
import Scad.Proofs.TomlDocuments

/-!
# Saved configurations

A configuration is saved as a document of one pair for each setting. The keys differ, so
the pairs stand together in a table that holds every setting, and the document describes
the configuration (`ofToml?_toToml`). So what was saved is loaded again from its file,
and from the standard file also where no file is named, under no overrides
(`saved_loads`).
-/

namespace Scad

namespace Config

open Toml (PairLine Entries IsBareKey)

/-- The lines of the document of a configuration. -/
def lines (c : Config) : List PairLine :=
  [Toml.textLine outputDirKey c.outputDir.text, Toml.textLine indentKey c.indent,
    Toml.textLine suffixKey c.suffix, Toml.boolLine verboseKey c.verbose]

theorem toList_textLine (key s : String) :
    (textLine key s).toList = (Toml.textLine key s).text := by
  simp [textLine, Toml.textLine, PairLine.text, Toml.writeText]

theorem toList_boolLine (key : String) (b : Bool) :
    (boolLine key b).toList = (Toml.boolLine key b).text := by
  simp [boolLine, Toml.boolLine, PairLine.text]

theorem toList_toToml (c : Config) : c.toToml.toList = Toml.document c.lines := by
  simp [toToml, lines, Toml.document, toList_textLine, toList_boolLine]

theorem reads_lines (c : Config) : ∀ l ∈ c.lines, l.Reads := by
  have outputDir : IsBareKey outputDirKey := ⟨by decide, by decide⟩
  have indent : IsBareKey indentKey := ⟨by decide, by decide⟩
  have suffix : IsBareKey suffixKey := ⟨by decide, by decide⟩
  have verbose : IsBareKey verboseKey := ⟨by decide, by decide⟩
  simp [lines, Toml.reads_textLine, Toml.reads_boolLine, outputDir, indent, suffix, verbose]

/-- The keys of the settings differ, so their pairs can stand together. -/
theorem ofStatements?_lines (c : Config) :
    Entries.ofStatements? (c.lines.map PairLine.statement) = some
      [(outputDirKey, .value (.text c.outputDir.text)), (indentKey, .value (.text c.indent)),
        (suffixKey, .value (.text c.suffix)), (verboseKey, .value (.bool c.verbose))] := by
  rfl

/-- The document of a configuration describes the configuration. -/
theorem ofToml?_toToml (c : Config) : ofToml? c.toToml = some c := by
  rw [ofToml?, Toml.read?_document c.reads_lines c.toList_toToml, ofStatements?_lines]
  rfl

/-! ## Files -/

variable {c : Config} {path : Path} {t t' : FileTree}

/-- A configuration that was saved is read through every path that leads to its file. -/
theorem readText?_of_save (h : (c.save path : FileTree.Action Unit).run t = (.ok (), t'))
    {other : Path} (writable : FileTree.IsWritable other) (way : t.IsWay (t.above other))
    (same : t.place other = t.place path) : t'.readText? other = some c.toToml := by
  obtain ⟨stays, node?⟩ := FileTree.writeText_spec (run_demand_eq_ok.1 h)
  refine FileTree.readText?_eq_some.2 ⟨writable.path, writable.file, stays.isWay_above way, ?_⟩
  rw [FileTree.place_congr stays.workdir, node?, if_pos same]

theorem isWritable_standardFile : FileTree.IsWritable standardFile where
  path := by decide +kernel
  file := by decide +kernel
  creatable := by decide +kernel

/-- Where a path leads to the standard file, there is a way to it from the working directory. -/
theorem isWay_above_standardFile (writable : FileTree.IsWritable path)
    (way : t.IsWay (t.above path)) (same : t.place standardFile = t.place path) :
    t.IsWay (t.above standardFile) := by
  have names : standardFile.names = [standardFile.text] := by decide +kernel
  have begins : t.start standardFile = t.workdir := rfl
  have above : t.above standardFile = [t.workdir] := by
    rw [FileTree.above, names, begins]
    rfl
  have place : t.place standardFile = t.workdir ++ [standardFile.text] := by
    rw [FileTree.place, names, begins]
    rfl
  have mem := writable.dropLast_mem_above t
  rw [← same, place, List.dropLast_concat] at mem
  rw [above]
  exact List.forall_mem_singleton.2 (way _ mem)

theorem ofText?_toToml (c : Config) (path : Path) : ofText? path c.toToml = .ok c := by
  rw [ofText?, ofToml?_toToml]

theorem override?_of_none {env : Environment} (outputDir : env outputDirVariable = none)
    (indent : env indentVariable = none) (verbose : env verboseVariable = none) :
    c.override? env = .ok c := by
  simp [override?, outputDir, indent, verbose]

/-- A configuration that was saved is loaded from its file unchanged. If that is the
standard file, it is loaded also where no file is named, as long as no variable of the
environment overrides a setting. -/
theorem saved_loads (c : Config) (path : Path) (t t' : FileTree)
    (saved : (c.save path : FileTree.Action Unit).run t = (.ok (), t')) :
    (ofFile? path : FileTree.Action Config).run t' = (.ok c, t') ∧
    (t.place standardFile = t.place path → ∀ env : Environment, env outputDirVariable = none →
      env indentVariable = none → env verboseVariable = none →
      (load? env : FileTree.Action Config).run t' = (.ok c, t')) := by
  obtain ⟨writable, way, -⟩ := FileTree.writeText_eq_true.1 (run_demand_eq_ok.1 saved)
  refine ⟨?_, ?_⟩
  · rw [run_ofFile? (readText?_of_save saved writable way rfl), ofText?_toToml]
  · intro same env outputDir indent verbose
    have way' := isWay_above_standardFile writable way same
    rw [run_load? env (readText?_of_save saved isWritable_standardFile way' same), ofText?_toToml]
    show (c.override? env, t') = _
    rw [override?_of_none outputDir indent verbose]

/-- The indent is written as it is, and the other texts with escapes, on one line and on
several. -/
def awkward : Config :=
  ⟨⟨"C:\\\"out\"\x01\x7f"⟩, "\t\\ \"", "\r\n\"\"\"\x0c\n\\é", true⟩

/-- A working directory with nothing in it. -/
def bench : FileTree := ⟨.ofList [(["bench"], .directory)], ["bench"]⟩

/-- The standard file by a longer way. -/
def roundaboutFile : Path := ⟨"../bench/./scadgen.toml"⟩

def savedTree : FileTree := ((awkward.save roundaboutFile : FileTree.Action Unit).run bench).2

theorem awkward_loads :
    (awkward.save roundaboutFile : FileTree.Action Unit).run bench = (.ok (), savedTree) ∧
    (ofFile? roundaboutFile : FileTree.Action Config).run savedTree = (.ok awkward, savedTree) ∧
    (load? fun _ => none : FileTree.Action Config).run savedTree = (.ok awkward, savedTree) := by
  have saved : (awkward.save roundaboutFile : FileTree.Action Unit).run bench =
      (.ok (), savedTree) := Prod.ext (by decide +kernel) rfl
  obtain ⟨named, loaded⟩ := saved_loads awkward roundaboutFile bench savedTree saved
  exact ⟨saved, named, loaded (by decide +kernel) _ rfl rfl rfl⟩

end Config

end Scad
