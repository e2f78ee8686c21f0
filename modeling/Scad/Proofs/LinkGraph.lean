import Scad.Proofs.Linking

/-!
# The graph of the files of a tree

The `use` lines make a graph on the files of a tree (`files?_linkGraph`). Each file
uses what its definition calls and nothing else. What it uses is there, under one
path, and comes later in the list, so no file reaches itself. And no file is there
that is not used, or that is used twice, but for the first, which is not used.
-/

namespace Scad

open Text

/-- The modules that the lines of a definition call, each once, in the order of their
first use. -/
def Call.links (c : Call String) : List Identifier :=
  ((c.lines 1).filterMap Line.link?).eraseDups

namespace SourceFile

/-- The paths that the lines at the beginning name, from the directory of the file. -/
def targets (f : SourceFile) : List Path := f.uses.map f.path.resolve

/-- The file uses the modules that the definition calls, each on a line of its own, with
a blank line behind the last if there is one, and defines the module. -/
structure Defines (indent : String) (f : SourceFile) (id : Identifier) (c : Call String) :
    Prop where
  uses : f.uses = c.links.map (·.target)
  defined : f.module? = some id.text
  body : f.body = unlines
    ((c.links.map fun m => "use <" ++ m.target ++ ">") ++ (if c.links = [] then [] else [""]) ++
      ("module " ++ id.text ++ "() \x7b") ::
        ((c.lines 1).map (Line.text indent) ++ ["\x7d", "", id.text ++ "();"]))

end SourceFile

/-! ## The file of an entry -/

namespace Module

variable {m : Module}

theorem Built.ids_eq_links (h : m.Built) : m.parts.map (·.id) = m.definition.links := by
  rw [h.part_ids, Call.links, Call.links_lines]

theorem Built.file_defines (h : m.Built) (indent : String) (path : Path) :
    SourceFile.Defines indent ⟨path, m.text indent⟩ m.id m.definition where
  uses := by
    rw [uses_text, ← h.ids_eq_links, List.map_map]
    rfl
  defined := module?_text indent path m
  body := by
    rw [← h.ids_eq_links]
    change m.text indent = _
    rw [text_eq_unlines, fileLines, useLines, openingLine, footerLines]

end Module

theorem Entry.targets_file (indent : String) (dir : Path) (e : Entry) :
    (e.file indent dir).targets = e.parts.map (Entry.path dir) := by
  rw [SourceFile.targets, Entry.file, Module.uses_text, Entry.parts, List.map_map, List.map_map]
  exact List.map_congr_left fun p _ => e.resolve_target dir p

namespace Module

/-- What all files together use is all files but the first, each once. -/
theorem targets_perm (indent : String) (dir : Path) (m : Module) :
    ((m.files indent dir).flatMap SourceFile.targets).Perm
      ((m.files indent dir).tail.map (·.path)) := by
  have used : (m.files indent dir).flatMap SourceFile.targets =
      (m.entries.flatMap Entry.parts).map (Entry.path dir) := by
    rw [files_eq, List.flatMap_map, List.map_flatMap]
    exact List.flatMap_congr fun e _ => e.targets_file indent dir
  have paths : (m.files indent dir).tail.map (·.path) = m.entries.tail.map (Entry.path dir) := by
    rw [files_eq, ← List.map_tail, List.map_map]
    rfl
  rw [used, paths]
  exact m.flatMap_parts_perm.map _

theorem Built.count_names {m : Module} (h : m.Built) {indent : String} {dir : Path}
    {g : SourceFile} (hg : g ∈ m.files indent dir) :
    ((m.files indent dir).map (·.path.names)).count g.path.names = 1 :=
  List.count_eq_one_of_mem (h.nodup_file_names indent dir) (List.mem_map_of_mem hg)

theorem Built.count_targets {m : Module} (h : m.Built) {indent : String} {dir : Path}
    {g : SourceFile} (hg : g ∈ (m.files indent dir).tail) :
    (((m.files indent dir).flatMap SourceFile.targets).map Path.names).count g.path.names = 1 := by
  have distinct : ((m.files indent dir).tail.map (·.path.names)).Nodup := by
    rw [List.map_tail]
    exact (h.nodup_file_names indent dir).tail
  rw [((m.targets_perm indent dir).map Path.names).count_eq, List.map_map]
  exact List.count_eq_one_of_mem distinct (List.mem_map_of_mem hg)

/-- Each file that a file uses comes later and defines the module that is meant. -/
theorem target_mem_after {m : Module} {indent : String} {dir : Path}
    {before after : List SourceFile} {f : SourceFile}
    (split : m.files indent dir = before ++ f :: after) :
    ∀ t ∈ f.uses, ∃ id : Identifier, t = id.target ∧
      ∃ g ∈ after, g.path = f.path.resolve t ∧ g.module? = some id.text := by
  rw [files_eq] at split
  obtain ⟨l₁, l₂, entries, -, later⟩ := List.map_eq_append_iff.1 split
  obtain ⟨e, l₃, rfl, rfl, rfl⟩ := List.map_eq_cons_iff.1 later
  intro t ht
  rw [Entry.file, uses_text] at ht
  obtain ⟨p, hp, rfl⟩ := List.mem_map.1 ht
  have in_after := part_mem_after m entries p hp
  refine ⟨p.id, rfl, (e.part p).file indent dir, List.mem_map_of_mem in_after, ?_, ?_⟩
  · exact (e.resolve_target dir p).symm
  · exact module?_text indent _ p

end Module

namespace Call

/-- The lines that use files make a closed graph without cycles. -/
structure LinkGraph (style : Style) (c : Call String) (files : List SourceFile) : Prop where
  /-- Each file belongs to the root or to a named descendant and uses what it calls. -/
  defines : ∀ f ∈ files, ∃ (id : Identifier) (d : Call String), f.Defines style.indent id d ∧
    (id.text = c.rootName style.suffix ∧ d = c ∨ ∃ p ∈ c.descendants, p.id = id ∧ p.call = d)
  /-- A use leads to one file of the list, which comes later and defines what is meant. -/
  leads : ∀ before f after, files = before ++ f :: after → ∀ t ∈ f.uses,
    (files.map (·.path.names)).count (f.path.resolve t).names = 1 ∧
    ∃ id : Identifier, t = id.target ∧
      ∃ g ∈ after, g.path = f.path.resolve t ∧ g.module? = some id.text
  /-- A file that is not the first is led to by one use. -/
  used : ∀ g ∈ files.tail,
    ((files.flatMap SourceFile.targets).map Path.names).count g.path.names = 1

theorem files?_linkGraph {style : Style} {dir : Path} {c : Call String}
    {files : List SourceFile} (h : c.files? style dir = .ok files) :
    LinkGraph style c files := by
  obtain ⟨m, hid, built, rfl, rfl⟩ := exists_module_of_files? h
  refine ⟨?_, ?_, ?_⟩
  · intro f hf
    rw [Module.files_eq] at hf
    obtain ⟨e, he, rfl⟩ := List.mem_map.1 hf
    have defines := (built.of_mem_entries e he).file_defines style.indent (e.path dir)
    refine ⟨e.module.id, e.module.definition, defines, ?_⟩
    rcases built.descendant_of_entry e he with rfl | ⟨p, hp, -, same⟩
    · exact .inl ⟨(rootName_of_rootId? hid).symm, rfl⟩
    · obtain ⟨id, call⟩ := NamedCall.mk.inj same
      exact .inr ⟨p, hp, id, call⟩
  · intro before f after split t ht
    obtain ⟨id, target, g, hg, path, defined⟩ := Module.target_mem_after split t ht
    refine ⟨?_, id, target, g, hg, path, defined⟩
    have listed : g ∈ m.files style.indent dir := by
      rw [split]
      exact List.mem_append_right _ (List.mem_cons_of_mem _ hg)
    rw [← path]
    exact built.count_names listed
  · intro g hg
    exact built.count_targets hg

theorem boxWithLid_linkGraph :
    ∃ files, boxWithLid.files? ⟨"\t", "_component"⟩ ⟨"out"⟩ = .ok files ∧
      LinkGraph ⟨"\t", "_component"⟩ boxWithLid files := by
  obtain ⟨files, h, -⟩ := boxWithLid_files
  exact ⟨files, h, files?_linkGraph h⟩

end Call

end Scad
