import Scad.Proofs.Capture
import Scad.Proofs.Reading

/-!
# Linking the files of a tree

Files are linked by the rule that a file sees the modules of the files it uses: a
call of such a module stands for the statements that define it, which are read from
the file that the `use` line names. Linking from the first file of a tree gives the
tree back without the identifiers on it (`files?_link`). What one file contributes
is its definition down to the first named calls (`expand?_written`); the named calls
themselves are linked first, by induction on the number of files below.
-/

namespace Scad

open Text

/-! ## The rule -/

/-- What a line that uses the module of a name must say. -/
def targetOf (id : String) : String := id ++ "/" ++ id ++ ".scad"

namespace Outline

/-- The module that a statement calls, if the file uses it: a name, `()`, no children. -/
def called? (uses : List String) : Outline → Option String
  | .node text [] => (between? "" "()" text).filter fun id => decide (targetOf id ∈ uses)
  | _ => none

mutual

/-- Puts what `load` gives in the place of each call of a module that is used. -/
def expand? (uses : List String) (load : String → Option (List Outline)) :
    Outline → Option (List Outline)
  | .node text children =>
      match called? uses (.node text children) with
      | some id => load id
      | none => (expandAll? uses load children).map fun inner => [.node text inner]

def expandAll? (uses : List String) (load : String → Option (List Outline)) :
    List Outline → Option (List Outline)
  | [] => some []
  | o :: os => do return (← expand? uses load o) ++ (← expandAll? uses load os)

end

end Outline

/-- The statements of the module of a name, defined in the file at a path, with all calls
of modules that are used replaced. Chains of files longer than `fuel` are refused. -/
def link? (indent : String) (files : List SourceFile) :
    (fuel : Nat) → (path : Path) → (id : String) → Option (List Outline)
  | 0, _, _ => none
  | fuel + 1, path, id => do
      let file ← files.find? (·.path = path)
      let reading ← file.read? indent
      if reading.id = id then
        Outline.expandAll? reading.uses
          (fun used => link? indent files fuel (path.resolve (targetOf used)) used)
          reading.statements
      else none

/-- The statements of the module that the first file defines. No chain of different
files is longer than the list of all. -/
def linkFirst? (indent : String) : List SourceFile → Option (List Outline)
  | [] => none
  | first :: rest => do
      link? indent (first :: rest) (rest.length + 1) first.path (← first.module?)

namespace Call

mutual

/-- The tree with the text of each call, whatever is a module in it. -/
def outline : Call String → Outline
  | ⟨name, parameters, children, moduleId⟩ =>
      .node (⟨name, parameters, children, moduleId⟩ : Call String).text (outlineAll children)

def outlineAll : List (Call String) → List Outline
  | [] => []
  | c :: cs => outline c :: outlineAll cs

end

end Call

/-! ## Calls of modules -/

theorem targetOf_text (m : Identifier) : targetOf m.text = m.target := by
  rw [targetOf, Identifier.target, Identifier.fileName, String.append_assoc]

theorem targetOf_eq_target {id : String} {m : Identifier} (h : targetOf id = m.target) :
    id = m.text := by
  have chars := congrArg String.toList h.symm
  rw [← targetOf_text, targetOf, targetOf] at chars
  simp only [String.toList_append, List.append_assoc] at chars
  have after : '/' ∉ m.text.toList ++ ".scad".toList := by
    rw [List.mem_append, not_or]
    exact ⟨m.slash_not_mem, by decide⟩
  obtain ⟨same, -, -⟩ := (List.append_cons_inj_of_notMem m.slash_not_mem after).1 chars
  exact String.toList_inj.1 same.symm

/-- No other call is written like the call of a module. -/
theorem Call.name_eq_of_text_eq {c : Call String} {m : Identifier} (h : c.text = m.text ++ "()") :
    c.name = m.text := by
  have chars := congrArg String.toList h.symm
  rw [Call.text] at chars
  simp only [String.toList_append, List.append_assoc] at chars
  have before : '(' ∉ m.text.toList := m.not_mem_text (by decide)
  have after : '(' ∉ [')'] := by decide
  obtain ⟨same, -, -⟩ := (List.append_cons_inj_of_notMem before after).1 chars
  exact String.toList_inj.1 same.symm

namespace Outline

theorem called?_of_used {uses : List String} {m : Identifier} (h : m.target ∈ uses) :
    called? uses (.node (m.text ++ "()") []) = some m.text := by
  have name : between? "" "()" (m.text ++ "()") = some m.text :=
    between?_eq_some_iff.2 (by rw [String.empty_append])
  rw [called?, name, Option.filter_some, targetOf_text]
  simp only [h, decide_true, if_true]

/-- A call that bears no name of a used module is not taken for a call of one. -/
theorem called?_of_apart {c : Call String} {used : List Identifier}
    (apart : ∀ m ∈ used, c.name ≠ m.text) (children : List Outline) :
    called? (used.map (·.target)) (.node c.text children) = none := by
  cases children with
  | cons o os => rfl
  | nil =>
      rw [called?, Option.filter_eq_none_iff]
      intro id hid listed
      obtain ⟨m, hm, same⟩ := List.mem_map.1 (of_decide_eq_true listed)
      rw [targetOf_eq_target same.symm] at hid
      have text := between?_eq_some_iff.1 hid
      rw [String.empty_append] at text
      exact apart m hm (Call.name_eq_of_text_eq text.symm)

end Outline

/-! ## The statements of one file -/

theorem link?_of_read {indent id : String} {files : List SourceFile} {fuel : Nat} {path : Path}
    {file : SourceFile} {reading : Reading} (found : files.find? (·.path = path) = some file)
    (read : file.read? indent = some reading) (own : reading.id = id) :
    link? indent files (fuel + 1) path id =
      Outline.expandAll? reading.uses
        (fun used => link? indent files fuel (path.resolve (targetOf used)) used)
        reading.statements := by
  rw [link?, found]
  change (file.read? indent >>= fun reading => _) = _
  rw [read]
  exact if_pos own

theorem Outline.expandAll?_singleton (uses : List String)
    (load : String → Option (List Outline)) (o : Outline) :
    expandAll? uses load [o] = expand? uses load o := by
  rw [expandAll?]
  cases expand? uses load o with
  | none => rfl
  | some first =>
      change some (first ++ []) = some first
      rw [List.append_nil]

section Expand

open Call

variable {used : List Identifier} (load : String → Option (List Outline))

mutual

/-- Named calls are linked to what they are; the other calls stay. -/
theorem expand?_written : ∀ {c : Call String},
    (∀ d ∈ c.inlineCalls, ∀ m ∈ used, d.name ≠ m.text) →
    (∀ n ∈ c.frontier, n.id ∈ used ∧ load n.id.text = some [n.call.outline]) →
      c.written.expand? (used.map (·.target)) load = some [c.outline]
  | ⟨name, parameters, children, moduleId⟩, apart, linked => by
      rw [inlineCalls, List.forall_mem_cons] at apart
      rw [Call.frontier] at linked
      rw [written, outline, Outline.expand?, Outline.called?_of_apart apart.1,
        expandAll?_writtenAll apart.2 linked]
      rfl

theorem expandAll?_writtenAll : ∀ {cs : List (Call String)},
    (∀ d ∈ inlineCallsAll cs, ∀ m ∈ used, d.name ≠ m.text) →
    (∀ n ∈ frontierAll cs, n.id ∈ used ∧ load n.id.text = some [n.call.outline]) →
      Outline.expandAll? (used.map (·.target)) load (writtenAll cs) = some (outlineAll cs)
  | [], _, _ => rfl
  | c :: cs, apart, linked => by
      rw [inlineCallsAll, List.forall_mem_append] at apart
      rw [frontierAll, List.forall_mem_append] at linked
      have rest := expandAll?_writtenAll apart.2 linked.2
      rw [writtenAll, outlineAll, Outline.expandAll?, rest]
      cases hm : c.moduleId with
      | some m =>
          rw [hm] at linked
          -- The statement of a named child is the call of a module that is used.
          obtain ⟨listed, loaded⟩ := linked.1 _ (List.mem_singleton_self _)
          rw [Outline.expand?, Outline.called?_of_used (List.mem_map_of_mem listed)]
          change (load m.text >>= fun first => _) = _
          rw [loaded]
          rfl
      | none =>
          rw [hm] at apart linked
          rw [expand?_written apart.1 linked.1]
          rfl

end

end Expand

/-! ## The files of a tree -/

namespace Module

theorem Built.newlineFree_of_mem_entries : ∀ {m : Module}, m.Built → m.definition.NewlineFree →
    ∀ e ∈ m.entries, e.module.definition.NewlineFree := by
  apply induction
  intro m ih h free e he
  rcases mem_entries.1 he with rfl | ⟨p, hp, e', he', rfl⟩
  · exact free
  · exact ih p hp (h.part hp) (free.of_mem_frontier (h.named_mem_frontier hp)) e' he'

theorem Built.find?_path {m : Module} (h : m.Built) (indent : String) (dir : Path) {e : Entry}
    (he : e ∈ m.entries) :
    (m.files indent dir).find? (·.path = e.path dir) = some (e.file indent dir) := by
  rw [files_eq]
  cases found : (m.entries.map (Entry.file indent dir)).find? (·.path = e.path dir) with
  | none =>
      have absent := List.find?_eq_none.1 found _ (List.mem_map_of_mem he)
      exact absurd rfl (of_decide_eq_false (Bool.not_eq_true _ ▸ absent))
  | some f =>
      obtain ⟨e', he', rfl⟩ := List.mem_map.1 (List.mem_of_find?_eq_some found)
      have same_path : (e'.file indent dir).path = e.path dir := by
        simpa using List.find?_some found
      have same : e' = e :=
        List.inj_on_of_nodup_map (h.nodup_names dir) he' he (congrArg Path.names same_path)
      rw [same]

/-- In a tree without captured calls, no call in a file is taken for one of a part. -/
theorem Built.name_ne_part {m : Module} (h : m.Built)
    (captureFree : m.definition.CaptureFree m.id.text) {e : Entry} (he : e ∈ m.entries) :
    ∀ d ∈ e.module.definition.inlineCalls,
      ∀ k ∈ e.module.parts.map (·.id), d.name ≠ k.text := by
  intro d hd k hk
  obtain ⟨p, hp, rfl⟩ := List.mem_map.1 hk
  have built := h.of_mem_entries e he
  have uncaptured := built.uncaptured_iff.1 (h.captureFree_iff.2 captureFree e he)
  exact (uncaptured d hd).2 p.named (built.named_mem_frontier hp)

/-- Each file of a tree is linked to the call that its module defines. The fuel that a
file needs is the number of files of its module, which falls from module to part. -/
theorem Built.link?_path {m : Module} (h : m.Built) {indent : String} (hi : OneLine indent)
    (newlineFree : m.definition.NewlineFree) (captureFree : m.definition.CaptureFree m.id.text)
    (dir : Path) : ∀ (fuel : Nat) (e : Entry), e ∈ m.entries → e.module.entries.length ≤ fuel →
      link? indent (m.files indent dir) fuel (e.path dir) e.module.id.text =
        some [e.module.definition.outline]
  | 0, e, _, enough => by
      have := e.module.length_entries_pos
      omega
  | fuel + 1, e, he, enough => by
      have built := h.of_mem_entries e he
      have read := read?_text hi (e.path dir) (h.newlineFree_of_mem_entries newlineFree e he)
      have linked : ∀ n ∈ e.module.definition.frontier, n.id ∈ e.module.parts.map (·.id) ∧
          link? indent (m.files indent dir) fuel ((e.path dir).resolve (targetOf n.id.text))
            n.id.text = some [n.call.outline] := by
        intro n hn
        obtain ⟨p, hp, rfl⟩ := built.exists_part hn
        refine ⟨List.mem_map_of_mem hp, ?_⟩
        have fewer := length_entries_lt hp
        have below := h.link?_path hi newlineFree captureFree dir fuel (e.part p)
          (part_mem_entries he hp) (Nat.le_of_lt_succ (Nat.lt_of_lt_of_le fewer enough))
        -- The name on the use line and the path of the part's file agree here.
        rw [named, targetOf_text, Entry.resolve_target]
        exact below
      have statements := expand?_written
        (fun used => link? indent (m.files indent dir) fuel
          ((e.path dir).resolve (targetOf used)) used)
        (h.name_ne_part captureFree he) linked
      rw [List.map_map] at statements
      rw [link?_of_read (h.find?_path indent dir he) read rfl, Outline.expandAll?_singleton]
      exact statements

end Module

namespace Call

/-- Rendering keeps the tree: linking its files from the first one gives the text of
each call, nested and ordered as in the tree. -/
theorem files?_link {style : Style} {dir : Path} {c : Call String} {files : List SourceFile}
    (indent : OneLine style.indent) (newlineFree : c.NewlineFree)
    (captureFree : c.CaptureFree (c.rootName style.suffix)) (h : c.files? style dir = .ok files) :
    linkFirst? style.indent files = some [c.outline] := by
  obtain ⟨m, hid, built, rfl, rfl⟩ := exists_module_of_files? h
  rw [rootName_of_rootId? hid] at captureFree
  have linked := built.link?_path indent newlineFree captureFree dir m.entries.length
    ⟨[], m⟩ m.top_mem_entries (Nat.le_refl _)
  have defined := Module.module?_text style.indent (Entry.path dir ⟨[], m⟩) m
  have files := Module.files_eq style.indent m dir
  rw [Module.entries_eq, List.map_cons] at files
  rw [files] at linked ⊢
  rw [linkFirst?, Entry.file, defined]
  rw [Module.entries_eq, List.length_cons] at linked
  rw [List.length_map]
  exact linked

/-- Two boxes that are one part, and a lid with another part of the same name. -/
def boxWithLid : Call String :=
  let part (name : String) (h : IsIdentifier name) (c : Call String) : Call String :=
    c.withModule ⟨name, h⟩
  let box := part "box_part" (by decide) ⟨"cube", .insert ∅ "size" "[1, 2, 3]", [], none⟩
  let knob := part "box_part" (by decide) ⟨"sphere", .insert ∅ "r" "1", [], none⟩
  let lid := part "lid_part" (by decide) ⟨"union", ∅, [knob], none⟩
  ⟨"translate", .insert ∅ "v" "[0, 0, 1]", [⟨"union", ∅, [box, box], none⟩, lid], none⟩

theorem boxWithLid_files :
    ∃ files, boxWithLid.files? ⟨"\t", "_component"⟩ ⟨"out"⟩ = .ok files ∧
      files.map (·.path.text) =
        ["out/translate_component.scad", "out/box_part/box_part.scad",
          "out/lid_part/lid_part.scad", "out/lid_part/box_part/box_part.scad"] := by
  have paths : (boxWithLid.files? ⟨"\t", "_component"⟩ ⟨"out"⟩).map (List.map (·.path.text)) =
      .ok ["out/translate_component.scad", "out/box_part/box_part.scad",
        "out/lid_part/lid_part.scad", "out/lid_part/box_part/box_part.scad"] := by
    decide +kernel
  cases h : boxWithLid.files? ⟨"\t", "_component"⟩ ⟨"out"⟩ with
  | error fault =>
      rw [h] at paths
      contradiction
  | ok files =>
      rw [h, Except.map, Except.ok.injEq] at paths
      exact ⟨files, rfl, paths⟩

theorem boxWithLid_link :
    OneLine "\t" ∧ boxWithLid.NewlineFree ∧
    boxWithLid.CaptureFree (boxWithLid.rootName "_component") ∧
    ∃ files, boxWithLid.files? ⟨"\t", "_component"⟩ ⟨"out"⟩ = .ok files ∧
      linkFirst? "\t" files = some [boxWithLid.outline] := by
  obtain ⟨files, h, -⟩ := boxWithLid_files
  have newlineFree : boxWithLid.NewlineFree := by decide
  have captureFree : boxWithLid.CaptureFree (boxWithLid.rootName "_component") := by decide
  have linked := files?_link (by decide) newlineFree captureFree h
  exact ⟨by decide, newlineFree, captureFree, files, h, linked⟩

end Call

end Scad
