import Scad.Proofs.Lines
import Scad.Record.Encode

/-!
# Captured calls

A file defines its module and uses the modules of its parts. A call written out in
the definition that bears one of these names calls the module in place of what it
was meant to call; where the name is that of the file's own module, the module calls
itself. Parts are kept from bearing the name of the module around them, but calls
that are no parts are not. So the files of a tree are free of captured calls exactly
if the tree is (`files?_capture_iff`).
-/

namespace Scad

open Text

namespace Call

mutual

/-- The calls that the file of a definition writes out: the call itself, and those
below it down to the first named call on each branch, which is left out. -/
def inlineCalls : Call String → List (Call String)
  | ⟨name, parameters, children, moduleId⟩ =>
      ⟨name, parameters, children, moduleId⟩ :: inlineCallsAll children

def inlineCallsAll : List (Call String) → List (Call String)
  | [] => []
  | c :: cs =>
      (match c.moduleId with
        | some _ => []
        | none => inlineCalls c) ++ inlineCallsAll cs

end

mutual

theorem calls_lines : ∀ (depth : Nat) (c : Call String),
    (c.lines depth).filterMap Line.call? = c.inlineCalls
  | depth, ⟨name, parameters, children, moduleId⟩ => by
      rw [lines, inlineCalls, ← calls_childLines (depth + 1) children]
      cases children with
      | nil => rfl
      | cons c cs => simp [Line.call?, List.filterMap_cons]

theorem calls_childLines : ∀ (depth : Nat) (cs : List (Call String)),
    (childLines depth cs).filterMap Line.call? = inlineCallsAll cs
  | _, [] => rfl
  | depth, c :: cs => by
      rw [childLines, inlineCallsAll, List.filterMap_append, calls_childLines depth cs]
      congr 1
      cases c.moduleId with
      | some m => rfl
      | none => exact calls_lines depth c

end

/-- In the module of the given name that defines `c`, no call that is written out bears
the name of that module or of a named call that stands beside it. -/
def Uncaptured (own : String) (c : Call String) : Prop :=
  ∀ d ∈ c.inlineCalls, d.name ≠ own ∧ ∀ n ∈ c.frontier, d.name ≠ n.id.text

instance (own : String) (c : Call String) : Decidable (c.Uncaptured own) := by
  unfold Uncaptured; infer_instance

/-- No call is captured in the module of the root or in that of a named descendant. -/
def CaptureFree (root : String) (c : Call String) : Prop :=
  c.Uncaptured root ∧ ∀ p ∈ c.descendants, p.call.Uncaptured p.id.text

instance (root : String) (c : Call String) : Decidable (c.CaptureFree root) := by
  unfold CaptureFree; infer_instance

end Call

namespace Module

/-- No line of the module's file calls what bears the name of the module that the file
defines or of one that it uses. -/
def Uncaptured (m : Module) : Prop :=
  ∀ l ∈ m.definition.lines 1, ∀ d, l.call? = some d →
    d.name ≠ m.id.text ∧ ∀ p ∈ m.parts, d.name ≠ p.id.text

theorem Built.uncaptured_iff {m : Module} (h : m.Built) :
    m.Uncaptured ↔ m.definition.Uncaptured m.id.text := by
  have used : ∀ d : Call String, (∀ p ∈ m.parts, d.name ≠ p.id.text) ↔
      ∀ n ∈ m.definition.frontier, d.name ≠ n.id.text := by
    intro d
    constructor
    · intro apart n hn
      obtain ⟨p, hp, rfl⟩ := h.exists_part hn
      exact apart p hp
    · intro apart p hp
      exact apart p.named (h.named_mem_frontier hp)
  simp only [Uncaptured, Call.Uncaptured, used, ← Call.calls_lines 1, List.mem_filterMap]
  constructor
  · rintro free d ⟨l, hl, hd⟩
    exact free l hl d hd
  · intro free l hl d hd
    exact free d ⟨l, hl, hd⟩

/-- Each file of a whole tree counts, those of equal named calls once. -/
theorem Built.captureFree_iff {m : Module} (h : m.Built) :
    (∀ e ∈ m.entries, e.module.Uncaptured) ↔ m.definition.CaptureFree m.id.text := by
  constructor
  · intro free
    constructor
    · exact h.uncaptured_iff.1 (free _ m.top_mem_entries)
    · intro p hp
      -- A repeated call has no file of its own, but the file of the first is its file.
      obtain ⟨e, he, -, same⟩ := h.entry_of_descendant p hp
      obtain ⟨id, call⟩ := NamedCall.mk.inj same
      rw [← id, ← call]
      exact (h.of_mem_entries e he).uncaptured_iff.1 (free e he)
  · rintro ⟨root, below⟩ e he
    refine (h.of_mem_entries e he).uncaptured_iff.2 ?_
    rcases h.descendant_of_entry e he with rfl | ⟨p, hp, -, same⟩
    · exact root
    · obtain ⟨id, call⟩ := NamedCall.mk.inj same
      rw [← id, ← call]
      exact below p hp

end Module

namespace Call

/-- The files of a tree are those of the modules in it. None of them captures a call
exactly if no call of the tree bears the name of the module that it is written in or
of a named call in the same definition; nothing else keeps names apart. -/
theorem files?_capture_iff {style : Style} {dir : Path} {c : Call String}
    {files : List SourceFile} (h : c.files? style dir = .ok files) :
    ∃ m : Module, m.Built ∧ m.definition = c ∧ m.id.text = c.rootName style.suffix ∧
      files = m.entries.map (fun e => ⟨e.path dir, unlines (e.module.fileLines style.indent)⟩) ∧
      ((∀ e ∈ m.entries, e.module.Uncaptured) ↔ c.CaptureFree (c.rootName style.suffix)) := by
  obtain ⟨m, hid, built, rfl, rfl⟩ := exists_module_of_files? h
  have own := rootName_of_rootId? hid
  refine ⟨m, built, rfl, own.symm, ?_, ?_⟩
  · rw [Module.files_eq]
    apply List.map_congr_left
    intro e _
    rw [Entry.file, Module.text_eq_unlines]
  · rw [own]
    exact built.captureFree_iff

/-- A module named like its own call calls itself. With an empty suffix every root
without a name of its own comes to this. -/
theorem not_captureFree_of_rootName {suffix : String} {c : Call String}
    (h : c.rootName suffix = c.name) : ¬ c.CaptureFree (c.rootName suffix) := by
  rintro ⟨root, -⟩
  refine (root c ?_).1 h.symm
  obtain ⟨name, parameters, children, moduleId⟩ := c
  rw [inlineCalls]
  exact List.mem_cons_self

/-- A cube as a module that bears the name of its call. -/
def selfNamedCube : Call String :=
  ⟨"cube", .insert ∅ "size" "[1, 2, 3]", [], some ⟨"cube", by decide⟩⟩

/-- The record is encoded and the tree has its file, in which `cube` is the module. -/
theorem selfNamedCube_captured :
    Record.encode (.named "Named" "cube"
      (.fields "Cube" [.autoName "Cube", .parameter "Size" (.of "[1, 2, 3]")])) =
        .ok selfNamedCube ∧
    selfNamedCube.files? ⟨"\t", "_component"⟩ ⟨"."⟩ =
      .ok [⟨⟨"cube.scad"⟩, "module cube() \x7b\n\tcube(size=[1, 2, 3]);\n\x7d\n\ncube();\n"⟩] ∧
    ¬ selfNamedCube.CaptureFree (selfNamedCube.rootName "_component") ∧
    ∃ m : Module, m.Built ∧ m.definition = selfNamedCube ∧
      ∃ e ∈ m.entries, ¬ e.module.Uncaptured := by
  have files : selfNamedCube.files? ⟨"\t", "_component"⟩ ⟨"."⟩ =
      .ok [⟨⟨"cube.scad"⟩,
        "module cube() \x7b\n\tcube(size=[1, 2, 3]);\n\x7d\n\ncube();\n"⟩] := by
    rw [files?_of_rootId? rfl, Module.ofCall?_eq]
    decide
  have captured : ¬ selfNamedCube.CaptureFree (selfNamedCube.rootName "_component") :=
    not_captureFree_of_rootName rfl
  refine ⟨rfl, files, captured, ?_⟩
  obtain ⟨m, built, definition, -, -, free_iff⟩ := files?_capture_iff files
  refine ⟨m, built, definition, ?_⟩
  simpa only [not_forall, exists_prop] using mt free_iff.1 captured

end Call

end Scad
