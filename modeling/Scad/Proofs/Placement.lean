import Mathlib.Data.List.Dedup
import Scad.Proofs.Linking

/-!
# Where the files of a tree lie

A chain of identifiers leads from the output directory through a directory for each of
them to the file of the last. The files of a tree are that of the root and, for each
chain of a named descendant, the one that the chain leads to (`files?_placement`). No
path is met twice, and none is a directory on the way to another: a chain is read off
its path, since the name of a file holds a dot and an identifier holds none. For the
same reason no name below the output directory leads anywhere else.
-/

namespace Scad

namespace Path

/-! ## Names below a directory -/

/-- The path to which names lead from a directory. -/
def below (dir : Path) (names : List String) : Path := dir.entry ("/".intercalate names)

/-- The names on the way to the file of a chain: a directory for each identifier, and the
file of the last. -/
def chainNames (chain : List Identifier) : List String :=
  chain.map (·.text) ++ (chain.getLast?.map (·.fileName)).toList

theorem intercalate_steps (chain : List Identifier) (name : String) :
    "/".intercalate (chain.map (·.text) ++ [name]) = steps chain ++ name := by
  induction chain with
  | nil =>
      rw [List.map_nil, List.nil_append, String.intercalate_singleton]
      exact String.empty_append.symm
  | cons m chain ih =>
      have more : chain.map (·.text) ++ [name] ≠ [] := by simp
      rw [List.map_cons, List.cons_append, String.intercalate_cons_of_ne_nil more, ih, steps_cons,
        String.append_assoc, String.append_assoc, String.append_assoc]

/-- No spelling of the current directory has a name in it. -/
theorem names_of_isHere {dir : Path} (h : dir.isHere = true) : dir.names = [] := by
  rw [isHere] at h
  rw [names, List.filter_eq_nil_iff]
  split at h
  · contradiction
  · next first rest along =>
      rw [Bool.and_eq_true, beq_iff_eq, List.all_eq_true] at h
      obtain ⟨rfl, h⟩ := h
      intro piece hp
      rw [along] at hp
      rcases List.mem_cons.1 hp with rfl | hp
      · decide
      · simpa [or_iff_not_imp_left] using h piece hp

theorem isAbsolute_of_isHere {dir : Path} (h : dir.isHere = true) : dir.isAbsolute = false := by
  rw [isHere, pieces] at h
  rw [isAbsolute]
  cases chars : dir.text.toList with
  | nil => rfl
  | cons c rest =>
      by_cases slash : c = '/'
      · -- A path that begins with a separator has an empty piece in front of it.
        rw [chars, split, if_pos slash] at h
        simp at h
      · simpa using slash

/-- What stands in front of the names in a directory leads to the directory. -/
theorem names_front (dir : Path) : (⟨dir.front⟩ : Path).names = dir.names := by
  rw [front]
  split
  · next here =>
      rw [names_of_isHere here]
      rfl
  · split
    · next empty =>
        rw [isEmpty, beq_iff_eq] at empty
        rw [← empty]
    · split
      · rfl
      · have pieces := pieces_append_slash dir.text ""
        rw [String.append_empty] at pieces
        rw [names, pieces, List.filter_append]
        exact List.append_nil _

theorem isAbsolute_front_append (dir : Path) {name : String}
    (h : name.toList.head? ≠ some '/') :
    (⟨dir.front ++ name⟩ : Path).isAbsolute = dir.isAbsolute := by
  have relative : (⟨name⟩ : Path).isAbsolute = false := by
    rw [isAbsolute, beq_eq_false_iff_ne]
    exact h
  rw [front]
  split
  · next here => rw [String.empty_append, relative, isAbsolute_of_isHere here]
  · split
    · next empty =>
        rw [isEmpty, beq_iff_eq] at empty
        rw [String.empty_append, relative, isAbsolute, empty]
        rfl
    · next nonempty =>
        have chars : dir.text.toList ≠ [] := by
          intro nil
          rw [isEmpty, beq_iff_eq] at nonempty
          exact nonempty (String.toList_inj.1 nil)
        obtain ⟨c, rest, hc⟩ := List.exists_cons_of_ne_nil chars
        split
        · simp [isAbsolute, hc]
        · simp [isAbsolute, hc]

end Path

/-! ## The names on the way to a file -/

/-- The name stays where it is put and ends no reference to a file. -/
structure Path.Harmless (name : String) : Prop where
  proper : IsIdentifier name ∨ ∃ id, IsIdentifier id ∧ name = id ++ ".scad"
  separator : '/' ∉ name.toList
  bracket : '>' ∉ name.toList
  here : name ≠ "."
  up : name ≠ ".."

namespace Identifier

theorem harmless_text (m : Identifier) : Path.Harmless m.text where
  proper := .inl m.isIdentifier
  separator := m.slash_not_mem
  bracket := m.not_mem_text (by decide)
  here := m.text_ne_dot
  up := by
    intro h
    have dot : '.' ∉ m.text.toList := m.not_mem_text (by decide)
    rw [h] at dot
    contradiction

theorem harmless_fileName (m : Identifier) : Path.Harmless m.fileName where
  proper := .inr ⟨m.text, m.isIdentifier, rfl⟩
  separator := m.slash_not_mem_fileName
  bracket := by
    have text : '>' ∉ m.text.toList := m.not_mem_text (by decide)
    rw [fileName, String.toList_append, List.mem_append, not_or]
    exact ⟨text, by decide⟩
  here := by
    intro h
    have long := m.fileName_length
    rw [h] at long
    contradiction
  up := by
    intro h
    have letter : 's' ∈ m.fileName.toList := by
      rw [fileName, String.toList_append]
      exact List.mem_append_right _ (by decide)
    rw [h] at letter
    revert letter
    decide

/-- No directory bears the name of a file. -/
theorem text_ne_fileName (m k : Identifier) : m.text ≠ k.fileName := by
  intro h
  have dot : '.' ∉ m.text.toList := m.not_mem_text (by decide)
  rw [h, fileName, String.toList_append] at dot
  exact dot (List.mem_append_right _ (by decide))

theorem head?_text_append (m : Identifier) (rest : String) :
    (m.text ++ rest).toList.head? ≠ some '/' := by
  have nonempty : m.text.toList ≠ [] := fun h => m.text_ne_empty (String.toList_inj.1 h)
  rw [String.toList_append, List.head?_append_of_ne_nil _ nonempty]
  intro h
  exact m.slash_not_mem (List.mem_of_head? h)

end Identifier

namespace Entry

/-- The names on the way from the output directory to the file of the entry. -/
def names (e : Entry) : List String := e.chain.map (·.text) ++ [e.module.id.fileName]

theorem path_below (dir : Path) (e : Entry) : e.path dir = dir.below e.names := by
  rw [path_eq, Path.below, Path.entry_eq, names, Path.intercalate_steps, String.append_assoc]

theorem names_path_below (dir : Path) (e : Entry) :
    (e.path dir).names = dir.names ++ e.names := by
  rw [names_path, Path.names_front]
  rfl

theorem isAbsolute_path (dir : Path) (e : Entry) :
    (e.path dir).isAbsolute = dir.isAbsolute := by
  rw [path_eq, String.append_assoc]
  apply Path.isAbsolute_front_append
  cases e.chain with
  | nil => exact e.module.id.head?_text_append ".scad"
  | cons m chain =>
      rw [Path.steps_cons, String.append_assoc, String.append_assoc]
      exact m.head?_text_append _

theorem harmless_of_mem_names {e : Entry} {name : String} (h : name ∈ e.names) :
    Path.Harmless name := by
  rcases List.mem_append.1 h with h | h
  · obtain ⟨m, -, rfl⟩ := List.mem_map.1 h
    exact m.harmless_text
  · rw [List.mem_singleton.1 h]
    exact e.module.id.harmless_fileName

/-- The way to one file is no part of the way to another. -/
theorem names_eq_of_prefix {e e' : Entry} (h : e.names <+: e'.names) : e.names = e'.names := by
  rcases List.prefix_concat_iff.1 h with same | inside
  · exact same
  · -- The name of the file would be one of the directories.
    have mem : e.module.id.fileName ∈ e'.chain.map (·.text) :=
      inside.subset (List.mem_append_right _ List.mem_cons_self)
    obtain ⟨m, -, same⟩ := List.mem_map.1 mem
    exact absurd same (m.text_ne_fileName _)

end Entry

namespace Module

variable {m : Module}

/-- Each entry below the top stands for a named descendant. -/
theorem Built.descendant_of_tail (h : m.Built) {e : Entry} (he : e ∈ m.entries.tail) :
    ∃ q ∈ m.definition.descendants, q.chain = e.chain ∧ q.toNamedCall = e.module.named := by
  have nodup : (m.entries.map Entry.chain).Nodup := h.nodup_chains
  rcases h.descendant_of_entry e (List.mem_of_mem_tail he) with rfl | found
  · rw [entries_eq, List.map_cons, List.nodup_cons] at nodup
    rw [entries_eq] at he
    exact absurd (List.mem_map_of_mem he) nodup.1
  · exact found

/-- The chains of the entries below the top are those of the named descendants. -/
theorem Built.tail_chains_perm (h : m.Built) :
    (m.entries.tail.map Entry.chain).Perm (m.definition.descendants.map Placed.chain).dedup := by
  have nodup : (m.entries.tail.map Entry.chain).Nodup := by
    rw [List.map_tail]
    exact h.nodup_chains.tail
  rw [List.perm_ext_iff_of_nodup nodup (List.nodup_dedup _)]
  intro chain
  rw [List.mem_dedup, List.mem_map, List.mem_map]
  constructor
  · rintro ⟨e, he, rfl⟩
    obtain ⟨q, hq, same, -⟩ := h.descendant_of_tail he
    exact ⟨q, hq, same⟩
  · rintro ⟨q, hq, rfl⟩
    obtain ⟨e, he, same, -⟩ := h.entry_of_descendant q hq
    refine ⟨e, ?_, same⟩
    rw [entries_eq] at he ⊢
    rcases List.mem_cons.1 he with rfl | he
    · exact absurd same.symm q.chain_ne_nil
    · exact he

/-- The way to the file of an entry below the top is told by its chain. -/
theorem Built.names_eq_chainNames (h : m.Built) {e : Entry} (he : e ∈ m.entries.tail) :
    e.names = Path.chainNames e.chain := by
  obtain ⟨q, -, same_chain, same_call⟩ := h.descendant_of_tail he
  have same_id : q.id = e.module.id := congrArg NamedCall.id same_call
  have last : e.chain.getLast? = some e.module.id := by
    rw [← same_chain, Placed.chain, List.getLast?_concat, same_id]
  rw [Entry.names, Path.chainNames, last]
  rfl

theorem Built.tail_paths_perm (h : m.Built) (dir : Path) :
    (m.entries.tail.map (Entry.path dir)).Perm
      ((m.definition.descendants.map Placed.chain).dedup.map fun chain =>
        dir.below (Path.chainNames chain)) := by
  have along : m.entries.tail.map (Entry.path dir) =
      (m.entries.tail.map Entry.chain).map fun chain => dir.below (Path.chainNames chain) := by
    rw [List.map_map]
    apply List.map_congr_left
    intro e he
    rw [e.path_below, h.names_eq_chainNames he]
    rfl
  rw [along]
  exact h.tail_chains_perm.map _

/-- A path that leads to one file and on to another leads to the same file. -/
theorem Built.entry_eq_of_prefix (h : m.Built) {dir : Path} {e e' : Entry} (he : e ∈ m.entries)
    (he' : e' ∈ m.entries) (through : (e.path dir).names <+: (e'.path dir).names) : e = e' := by
  rw [e.names_path_below, e'.names_path_below, List.prefix_append_right_inj] at through
  have same : (e.path dir).names = (e'.path dir).names := by
    rw [e.names_path_below, e'.names_path_below, Entry.names_eq_of_prefix through]
  exact List.inj_on_of_nodup_map h.nodup_chains he he' (Entry.chain_eq_of_names_eq same)

end Module

namespace Call

/-- The files of a tree lie where the chains of its named descendants lead. -/
structure Placement (style : Style) (dir : Path) (c : Call String) (files : List SourceFile) :
    Prop where
  root : (files.map (·.path)).head? = some (dir.below [c.rootName style.suffix ++ ".scad"])
  others : (files.map (·.path)).tail.Perm
    ((c.descendants.map Placed.chain).dedup.map fun chain => dir.below (Path.chainNames chain))
  distinct : (files.map (·.path)).Nodup
  /-- No path leads through another. -/
  apart : ∀ f ∈ files, ∀ g ∈ files, f.path.names <+: g.path.names → f = g
  /-- All paths stay below the directory. -/
  inside : ∀ f ∈ files, f.path.isAbsolute = dir.isAbsolute ∧ ∃ names, f.path = dir.below names ∧
    f.path.names = dir.names ++ names ∧ ∀ name ∈ names, Path.Harmless name

theorem files?_placement {style : Style} {dir : Path} {c : Call String}
    {files : List SourceFile} (h : c.files? style dir = .ok files) :
    Placement style dir c files := by
  obtain ⟨m, hid, built, rfl, rfl⟩ := exists_module_of_files? h
  have paths : (m.files style.indent dir).map (·.path) = m.entries.map (Entry.path dir) := by
    rw [Module.files_eq, List.map_map]
    rfl
  refine ⟨?_, ?_, ?_, ?_, ?_⟩
  · rw [paths, Module.entries_eq, List.map_cons, List.head?_cons, Entry.path_below,
      rootName_of_rootId? hid]
    rfl
  · rw [paths, ← List.map_tail]
    exact built.tail_paths_perm dir
  · apply List.Nodup.of_map Path.names
    rw [List.map_map]
    exact built.nodup_file_names style.indent dir
  · intro f hf g hg through
    rw [Module.files_eq] at hf hg
    obtain ⟨e, he, rfl⟩ := List.mem_map.1 hf
    obtain ⟨e', he', rfl⟩ := List.mem_map.1 hg
    rw [built.entry_eq_of_prefix he he' through]
  · intro f hf
    rw [Module.files_eq] at hf
    obtain ⟨e, -, rfl⟩ := List.mem_map.1 hf
    refine ⟨e.isAbsolute_path dir, e.names, e.path_below dir, e.names_path_below dir, ?_⟩
    intro name hname
    exact Entry.harmless_of_mem_names hname

theorem boxWithLid_placement :
    ∃ files, boxWithLid.files? ⟨"\t", "_component"⟩ ⟨"out"⟩ = .ok files ∧
      files.map (·.path.text) =
        ["out/translate_component.scad", "out/box_part/box_part.scad",
          "out/lid_part/lid_part.scad", "out/lid_part/box_part/box_part.scad"] ∧
      Placement ⟨"\t", "_component"⟩ ⟨"out"⟩ boxWithLid files := by
  obtain ⟨files, h, paths⟩ := boxWithLid_files
  exact ⟨files, h, paths, files?_placement h⟩

end Call

end Scad
