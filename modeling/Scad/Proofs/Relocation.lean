import Scad.Proofs.Placement

/-!
# Other directories and other roots

The files of a tree depend on the output directory in their paths alone, and there only
through the text that stands in front of the names in it. So another directory moves the
files and leaves them as they are (`files?_relocated`). The entries of a module stand together
among the entries of the whole, at the chain of the module (`Built.segment`), and their files
lie in the directory of that chain or below it, as no others do. So a named descendant gives
the same files when it is rendered by itself (`files?_descendant`).
-/

namespace Scad

namespace Path

/-- The path lies in the directory or below it. -/
def Contains (dir p : Path) : Prop := dir.isAbsolute = p.isAbsolute ∧ dir.names <+: p.names

instance (dir p : Path) : Decidable (dir.Contains p) := by unfold Contains; infer_instance

/-- The names that lead from a directory to a path in it or below it. -/
def relative? (dir p : Path) : Option (List String) :=
  if dir.Contains p then some (p.names.drop dir.names.length) else none

/-- The current directory. -/
def here : Path := ⟨"."⟩

theorem entry_here (name : String) : here.entry name = ⟨name⟩ := rfl

/-- The current directory, however it is spelled, and the empty path add nothing to a name. -/
theorem entry_of_here {dir : Path} (h : dir.isHere = true ∨ dir.isEmpty = true) (name : String) :
    dir.entry name = ⟨name⟩ := by
  rw [entry, join]
  split
  · rfl
  · next elsewhere => rw [if_pos (h.resolve_left elsewhere)]

theorem entry_of_elsewhere {dir : Path} (h : dir.isHere = false) (name : String) :
    dir.entry name = dir.join name := by
  rw [entry, h]
  rfl

/-- What stands in front of a file name tells the directory apart from others. -/
theorem front_eq_of_path_eq {m : Identifier} {dir dir' : Path} (h : m.path dir = m.path dir') :
    dir.front = dir'.front := by
  rw [Identifier.path, Identifier.path, entry_eq, entry_eq] at h
  have chars := congrArg String.toList (Path.mk.inj h)
  rw [String.toList_append, String.toList_append] at chars
  exact String.toList_inj.1 (List.append_cancel_right chars)

theorem names_eq_of_front_eq {dir dir' : Path} (h : dir.front = dir'.front) :
    dir.names = dir'.names := by
  rw [← dir.names_front, h, dir'.names_front]

theorem isAbsolute_eq_of_front_eq {dir dir' : Path} (h : dir.front = dir'.front) :
    dir.isAbsolute = dir'.isAbsolute := by
  have plain : "a".toList.head? ≠ some '/' := by decide
  rw [← dir.isAbsolute_front_append plain, h, dir'.isAbsolute_front_append plain]

end Path

theorem Identifier.isIdentifierChar_head? {m : Identifier} {rest : String} {c : Char}
    (h : (m.text ++ rest).toList.head? = some c) : isIdentifierChar c = true := by
  have nonempty : m.text.toList ≠ [] := fun h => m.text_ne_empty (String.toList_inj.1 h)
  rw [String.toList_append, List.head?_append_of_ne_nil _ nonempty] at h
  exact isIdentifierChar_of_mem (List.mem_of_head? h)

/-! ## Another output directory -/

namespace Entry

theorem relative?_path (dir : Path) (e : Entry) : dir.relative? (e.path dir) = some e.names := by
  have inside : dir.Contains (e.path dir) := by
    rw [Path.Contains, isAbsolute_path, names_path_below]
    exact ⟨rfl, List.prefix_append _ _⟩
  rw [Path.relative?, if_pos inside, names_path_below, List.drop_left]

/-- Joined once with the path below the current directory, a directory gives the path below
itself. -/
theorem path_eq_entry (dir : Path) (e : Entry) :
    e.path dir = dir.entry (e.path Path.here).text := by
  rw [path_below, path_below, Path.below, Path.below, Path.entry_here]

theorem not_dotted (e : Entry) : ¬ "./".toList <+: (e.path Path.here).text.toList := by
  rintro ⟨rest, spelled⟩
  have dot : (e.path Path.here).text.toList.head? = some '.' := by
    rw [← spelled]
    rfl
  have text : (e.path Path.here).text = Path.steps e.chain ++ e.module.id.fileName := by
    rw [path_below, names, Path.below, Path.entry_here, Path.intercalate_steps]
  -- The first character belongs to the first identifier on the way.
  have letter : isIdentifierChar '.' = true := by
    rw [text] at dot
    cases hc : e.chain with
    | nil =>
        rw [hc] at dot
        exact Identifier.isIdentifierChar_head? (m := e.module.id) dot
    | cons m chain =>
        rw [hc, Path.steps_cons, String.append_assoc, String.append_assoc] at dot
        exact Identifier.isIdentifierChar_head? dot
  revert letter
  decide

end Entry

/-- The file with the path at which it lies below the current directory taken below another
one. -/
def SourceFile.under (dir : Path) (f : SourceFile) : SourceFile := ⟨dir.entry f.path.text, f.body⟩

theorem Module.files_under (indent : String) (dir : Path) (m : Module) :
    m.files indent dir = (m.files indent Path.here).map (SourceFile.under dir) := by
  rw [files_eq, files_eq, List.map_map]
  apply List.map_congr_left
  intro e _
  rw [Function.comp_apply, Entry.file, SourceFile.under, e.path_eq_entry]
  rfl

/-- Below two directories the files of a module are the same, at the same places. -/
theorem Module.forall₂_files (indent : String) (d₁ d₂ : Path) (m : Module) :
    List.Forall₂ (fun f g => f.body = g.body ∧ ∃ names, d₁.relative? f.path = some names ∧
      d₂.relative? g.path = some names) (m.files indent d₁) (m.files indent d₂) := by
  rw [files_eq, files_eq, List.forall₂_map_left_iff, List.forall₂_map_right_iff, List.forall₂_same]
  intro e _
  exact ⟨rfl, e.names, e.relative?_path d₁, e.relative?_path d₂⟩

namespace Call

theorem files?_under (style : Style) (dir : Path) (c : Call String) :
    c.files? style dir = (c.files? style Path.here).map (List.map (SourceFile.under dir)) := by
  cases hid : Module.rootId? style.suffix c with
  | error fault =>
      rw [files?, files?, hid]
      rfl
  | ok id =>
      rw [files?_of_rootId? hid, files?_of_rootId? hid]
      cases Module.ofCall? id c with
      | error fault => rfl
      | ok m => exact congrArg Except.ok (m.files_under style.indent dir)

/-- Whatever the output directory is, a tree is refused for the same fault or has the same
files at the same places relative to it. A directory that is neither empty nor the current one
is joined with the paths that the files have in the current one, and otherwise these paths
are left as they are, without a dot in front. -/
theorem files?_relocated (style : Style) (c : Call String) :
    (∀ d₁ d₂, (∃ fault, c.files? style d₁ = .error fault ∧ c.files? style d₂ = .error fault) ∨
      ∃ fs₁ fs₂, c.files? style d₁ = .ok fs₁ ∧ c.files? style d₂ = .ok fs₂ ∧
        List.Forall₂ (fun f g => f.body = g.body ∧ ∃ names, d₁.relative? f.path = some names ∧
          d₂.relative? g.path = some names) fs₁ fs₂) ∧
    (∀ dir : Path, dir.isHere = true ∨ dir.isEmpty = true →
      c.files? style dir = c.files? style Path.here) ∧
    (∀ dir : Path, dir.isHere = false → dir.isEmpty = false →
      c.files? style dir = (c.files? style Path.here).map
        (List.map fun f => ⟨dir.join f.path.text, f.body⟩)) ∧
    ∀ files, c.files? style Path.here = .ok files →
      ∀ f ∈ files, ¬ "./".toList <+: f.path.text.toList := by
  refine ⟨?_, ?_, ?_, ?_⟩
  · intro d₁ d₂
    rw [files?_under style d₁, files?_under style d₂]
    cases h : c.files? style Path.here with
    | error fault => exact .inl ⟨fault, rfl, rfl⟩
    | ok files =>
        obtain ⟨m, -, -, -, rfl⟩ := exists_module_of_files? h
        refine .inr ⟨_, _, rfl, rfl, ?_⟩
        rw [← m.files_under, ← m.files_under]
        exact m.forall₂_files style.indent d₁ d₂
  · intro dir h
    have same : SourceFile.under dir = id := by
      funext f
      rw [SourceFile.under, Path.entry_of_here h]
      rfl
    rw [files?_under style dir, same]
    cases c.files? style Path.here with
    | error fault => rfl
    | ok files => rw [List.map_id_fun]; rfl
  · intro dir elsewhere _
    rw [files?_under style dir]
    have joined : SourceFile.under dir = fun f => ⟨dir.join f.path.text, f.body⟩ := by
      funext f
      rw [SourceFile.under, Path.entry_of_elsewhere elsewhere]
    rw [joined]
  · intro files h f hf
    obtain ⟨m, -, -, -, rfl⟩ := exists_module_of_files? h
    rw [Module.files_eq] at hf
    obtain ⟨e, -, rfl⟩ := List.mem_map.1 hf
    exact e.not_dotted

theorem boxWithLid_relocated :
    (⟨"./."⟩ : Path).isHere = true ∧
    boxWithLid.files? ⟨"\t", "_component"⟩ ⟨"./."⟩ =
      boxWithLid.files? ⟨"\t", "_component"⟩ Path.here ∧
    (⟨"out/"⟩ : Path).isHere = false ∧ (⟨"out/"⟩ : Path).isEmpty = false ∧
    ∃ files, boxWithLid.files? ⟨"\t", "_component"⟩ Path.here = .ok files ∧
      files.map (·.path.text) = ["translate_component.scad", "box_part/box_part.scad",
        "lid_part/lid_part.scad", "lid_part/box_part/box_part.scad"] ∧
      boxWithLid.files? ⟨"\t", "_component"⟩ ⟨"out/"⟩ =
        .ok (files.map fun f => ⟨⟨"out/" ++ f.path.text⟩, f.body⟩) ∧
      ∀ f ∈ files, ¬ "./".toList <+: f.path.text.toList := by
  have paths : (boxWithLid.files? ⟨"\t", "_component"⟩ Path.here).map
      (List.map (·.path.text)) = .ok ["translate_component.scad", "box_part/box_part.scad",
        "lid_part/lid_part.scad", "lid_part/box_part/box_part.scad"] := by
    decide +kernel
  obtain ⟨files, h, texts⟩ := map_eq_ok.1 paths
  obtain ⟨-, unmoved, moved, undotted⟩ := files?_relocated ⟨"\t", "_component"⟩ boxWithLid
  refine ⟨by decide, unmoved _ (.inl (by decide)), by decide, by decide, files, h, texts, ?_,
    undotted files h⟩
  rw [moved ⟨"out/"⟩ (by decide) (by decide), h]
  rfl

end Call

/-! ## A module inside another one -/

namespace Call

mutual

/-- A named descendant bears its identifier. -/
theorem moduleId_of_mem_descendants : ∀ {c : Call String} {p : Placed},
    p ∈ c.descendants → p.call.moduleId = some p.id
  | ⟨_, _, _, _⟩, _, h => by
      rw [descendants] at h
      exact moduleId_of_mem_descendantsAll h

theorem moduleId_of_mem_descendantsAll : ∀ {cs : List (Call String)} {p : Placed},
    p ∈ descendantsAll cs → p.call.moduleId = some p.id
  | c :: cs, p, h => by
      rw [descendantsAll, List.mem_append] at h
      rcases h with h | h
      · split at h
        · next m named =>
            rcases List.mem_cons.1 h with rfl | h
            · exact named
            · obtain ⟨q, hq, rfl⟩ := List.mem_map.1 h
              have inside : q.call.moduleId = some q.id := moduleId_of_mem_descendants hq
              exact inside
        · exact moduleId_of_mem_descendants h
      · exact moduleId_of_mem_descendantsAll h

end

end Call

namespace Entry

/-- The entry seen from outside all modules of a chain. -/
def below (chain : List Identifier) (e : Entry) : Entry := ⟨chain ++ e.chain, e.module⟩

theorem path_below_chain (dir : Path) (chain : List Identifier) (e : Entry) :
    (e.below chain).path dir = e.path (dir.descend chain) := by
  rw [path_eq, path_eq, Path.front_descend, below, Path.steps_append, ← String.append_assoc]

theorem path_eq_of_front_eq {dir dir' : Path} (h : dir.front = dir'.front) (e : Entry) :
    e.path dir = e.path dir' := by
  rw [path_eq, path_eq, h]

end Entry

namespace Path

theorem names_entry (dir : Path) (m : Identifier) :
    (dir.entry m.text).names = dir.names ++ [m.text] := by
  rw [← names_front, front_entry, dir.isFront_front.names_append, names_text_slash, names_front]

theorem isAbsolute_entry (dir : Path) (m : Identifier) :
    (dir.entry m.text).isAbsolute = dir.isAbsolute := by
  have plain := m.head?_text_append ""
  rw [String.append_empty] at plain
  rw [entry_eq, dir.isAbsolute_front_append plain]

theorem names_descend (dir : Path) (chain : List Identifier) :
    (dir.descend chain).names = dir.names ++ chain.map (·.text) := by
  induction chain generalizing dir with
  | nil => exact (List.append_nil _).symm
  | cons m chain ih =>
      refine (ih (dir.entry m.text)).trans ?_
      rw [names_entry, List.append_assoc]
      rfl

theorem isAbsolute_descend (dir : Path) (chain : List Identifier) :
    (dir.descend chain).isAbsolute = dir.isAbsolute := by
  induction chain generalizing dir with
  | nil => rfl
  | cons m chain ih => exact (ih (dir.entry m.text)).trans (dir.isAbsolute_entry m)

/-- A file lies below the directory of a chain exactly if the chain is on the way to it. -/
theorem contains_descend {dir : Path} {chain : List Identifier} {e : Entry} :
    (dir.descend chain).Contains (e.path dir) ↔ chain <+: e.chain := by
  have absolute : (dir.descend chain).isAbsolute = (e.path dir).isAbsolute := by
    rw [isAbsolute_descend, e.isAbsolute_path]
  rw [Contains, and_iff_right absolute, names_descend, Entry.names_path_below,
    List.prefix_append_right_inj, Entry.names]
  constructor
  · intro along
    rcases List.prefix_concat_iff.1 along with whole | inside
    · -- The chain would end in the name of the file.
      have mem : e.module.id.fileName ∈ chain.map (·.text) := by
        rw [whole]
        exact List.mem_append_right _ List.mem_cons_self
      obtain ⟨m, -, same⟩ := List.mem_map.1 mem
      exact absurd same (m.text_ne_fileName _)
    · exact (List.prefix_map_iff_of_injective fun _ _ => Identifier.ext).1 inside
  · intro along
    exact (along.map _).trans (List.prefix_append _ _)

end Path

namespace Module

variable {m : Module}

/-- Parts before and behind a part bear other identifiers. -/
theorem Built.id_ne_of_split (h : m.Built) {before after : List Module} {p q : Module}
    (split : m.parts = before ++ p :: after) (hq : q ∈ before ++ after) : q.id ≠ p.id := by
  have pairwise := h.pairwise_ids
  rw [split, List.pairwise_append, List.pairwise_cons] at pairwise
  obtain ⟨-, ⟨later, -⟩, earlier⟩ := pairwise
  rcases List.mem_append.1 hq with hq | hq
  · exact earlier q hq p List.mem_cons_self
  · exact (later q hq).symm

/-- The entries of a module inside another one stand together, and no other entry has a chain
that leads through it. -/
theorem Built.segment : ∀ {m : Module}, m.Built → ∀ e ∈ m.entries, ∃ before after,
    m.entries = before ++ e.module.entries.map (Entry.below e.chain) ++ after ∧
      ∀ e' ∈ before ++ after, ¬ e.chain <+: e'.chain := by
  apply induction
  intro m ih h e he
  rcases mem_entries.1 he with rfl | ⟨p, hp, e, hep, rfl⟩
  · refine ⟨[], [], ?_, by simp⟩
    have self : Entry.below [] = fun e => e := rfl
    rw [self, List.map_id_fun', List.nil_append, List.append_nil]
    rfl
  · obtain ⟨l₁, l₂, split⟩ := List.append_of_mem hp
    obtain ⟨before, after, segment, apart⟩ := ih p hp (h.part hp) e hep
    have within : (e.module.entries.map (Entry.below e.chain)).map (Entry.under p.id) =
        e.module.entries.map (Entry.below (p.id :: e.chain)) := by
      rw [List.map_map]
      rfl
    refine ⟨⟨[], m⟩ :: l₁.flatMap (fun q => q.entries.map (Entry.under q.id)) ++
        before.map (Entry.under p.id),
      after.map (Entry.under p.id) ++ l₂.flatMap fun q => q.entries.map (Entry.under q.id), ?_, ?_⟩
    · rw [entries_eq m, split, List.flatMap_append, List.flatMap_cons, segment, List.map_append,
        List.map_append, within, Entry.chain_under]
      simp only [List.cons_append, List.append_assoc]
      rfl
    · -- Outside the part, a chain is empty or begins with another identifier.
      have beside : ∀ q ∈ l₁ ++ l₂, ∀ e' ∈ q.entries.map (Entry.under q.id),
          ¬ p.id :: e.chain <+: e'.chain := by
        intro q hq e' he' through
        obtain ⟨k, -, rfl⟩ := List.mem_map.1 he'
        exact h.id_ne_of_split split hq (List.cons_prefix_cons.1 through).1.symm
      have inside : ∀ e' ∈ (before ++ after).map (Entry.under p.id),
          ¬ p.id :: e.chain <+: e'.chain := by
        intro e' he' through
        obtain ⟨k, hk, rfl⟩ := List.mem_map.1 he'
        exact apart k hk (List.cons_prefix_cons.1 through).2
      intro e' he'
      simp only [List.mem_append, List.mem_cons, List.mem_flatMap] at he'
      rcases he' with ((rfl | ⟨q, hq, he'⟩) | he') | he' | ⟨q, hq, he'⟩
      · exact fun through => List.cons_ne_nil _ _ (List.prefix_nil.1 through)
      · exact beside q (List.mem_append_left _ hq) e' he'
      · exact inside e' (List.map_append ▸ List.mem_append_left _ he')
      · exact inside e' (List.map_append ▸ List.mem_append_right _ he')
      · exact beside q (List.mem_append_right _ hq) e' he'

end Module

namespace Call

/-- A named descendant gives, in its own directory, the files that the whole tree has in that
directory and below it. They stand together, the file of the descendant first. -/
theorem files?_descendant {style : Style} {dir : Path} {c : Call String}
    {files : List SourceFile} (h : c.files? style dir = .ok files) {p : Placed}
    (hp : p ∈ c.descendants) {own : Path}
    (located : p.id.path own = p.id.path (dir.descend p.chain)) :
    ∃ before run after, files = before ++ run ++ after ∧ p.call.files? style own = .ok run ∧
      (run.map (·.path)).head? = some (p.id.path own) ∧
      (∀ f ∈ run, own.Contains f.path) ∧ ∀ f ∈ before ++ after, ¬ own.Contains f.path := by
  obtain ⟨m, -, built, rfl, rfl⟩ := exists_module_of_files? h
  obtain ⟨e, he, chain, named⟩ := built.entry_of_descendant p hp
  obtain ⟨before, after, segment, apart⟩ := built.segment e he
  have built_part : e.module.Built := built.of_mem_entries e he
  obtain ⟨id, call⟩ := NamedCall.mk.inj named
  have front : own.front = (dir.descend e.chain).front := by
    rw [chain]
    exact Path.front_eq_of_path_eq located
  -- The files of the segment are those of the module in its own directory.
  have moved : (e.module.entries.map (Entry.below e.chain)).map (Entry.file style.indent dir) =
      e.module.files style.indent own := by
    rw [Module.files_eq, List.map_map]
    apply List.map_congr_left
    intro e' _
    rw [Function.comp_apply, Entry.file, Entry.file, Entry.path_below_chain,
      Entry.path_eq_of_front_eq front]
    rfl
  have contains : ∀ e' : Entry, own.Contains (e'.path dir) ↔ e.chain <+: e'.chain := by
    intro e'
    rw [Path.Contains, Path.names_eq_of_front_eq front, Path.isAbsolute_eq_of_front_eq front]
    exact Path.contains_descend
  refine ⟨before.map (Entry.file style.indent dir), e.module.files style.indent own,
    after.map (Entry.file style.indent dir), ?_, ?_, ?_, ?_, ?_⟩
  · rw [Module.files_eq, segment, List.map_append, List.map_append, moved]
  · have root : Module.rootId? style.suffix p.call = .ok p.id := by
      rw [Module.rootId?, moduleId_of_mem_descendants hp]
    rw [files?_of_rootId? root, ← id, ← call, built_part]
    rfl
  · rw [Module.files_eq, Module.entries_eq, List.map_cons, List.map_cons, List.head?_cons, ← id]
    rfl
  · intro f hf
    rw [← moved, List.map_map] at hf
    obtain ⟨e', -, rfl⟩ := List.mem_map.1 hf
    exact (contains (e'.below e.chain)).2 (List.prefix_append _ _)
  · intro f hf
    rw [← List.map_append] at hf
    obtain ⟨e', he', rfl⟩ := List.mem_map.1 hf
    exact fun inside => apart e' he' ((contains e').1 inside)

theorem boxWithLid_descendant :
    ∃ files, boxWithLid.files? ⟨"\t", "_component"⟩ ⟨"out"⟩ = .ok files ∧
      ∃ lid ∈ boxWithLid.descendants, lid.chain.map (·.text) = ["lid_part"] ∧
        lid.id.path ⟨"out/lid_part/"⟩ = lid.id.path ((⟨"out"⟩ : Path).descend lid.chain) ∧
        ∃ before run after, files = before ++ run ++ after ∧
          lid.call.files? ⟨"\t", "_component"⟩ ⟨"out/lid_part/"⟩ = .ok run ∧
          run.map (·.path.text) =
            ["out/lid_part/lid_part.scad", "out/lid_part/box_part/box_part.scad"] ∧
          ∀ f ∈ before ++ after, ¬ (⟨"out/lid_part/"⟩ : Path).Contains f.path := by
  obtain ⟨files, h, -⟩ := boxWithLid_files
  let lid : Placed := boxWithLid.descendants.get ⟨2, by decide⟩
  have inside : lid ∈ boxWithLid.descendants := List.get_mem _ _
  have located : lid.id.path ⟨"out/lid_part/"⟩ =
      lid.id.path ((⟨"out"⟩ : Path).descend lid.chain) := by decide
  have paths : (lid.call.files? ⟨"\t", "_component"⟩ ⟨"out/lid_part/"⟩).map
      (List.map (·.path.text)) =
        .ok ["out/lid_part/lid_part.scad", "out/lid_part/box_part/box_part.scad"] := by
    decide +kernel
  obtain ⟨before, run, after, split, own, -, -, apart⟩ :=
    files?_descendant h inside located
  obtain ⟨run', own', texts⟩ := map_eq_ok.1 paths
  obtain rfl : run = run' := Except.ok.inj (own.symm.trans own')
  exact ⟨files, h, lid, inside, by decide, located, before, run, after, split,
    own, texts, apart⟩

end Call

end Scad
