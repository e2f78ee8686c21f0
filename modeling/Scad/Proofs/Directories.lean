import Scad.FileTree
import Scad.Proofs.Locations

/-!
# Directories of a file tree

The parent of a path begins where the path begins and leads to what stands in front of
its last name (`names_parent`). Creating directories changes a tree in one way only: places
where nothing was come to be directories, and these places are on the way to what was asked
for (`Grown`). That holds of a failure too. Where the whole way consists of directories
already, nothing is created. A text is written only where the way consists of directories
and leads to none (`writeText_eq_true`), so no directory is ever lost.
-/

namespace Scad

namespace Path

/-! ## The parent of a path -/

theorem slash_not_mem_of_mem_split (s : List Char) : ∀ piece ∈ split s, '/' ∉ piece := by
  induction s with
  | nil => simp [split]
  | cons c rest ih =>
      rw [split]
      by_cases slash : c = '/'
      · rw [if_pos slash, List.forall_mem_cons]
        exact ⟨List.not_mem_nil, ih⟩
      · rw [if_neg slash]
        cases along : split rest with
        | nil => exact absurd along (split_ne_nil rest)
        | cons piece others =>
            rw [along, List.forall_mem_cons] at ih
            rw [List.forall_mem_cons, List.mem_cons, not_or]
            exact ⟨⟨Ne.symm slash, ih.1⟩, ih.2⟩

theorem slash_not_mem_of_mem_pieces {p : Path} {piece : String} (h : piece ∈ p.pieces) :
    '/' ∉ piece.toList := by
  obtain ⟨chars, hchars, rfl⟩ := List.mem_map.1 h
  rw [String.toList_ofList]
  exact slash_not_mem_of_mem_split _ chars hchars

theorem pieces_intercalate {l : List String} (nonempty : l ≠ [])
    (plain : ∀ piece ∈ l, '/' ∉ piece.toList) : (⟨"/".intercalate l⟩ : Path).pieces = l := by
  induction l with
  | nil => exact absurd rfl nonempty
  | cons piece l ih =>
      obtain ⟨first, others⟩ := List.forall_mem_cons.1 plain
      cases l with
      | nil => rw [String.intercalate_singleton, pieces_of_slash_not_mem first]
      | cons next l =>
          rw [String.intercalate_cons_cons, pieces_append_slash, pieces_of_slash_not_mem first,
            ih (List.cons_ne_nil _ _) others]
          rfl

/-- A piece that counts as a name. -/
def isName (piece : String) : Bool := piece != "" && piece != "."

theorem trimPieces_suffix (l : List String) : trimPieces l <:+ l := by
  fun_induction trimPieces l with
  | case1 => exact List.suffix_refl _
  | case2 first h => exact List.nil_suffix
  | case3 first h => exact List.suffix_refl _
  | case4 last before _ h ih => exact ih.trans (List.suffix_cons _ _)
  | case5 last before _ h => exact List.suffix_refl _

/-- No name is dropped. -/
theorem filter_trimPieces (l : List String) :
    (trimPieces l).filter isName = l.filter isName := by
  fun_induction trimPieces l with
  | case1 => rfl
  | case2 first h =>
      rw [beq_iff_eq.1 h]
      rfl
  | case3 first h => rfl
  | case4 last before _ h ih =>
      have skipped : isName last = false := by
        rw [Bool.or_eq_true, beq_iff_eq, beq_iff_eq] at h
        rcases h with rfl | rfl <;> rfl
      rw [ih, List.filter_cons_of_neg (by simp [skipped])]
  | case5 last before _ h => rfl

/-- What is not dropped begins with a name, but for a `.` that stands alone. -/
theorem isName_of_trimPieces {l before : List String} {last : String}
    (h : trimPieces l = last :: before) : isName last = true ∨ before = [] := by
  fun_induction trimPieces l with
  | case1 => contradiction
  | case2 first _ => contradiction
  | case3 first _ => exact .inr (List.cons.inj h).2.symm
  | case4 _ _ _ _ ih => exact ih h
  | case5 first others _ proper =>
      left
      rw [← (List.cons.inj h).1]
      simpa [isName] using proper

theorem filter_of_trimPieces {l before : List String} {last : String}
    (h : trimPieces l = last :: before) :
    l.filter isName = last :: before.filter isName ∨ l.filter isName = [] ∧ before = [] := by
  have kept := filter_trimPieces l
  rw [h] at kept
  by_cases name : isName last = true
  · left
    rw [← kept, List.filter_cons_of_pos name]
  · have alone := (isName_of_trimPieces h).resolve_left name
    right
    rw [← kept, List.filter_cons_of_neg name, alone]
    exact ⟨rfl, rfl⟩

/-- The parent of a path has the pieces in front of the last one that is not dropped. -/
theorem parent_cases {p dir : Path} (h : p.parent = some dir) :
    ∃ last before, trimPieces p.pieces.reverse = last :: before ∧
      (trimPieces before = [] ∧ dir = ⟨if p.isAbsolute then "/" else ""⟩ ∨
        trimPieces before ≠ [] ∧ dir.pieces = (trimPieces before).reverse) := by
  rw [parent] at h
  split at h
  · contradiction
  · next last before trimmed =>
      refine ⟨last, before, trimmed, ?_⟩
      have within : before <:+ p.pieces.reverse :=
        (List.suffix_cons last before).trans (trimmed ▸ trimPieces_suffix _)
      split at h
      · next empty =>
          cases h
          exact .inl ⟨empty, rfl⟩
      · next kept nonempty =>
          cases h
          refine .inr ⟨nonempty, pieces_intercalate (by simpa using nonempty) ?_⟩
          intro piece hp
          apply slash_not_mem_of_mem_pieces (p := p)
          have mem := (trimPieces_suffix before).subset (List.mem_reverse.1 hp)
          exact List.mem_reverse.1 (within.subset mem)

/-- The parent of a path leads to all but its last name. -/
theorem names_parent {p dir : Path} (h : p.parent = some dir) : dir.names = p.names.dropLast := by
  have names : p.names = (p.pieces.reverse.filter isName).reverse := by
    rw [← List.filter_reverse, List.reverse_reverse]
    rfl
  obtain ⟨last, before, trimmed, parent⟩ := parent_cases h
  have front : p.names.dropLast = (before.filter isName).reverse := by
    rcases filter_of_trimPieces trimmed with found | ⟨none, rfl⟩
    · rw [names, found, List.reverse_cons, List.dropLast_concat]
    · rw [names, none]
      rfl
  rw [front, ← filter_trimPieces]
  rcases parent with ⟨empty, rfl⟩ | ⟨-, pieces⟩
  · rw [empty]
    split <;> rfl
  · rw [Path.names, pieces, List.filter_reverse]
    rfl

theorem isAbsolute_iff {p : Path} :
    p.isAbsolute = true ↔ ∃ rest, rest ≠ [] ∧ p.pieces = "" :: rest := by
  rw [isAbsolute, pieces]
  cases p.text.toList with
  | nil => simp [split]
  | cons c s =>
      rw [split]
      by_cases slash : c = '/'
      · rw [if_pos slash, slash]
        have more : (split s).map String.ofList ≠ [] := by simpa using split_ne_nil s
        exact ⟨fun _ => ⟨_, more, rfl⟩, fun _ => rfl⟩
      · rw [if_neg slash]
        cases split s <;> simp [slash]

theorem trimPieces_ne_empty (l : List String) : trimPieces l ≠ [""] := by
  fun_induction trimPieces l with
  | case1 => simp
  | case2 first h => simp
  | case3 first h => simpa using h
  | case4 last before _ h ih => exact ih
  | case5 last before more h =>
      intro same
      exact more (List.cons.inj same).2

/-- The parent of a path begins where the path begins. -/
theorem isAbsolute_parent {p dir : Path} (h : p.parent = some dir) :
    dir.isAbsolute = p.isAbsolute := by
  obtain ⟨last, before, trimmed, ⟨-, rfl⟩ | ⟨nonempty, pieces⟩⟩ := parent_cases h
  · cases p.isAbsolute <;> rfl
  · -- The pieces of the path begin with those of the parent, and there are more of both.
    obtain ⟨skipped, hskipped⟩ := trimPieces_suffix before
    obtain ⟨skipped', hskipped'⟩ := trimmed ▸ trimPieces_suffix p.pieces.reverse
    have proper := trimPieces_ne_empty before
    generalize trimPieces before = kept at nonempty pieces hskipped proper
    have front : p.pieces = dir.pieces ++ (skipped.reverse ++ last :: skipped'.reverse) := by
      rw [pieces, ← List.reverse_reverse p.pieces, ← hskipped', ← hskipped]
      simp
    rw [Bool.eq_iff_iff, isAbsolute_iff, isAbsolute_iff, front]
    constructor
    · rintro ⟨rest, -, empty⟩
      rw [empty]
      exact ⟨_, by simp, List.cons_append⟩
    · rintro ⟨rest, -, empty⟩
      cases along : dir.pieces with
      | nil =>
          rw [along] at pieces
          exact absurd (List.reverse_eq_nil_iff.1 pieces.symm) nonempty
      | cons first rest' =>
          rw [along, List.cons_append] at empty
          obtain ⟨rfl, -⟩ := List.cons.inj empty
          refine ⟨rest', ?_, rfl⟩
          rintro rfl
          apply proper
          rw [← List.reverse_reverse kept, ← pieces, along]
          rfl

end Path

namespace FileTree

/-! ## Places -/

namespace Place

variable {names : List String}

theorem mem_along (place : Place) (names : List String) : place ∈ place.along names := by
  cases names with
  | nil => exact List.mem_singleton_self _
  | cons name names => exact List.mem_cons_self

theorem walk_of_plain (plain : ".." ∉ names) (place : Place) :
    place.walk names = place ++ names := by
  induction names generalizing place with
  | nil => exact (List.append_nil _).symm
  | cons name names ih =>
      rw [List.mem_cons, not_or] at plain
      rw [walk, List.foldl_cons, ← walk, step, if_neg (Ne.symm plain.1), ih plain.2,
        List.append_assoc]
      rfl

theorem walk_concat (place : Place) (names : List String) (name : String) :
    place.walk (names ++ [name]) = (place.walk names).step name := by
  rw [walk, List.foldl_append]
  rfl

theorem walk_mem_along (place : Place) (names : List String) :
    place.walk names ∈ place.along names := by
  induction names generalizing place with
  | nil => exact List.mem_singleton_self _
  | cons name names ih => exact List.mem_cons_of_mem _ (ih (place.step name))

theorem prefix_of_mem_along (plain : ".." ∉ names) {place other : Place}
    (h : other ∈ place.along names) : other <+: place ++ names := by
  induction names generalizing place with
  | nil =>
      rw [List.mem_singleton.1 h]
      exact List.prefix_append _ _
  | cons name names ih =>
      rw [List.mem_cons, not_or] at plain
      rcases List.mem_cons.1 h with rfl | later
      · exact List.prefix_append _ _
      · rw [step, if_neg (Ne.symm plain.1)] at later
        rw [List.append_cons]
        exact ih plain.2 later

end Place

variable {t t' t'' : FileTree} {way way' : List Place} {place above : Place} {p : Path}

/-! ## Ways -/

/-- All these places are directories. -/
def IsWay (t : FileTree) (way : List Place) : Prop := ∀ place ∈ way, t.node? place = some .directory

theorem follow?_eq_some :
    t.follow? p = some place ↔ isPath p = true ∧ t.IsWay (t.above p) ∧ t.place p = place := by
  simp [follow?, IsWay, and_assoc]

/-- Where paths lead depends on the working directory alone. -/
theorem place_congr (h : t'.workdir = t.workdir) : t'.place = t.place := by
  funext p
  rw [FileTree.place, FileTree.place, start, start, h]

theorem above_congr (h : t'.workdir = t.workdir) : t'.above = t.above := by
  funext p
  rw [FileTree.above, FileTree.above, start, start, h]

/-- The parent of a path leads through the places above what the path leads to. -/
theorem above_eq_of_parent {dir : Path} (h : p.parent = some dir) :
    (t.start dir).along dir.names = t.above p := by
  rw [FileTree.above, start, start, Path.isAbsolute_parent h, Path.names_parent h]

/-- A path that does not lead up leads through the beginnings of where it leads. -/
theorem prefix_of_mem_above (plain : ".." ∉ p.names) (h : place ∈ t.above p) :
    place <+: t.place p := by
  have front : p.names.dropLast <+: p.names := List.dropLast_prefix _
  rw [FileTree.place, Place.walk_of_plain plain]
  apply (Place.prefix_of_mem_along (fun mem => plain (front.subset mem)) h).trans
  exact (List.prefix_append_right_inj _).2 front

/-- From one tree to the other, the working directory and all directories stay. -/
structure Stays (t t' : FileTree) : Prop where
  workdir : t'.workdir = t.workdir
  directories : ∀ place, t.node? place = some .directory → t'.node? place = some .directory

theorem Stays.trans (h : Stays t t') (h' : Stays t' t'') : Stays t t'' where
  workdir := h'.workdir.trans h.workdir
  directories place found := h'.directories place (h.directories place found)

/-- Where there was a way there is one still. -/
theorem Stays.isWay_above (h : Stays t t') (way : t.IsWay (t.above p)) :
    t'.IsWay (t'.above p) := by
  rw [above_congr h.workdir]
  exact fun place mem => h.directories place (way place mem)

/-! ## Nodes -/

theorem node?_insert (free : t.node? place ≠ some .directory) (n : Node) (other : Place) :
    (t.insert place n).node? other = if other = place then some n else t.node? other := by
  have proper : place ≠ [] := by
    rintro rfl
    exact free rfl
  unfold node?
  by_cases root : other = []
  · rw [if_pos root, if_pos root, if_neg]
    rw [root]
    exact proper.symm
  · rw [if_neg root, if_neg root]
    exact SortedMap.get?_insert _ _ _ _

/-- Where no directory was, none is lost. -/
theorem stays_insert (free : t.node? place ≠ some .directory) (n : Node) :
    Stays t (t.insert place n) where
  workdir := rfl
  directories other found := by
    rw [node?_insert free, if_neg]
    · exact found
    · rintro rfl
      exact free found

/-! ## Creating directories -/

/-- From one tree to the other, nothing has changed but that places on the way have come
to be directories. -/
structure Grown (way : List Place) (t t' : FileTree) : Prop where
  workdir : t'.workdir = t.workdir
  nodes : ∀ place, t'.node? place = t.node? place ∨
    t.node? place = none ∧ t'.node? place = some .directory ∧ place ∈ way

namespace Grown

theorem refl (way : List Place) (t : FileTree) : Grown way t t := ⟨rfl, fun _ => .inl rfl⟩

theorem mono (sub : way ⊆ way') (h : Grown way t t') : Grown way' t t' where
  workdir := h.workdir
  nodes place := (h.nodes place).imp_right fun ⟨absent, made, mem⟩ => ⟨absent, made, sub mem⟩

/-- What was there is there still. -/
theorem keeps (h : Grown way t t') {n : Node} (found : t.node? place = some n) :
    t'.node? place = some n := by
  rcases h.nodes place with same | ⟨none, -⟩
  · rw [same, found]
  · rw [found] at none
    contradiction

theorem stays (h : Grown way t t') : Stays t t' := ⟨h.workdir, fun _ => h.keeps⟩

theorem trans (h : Grown way t t') (h' : Grown way t' t'') : Grown way t t'' where
  workdir := h'.workdir.trans h.workdir
  nodes place := by
    rcases h'.nodes place with same' | ⟨absent', made', mem⟩
    · rw [same']
      exact h.nodes place
    · rcases h.nodes place with same | ⟨-, made, -⟩
      · exact .inr ⟨same ▸ absent', made', mem⟩
      · rw [made] at absent'
        contradiction

end Grown

theorem grown_insert (absent : t.node? place = none) (mem : place ∈ way) :
    Grown way t (t.insert place .directory) where
  workdir := rfl
  nodes other := by
    rw [node?_insert (by simp [absent])]
    by_cases same : other = place
    · rw [if_pos same, same]
      exact .inr ⟨absent, rfl, mem⟩
    · rw [if_neg same]
      exact .inl rfl

/-- Whether or not it succeeds, only directories on the way are created. -/
theorem createFrom_grown : ∀ (names : List String) (t : FileTree) (above : Place),
    Grown (above.along names) t (t.createFrom above names).2
  | [], t, above => .refl _ t
  | name :: names, t, above => by
      have next := fun t => (createFrom_grown names t (above.step name)).mono
        (List.subset_cons_self above _)
      rw [createFrom, Place.along]
      split
      · exact next t
      · exact .refl _ t
      · next absent =>
          split
          · have mem := List.mem_cons_of_mem above ((above.step name).mem_along names)
            exact (grown_insert absent mem).trans (next _)
          · exact .refl _ t

/-- Where all is there, nothing is created. -/
theorem createFrom_of_isWay : ∀ {names : List String} {above : Place},
    t.IsWay (above.along names) → t.createFrom above names = (true, t)
  | [], _, _ => rfl
  | name :: names, above, way => by
      obtain ⟨-, later⟩ := List.forall_mem_cons.1 way
      have found := later _ ((above.step name).mem_along names)
      rw [createFrom]
      simp only [found]
      exact createFrom_of_isWay later

theorem createDirectories_grown (t : FileTree) (p : Path) :
    Grown ((t.start p).along p.names) t (t.createDirectories p).2 := by
  unfold createDirectories
  split
  · exact createFrom_grown _ t _
  · exact .refl _ t

theorem createDirectories_of_isWay (h : (t'.createDirectories p).1 = true)
    (way : t.IsWay ((t.start p).along p.names)) : t.createDirectories p = (true, t) := by
  have beginning := way _ ((t.start p).mem_along p.names)
  unfold createDirectories at h ⊢
  split at h
  · next valid =>
      rw [Bool.and_eq_true] at valid
      rw [if_pos (by simp [valid.1, beginning])]
      exact createFrom_of_isWay way
  · contradiction

/-- Makes the directories above a path. -/
def prepare (t : FileTree) (p : Path) : Bool × FileTree :=
  match p.parent with
  | none => (true, t)
  | some dir => if dir.isEmpty then (true, t) else t.createDirectories dir

theorem prepare_grown (t : FileTree) (p : Path) : Grown (t.above p) t (t.prepare p).2 := by
  unfold prepare
  split
  · exact .refl _ t
  · next dir parent =>
      split
      · exact .refl _ t
      · rw [← above_eq_of_parent parent]
        exact t.createDirectories_grown dir

theorem prepare_of_isWay (h : (t'.prepare p).1 = true) (way : t.IsWay (t.above p)) :
    t.prepare p = (true, t) := by
  unfold prepare at h ⊢
  split at h
  · rfl
  · next dir parent =>
      rw [← above_eq_of_parent parent] at way
      split at h
      · next empty => rw [if_pos empty]
      · next nonempty =>
          rw [if_neg nonempty]
          exact createDirectories_of_isWay h way

/-! ## Texts -/

/-- The path may be that of a file that is created. -/
structure IsWritable (p : Path) : Prop where
  path : isPath p = true
  file : namesFile p = true
  creatable : p.names.getLast?.any isCreatable = true

/-- A path of a file leads through the directory of the file. -/
theorem IsWritable.dropLast_mem_above (h : IsWritable p) (t : FileTree) :
    (t.place p).dropLast ∈ t.above p := by
  obtain ⟨last, named, creatable⟩ := (Option.any_eq_true _ _).1 h.creatable
  obtain ⟨front, names⟩ := List.getLast?_eq_some_iff.1 named
  have forward : last ≠ ".." := by
    rintro rfl
    contradiction
  rw [FileTree.place, FileTree.above, names, List.dropLast_concat, Place.walk_concat, Place.step,
    if_neg forward, List.dropLast_concat]
  exact Place.walk_mem_along _ _

variable {text text' : String}

theorem readText?_eq_some : t.readText? p = some text ↔
    isPath p = true ∧ namesFile p = true ∧ t.IsWay (t.above p) ∧
      t.node? (t.place p) = some (.file text) := by
  unfold readText?
  cases followed : t.follow? p with
  | none =>
      constructor
      · intro h
        cases h
      · rintro ⟨path, -, way, -⟩
        rw [follow?_eq_some.2 ⟨path, way, rfl⟩] at followed
        contradiction
  | some place =>
      obtain ⟨path, way, rfl⟩ := follow?_eq_some.1 followed
      by_cases file : namesFile p = true
      · cases found : t.node? (t.place p) with
        | none => simp [file, found]
        | some n => cases n <;> simp [file, found, path, way]
      · simp [file]

/-- A text is written where the way consists of directories and leads to none. -/
theorem writeText_eq_true : t.writeText p text = (true, t') ↔
    IsWritable p ∧ t.IsWay (t.above p) ∧ t.node? (t.place p) ≠ some .directory ∧
      t' = t.insert (t.place p) (.file text) := by
  unfold writeText
  cases followed : t.follow? p with
  | none =>
      constructor
      · intro h
        cases h
      · rintro ⟨writable, way, -⟩
        rw [follow?_eq_some.2 ⟨writable.path, way, rfl⟩] at followed
        contradiction
  | some place =>
      obtain ⟨path, way, rfl⟩ := follow?_eq_some.1 followed
      dsimp only
      constructor
      · intro h
        split at h
        · next may =>
            cases h
            simp only [Bool.and_eq_true, bne_iff_ne] at may
            exact ⟨⟨path, may.1.1, may.2⟩, way, may.1.2, rfl⟩
        · cases h
      · rintro ⟨writable, -, free, rfl⟩
        rw [if_pos]
        simp [writable.file, writable.creatable, free]

/-- Where a text is written, nothing else changes, and no directory is lost. -/
theorem writeText_spec (h : t.writeText p text = (true, t')) :
    Stays t t' ∧
      ∀ place, t'.node? place = if place = t.place p then some (.file text) else t.node? place := by
  obtain ⟨-, -, free, rfl⟩ := writeText_eq_true.1 h
  exact ⟨stays_insert free _, node?_insert free _⟩

/-- A text that cannot be written leaves no trace. -/
theorem writeText_eq_false (h : t.writeText p text = (false, t')) : t' = t := by
  unfold writeText at h
  split at h
  · cases h
    rfl
  · simp only at h
    split at h
    · cases h
    · cases h
      rfl

/-- A text that is there already is written without a change. -/
theorem writeText_of_file (h : IsWritable p) (way : t.IsWay (t.above p))
    (found : t.node? (t.place p) = some (.file text)) : t.writeText p text = (true, t) := by
  have proper : t.place p ≠ [] := by
    intro root
    simp [root, node?] at found
  have same : t.nodes.insert (t.place p) (.file text) = t.nodes := by
    apply SortedMap.insert_of_get?
    rwa [node?, if_neg proper] at found
  refine writeText_eq_true.2 ⟨h, way, by simp [found], ?_⟩
  rw [insert, same]

end FileTree

end Scad
