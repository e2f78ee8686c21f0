import Scad.Proofs.Entries

/-!
# Where the files of modules lie

The path of an entry of a directory is a text in front of its name, the same for
all names. Going down a chain of identifiers adds a name and a separator for each
of them to that text, however the directory is spelled. So the file of a module
is found again from the chain (`Entry.chain_eq_of_names_eq`), and what a file names
relative to its own directory is the file of a part (`Entry.resolve_target`).
-/

namespace Scad

namespace Identifier

theorem isIdentifierChar_of_mem {m : Identifier} {c : Char} (h : c ∈ m.text.toList) :
    isIdentifierChar c = true :=
  List.all_eq_true.1 m.isIdentifier.2.2.2 c h

theorem not_mem_text (m : Identifier) {c : Char} (h : isIdentifierChar c = false) :
    c ∉ m.text.toList := by
  intro hc
  rw [isIdentifierChar_of_mem hc] at h
  contradiction

theorem slash_not_mem (m : Identifier) : '/' ∉ m.text.toList := m.not_mem_text (by decide)

theorem text_ne_dot (m : Identifier) : m.text ≠ "." := by
  intro h
  have dot : '.' ∉ m.text.toList := m.not_mem_text (by decide)
  rw [h] at dot
  contradiction

theorem text_ne_empty (m : Identifier) : m.text ≠ "" := by
  intro h
  have long := m.isIdentifier.1
  rw [h] at long
  contradiction

theorem slash_not_mem_fileName (m : Identifier) : '/' ∉ m.fileName.toList := by
  rw [fileName, String.toList_append, List.mem_append]
  rintro (h | h)
  · exact m.slash_not_mem h
  · revert h
    decide

theorem fileName_length (m : Identifier) : 2 ≤ m.fileName.toList.length := by
  rw [fileName, String.toList_append, List.length_append]
  exact Nat.le_add_left_of_le (by decide)

/-- What a file names its part by: the part's file in the directory of that name. -/
def target (m : Identifier) : String := m.text ++ "/" ++ m.fileName

end Identifier

namespace Path

/-! ## Pieces -/

theorem split_ne_nil (s : List Char) : split s ≠ [] := by
  cases s with
  | nil => simp [split]
  | cons c rest =>
      rw [split]
      split
      · simp
      · split <;> simp

theorem split_append_slash (s t : List Char) : split (s ++ '/' :: t) = split s ++ split t := by
  induction s with
  | nil => simp [split]
  | cons c rest ih =>
      rw [List.cons_append, split, split, ih]
      by_cases h : c = '/'
      · rw [if_pos h, if_pos h, List.cons_append]
      · rw [if_neg h, if_neg h]
        cases hs : split rest with
        | nil => exact absurd hs (split_ne_nil rest)
        | cons piece pieces => rfl

theorem split_of_slash_not_mem {s : List Char} (h : '/' ∉ s) : split s = [s] := by
  induction s with
  | nil => rfl
  | cons c rest ih =>
      obtain ⟨hc, hrest⟩ := not_or.1 (mt List.mem_cons.2 h)
      rw [split, if_neg (Ne.symm hc), ih hrest]

theorem pieces_append_slash (s t : String) :
    (⟨s ++ "/" ++ t⟩ : Path).pieces = (⟨s⟩ : Path).pieces ++ (⟨t⟩ : Path).pieces := by
  have chars : (s ++ "/" ++ t).toList = s.toList ++ '/' :: t.toList := by simp
  rw [pieces, chars, split_append_slash, List.map_append]
  rfl

theorem pieces_of_slash_not_mem {s : String} (h : '/' ∉ s.toList) : (⟨s⟩ : Path).pieces = [s] := by
  rw [pieces, split_of_slash_not_mem h, List.map_singleton, String.ofList_toList]

/-! ## What stands in front of a name -/

/-- The text is empty or ends in a separator. -/
def IsFront (s : String) : Prop := s = "" ∨ ∃ t, s = t ++ "/"

/-- The text in front of the names of a directory's entries. -/
def front (dir : Path) : String :=
  if dir.isHere then ""
  else if dir.isEmpty then ""
  else if dir.text.toList.getLast? == some '/' then dir.text
  else dir.text ++ "/"

theorem entry_eq (dir : Path) (name : String) : dir.entry name = ⟨dir.front ++ name⟩ := by
  rw [entry, front]
  split
  · rw [String.empty_append]
  · rw [join]
    split
    · rw [String.empty_append]
    · split <;> rfl

theorem isFront_front (dir : Path) : IsFront dir.front := by
  rw [front]
  split
  · exact .inl rfl
  · split
    · exact .inl rfl
    · split
      · next h =>
          obtain ⟨init, hinit⟩ := List.getLast?_eq_some_iff.1 (beq_iff_eq.1 h)
          refine .inr ⟨String.ofList init, String.toList_inj.1 ?_⟩
          simpa using hinit
      · exact .inr ⟨_, rfl⟩

theorem IsFront.pieces_append {s : String} (h : IsFront s) (name : String) :
    (⟨s ++ name⟩ : Path).pieces = (⟨s⟩ : Path).pieces.dropLast ++ (⟨name⟩ : Path).pieces := by
  rcases h with rfl | ⟨t, rfl⟩
  · rw [String.empty_append]
    rfl
  · have plain : (⟨t ++ "/"⟩ : Path).pieces = (⟨t⟩ : Path).pieces ++ [""] := by
      have := pieces_append_slash t ""
      rwa [String.append_empty] at this
    rw [pieces_append_slash, plain, List.dropLast_concat]

/-- A name that is no `.` does not lead back to the current directory. -/
theorem IsFront.isHere_append {s name : String} (h : IsFront s) (plain : '/' ∉ name.toList)
    (nonempty : name ≠ "") (proper : name ≠ ".") : (⟨s ++ name⟩ : Path).isHere = false := by
  rw [isHere, h.pieces_append, pieces_of_slash_not_mem plain]
  cases (⟨s⟩ : Path).pieces.dropLast with
  | nil => simp [proper]
  | cons first rest => simp [nonempty, proper]

theorem front_entry (dir : Path) (m : Identifier) :
    (dir.entry m.text).front = dir.front ++ (m.text ++ "/") := by
  have not_here := dir.isFront_front.isHere_append m.slash_not_mem m.text_ne_empty m.text_ne_dot
  have chars_ne : m.text.toList ≠ [] := fun h => m.text_ne_empty (String.toList_inj.1 h)
  have nonempty : (⟨dir.front ++ m.text⟩ : Path).isEmpty = false := by
    rw [isEmpty, beq_eq_false_iff_ne]
    intro h
    have := congrArg String.toList h
    simp [chars_ne] at this
  have last : ((dir.front ++ m.text).toList.getLast? == some '/') = false := by
    rw [beq_eq_false_iff_ne, String.toList_append, List.getLast?_append_of_ne_nil _ chars_ne]
    intro h
    exact m.slash_not_mem (List.mem_of_getLast? h)
  -- Below a name none of the special spellings of a directory is left.
  rw [entry_eq, front, not_here, nonempty, last, String.append_assoc]
  rfl

/-! ## Down a chain of identifiers -/

def descend (dir : Path) (chain : List Identifier) : Path :=
  chain.foldl (fun dir m => dir.entry m.text) dir

/-- The directories of a chain, each with a separator behind it. -/
def steps (chain : List Identifier) : String :=
  String.join (chain.map fun m => m.text ++ "/")

theorem steps_cons (m : Identifier) (chain : List Identifier) :
    steps (m :: chain) = m.text ++ "/" ++ steps chain := by
  rw [steps, List.map_cons, String.join_cons]
  rfl

theorem steps_append (chain chain' : List Identifier) :
    steps (chain ++ chain') = steps chain ++ steps chain' := by
  rw [steps, List.map_append, String.join_append]
  rfl

theorem front_descend (dir : Path) (chain : List Identifier) :
    (dir.descend chain).front = dir.front ++ steps chain := by
  induction chain generalizing dir with
  | nil => exact (String.append_empty).symm
  | cons m chain ih =>
      rw [descend, List.foldl_cons]
      change ((dir.entry m.text).descend chain).front = _
      rw [ih, front_entry, steps_cons, String.append_assoc]

/-! ## Names along a path -/

theorem IsFront.names_append {s : String} (h : IsFront s) (name : String) :
    (⟨s ++ name⟩ : Path).names = (⟨s⟩ : Path).names ++ (⟨name⟩ : Path).names := by
  have self := h.pieces_append ""
  rw [String.append_empty] at self
  rw [names, h.pieces_append, List.filter_append, names, self, List.filter_append]
  simp [pieces, split, names]

theorem names_of_plain {s : String} (plain : '/' ∉ s.toList) (nonempty : s ≠ "")
    (proper : s ≠ ".") : (⟨s⟩ : Path).names = [s] := by
  rw [names, pieces_of_slash_not_mem plain]
  simp [nonempty, proper]

theorem names_text_slash (m : Identifier) : (⟨m.text ++ "/"⟩ : Path).names = [m.text] := by
  have split := pieces_append_slash m.text ""
  rw [String.append_empty, pieces_of_slash_not_mem m.slash_not_mem] at split
  rw [names, split]
  simp [pieces, Path.split, m.text_ne_empty, m.text_ne_dot]

theorem names_fileName (m : Identifier) : (⟨m.fileName⟩ : Path).names = [m.fileName] := by
  have long := m.fileName_length
  refine names_of_plain m.slash_not_mem_fileName ?_ ?_ <;>
    · intro h
      rw [h] at long
      contradiction

theorem names_steps_append (chain : List Identifier) (m : Identifier) :
    (⟨steps chain ++ m.fileName⟩ : Path).names = chain.map (·.text) ++ [m.fileName] := by
  induction chain with
  | nil => exact names_fileName m
  | cons k chain ih =>
      have front : IsFront (k.text ++ "/") := .inr ⟨_, rfl⟩
      rw [steps_cons, String.append_assoc, front.names_append, ih, names_text_slash]
      rfl

/-! ## References relative to a file -/

/-- The path that a file means by a name, which is read from the file's directory. -/
def resolve (holder : Path) (name : String) : Path :=
  ⟨String.ofList (holder.text.toList.reverse.dropWhile (· ≠ '/')).reverse ++ name⟩

theorem resolve_of_isFront {s : String} (h : IsFront s) {own : String} (plain : '/' ∉ own.toList)
    (name : String) : resolve ⟨s ++ own⟩ name = ⟨s ++ name⟩ := by
  -- From the end, the file's own name comes first and is all that is dropped.
  have own_part : ∀ c ∈ own.toList.reverse, c ≠ '/' := by
    intro c hc same
    rw [List.mem_reverse, same] at hc
    exact plain hc
  have directory : ((s ++ own).toList.reverse.dropWhile (· ≠ '/')).reverse = s.toList := by
    rw [String.toList_append, List.reverse_append,
      List.dropWhile_append_of_pos (by simpa using own_part)]
    rcases h with rfl | ⟨t, rfl⟩
    · rfl
    · simp
  rw [resolve, directory, String.ofList_toList]

end Path

/-! ## The file of an entry -/

namespace Entry

/-- The path of the file of an entry, below the directory of the top. -/
def path (dir : Path) (e : Entry) : Path := e.module.id.path (dir.descend e.chain)

def file (indent : String) (dir : Path) (e : Entry) : SourceFile :=
  ⟨e.path dir, e.module.text indent⟩

theorem path_eq (dir : Path) (e : Entry) :
    e.path dir = ⟨dir.front ++ Path.steps e.chain ++ e.module.id.fileName⟩ := by
  rw [path, Identifier.path, Path.entry_eq, Path.front_descend]

theorem isFront_steps (dir : Path) (e : Entry) :
    Path.IsFront (dir.front ++ Path.steps e.chain) := by
  rw [← Path.front_descend]
  exact Path.isFront_front _

theorem names_path (dir : Path) (e : Entry) :
    (e.path dir).names =
      (⟨dir.front⟩ : Path).names ++ (e.chain.map (·.text) ++ [e.module.id.fileName]) := by
  rw [path_eq, String.append_assoc, dir.isFront_front.names_append, Path.names_steps_append]

/-- Paths with the same names along them are the paths of one chain. -/
theorem chain_eq_of_names_eq {dir : Path} {e e' : Entry}
    (h : (e.path dir).names = (e'.path dir).names) : e.chain = e'.chain := by
  rw [names_path, names_path] at h
  have same := (List.append_inj' (List.append_cancel_left h) rfl).1
  exact List.map_injective_iff.2 (fun _ _ => Identifier.ext) same

/-- What a module's file names a part by is, from its directory, the file of the part. -/
theorem resolve_target (dir : Path) (e : Entry) (p : Module) :
    (e.path dir).resolve p.id.target = (e.part p).path dir := by
  rw [path_eq, path_eq, Path.resolve_of_isFront (e.isFront_steps dir)
    e.module.id.slash_not_mem_fileName]
  change (⟨_⟩ : Path) = ⟨dir.front ++ Path.steps (e.chain ++ [p.id]) ++ p.id.fileName⟩
  rw [Path.steps_append, Path.steps_cons, Identifier.target]
  simp only [String.append_assoc]
  rfl

end Entry

namespace Module

/-- No two files have paths with the same names along them. -/
theorem Built.nodup_names {m : Module} (h : m.Built) (dir : Path) :
    (m.entries.map fun e => (e.path dir).names).Nodup := by
  have chains := h.nodup_chains
  apply chains.of_map.map_on
  intro e he e' he' same
  exact List.inj_on_of_nodup_map chains he he' (Entry.chain_eq_of_names_eq same)

theorem filesOfParts_eq (indent : String) (dir : Path) : ∀ parts : List Module,
    filesOfParts indent dir parts =
      parts.flatMap fun p => p.files indent (dir.entry p.id.text)
  | [] => rfl
  | ⟨id, definition, inner⟩ :: rest => by
      rw [filesOfParts, filesOfParts_eq indent dir rest, List.flatMap_cons]

/-- The files are those of the entries. -/
theorem files_eq (indent : String) : ∀ (m : Module) (dir : Path),
    m.files indent dir = m.entries.map (Entry.file indent dir) := by
  apply induction
  rintro ⟨id, definition, parts⟩ ih dir
  rw [files, filesOfParts_eq, entries_eq, List.map_cons, List.map_flatMap]
  refine congrArg₂ List.cons rfl (List.flatMap_congr ?_)
  intro p hp
  rw [ih p hp, List.map_map]
  rfl

theorem Built.nodup_file_names {m : Module} (h : m.Built) (indent : String) (dir : Path) :
    ((m.files indent dir).map (·.path.names)).Nodup := by
  rw [files_eq, List.map_map]
  exact h.nodup_names dir

end Module

end Scad
