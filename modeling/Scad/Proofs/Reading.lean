import Scad.Proofs.Lines

/-!
# Reading a file

A file is read line by line: the names that it uses, the module that it defines,
and the statements of the definition as outlines. Blocks are read with a stack of
the calls that are still open. A file that was written for a module is read as
the names of its parts, its identifier, and its definition down to the first
named call on each branch (`read?_text`).
-/

namespace Scad

open Text

/-- The texts of calls, nested as the calls are. -/
inductive Outline where
  | node (text : String) (children : List Outline)

/-- What is read of a file. -/
structure Reading where
  uses : List String
  id : String
  statements : List Outline

/-! ## Lines -/

/-- What stands between two texts. -/
def Text.between? (before after s : String) : Option String :=
  let inner := (s.toList.drop before.toList.length).take
    (s.toList.length - (before.toList.length + after.toList.length))
  if before ++ String.ofList inner ++ after = s then some (String.ofList inner) else none

theorem Text.between?_eq_some_iff {before after s t : String} :
    between? before after s = some t ↔ before ++ t ++ after = s := by
  rw [between?]
  constructor
  · intro h
    split at h
    · next eq =>
        cases h
        exact eq
    · contradiction
  · rintro rfl
    -- What is left between the two lengths is `t`, and the comparison holds of it.
    have inner : ((before ++ t ++ after).toList.drop before.toList.length).take
        ((before ++ t ++ after).toList.length - (before.toList.length + after.toList.length)) =
          t.toList := by
      have size : before.toList.length + t.toList.length + after.toList.length -
          (before.toList.length + after.toList.length) = t.toList.length := by omega
      simp only [String.toList_append, List.append_assoc, List.drop_left, List.length_append,
        ← Nat.add_assoc, size, List.take_left]
    simp only [inner, String.ofList_toList, if_true]

/-- The names on the lines that use files at the beginning, and the other lines. -/
def splitUses : List String → List String × List String
  | [] => ([], [])
  | line :: rest =>
      match between? "use <" ">" line with
      | some name => (name :: (splitUses rest).1, (splitUses rest).2)
      | none => ([], line :: rest)

/-- The names that are used, the module that is defined, and the lines from its body on.
A blank line ends the uses if there are any. -/
def readHeader? (l : List String) : Option (List String × String × List String) :=
  match splitUses l with
  | ([], line :: rest) => (between? "module " "() \x7b" line).map fun id => ([], id, rest)
  | (name :: names, "" :: line :: rest) =>
      (between? "module " "() \x7b" line).map fun id => (name :: names, id, rest)
  | _ => none

inductive ReadLine where
  | leaf (text : String)
  | opening (text : String)
  | closing

/-- A line within calls that are `depth` deep. Only the end of a call is indented less. -/
def readLine? (indent : String) (depth : Nat) (line : String) : Option ReadLine :=
  if line = indentation indent (depth - 1) ++ "\x7d" then some .closing
  else
    match between? (indentation indent depth) ";" line with
    | some text => some (.leaf text)
    | none => (between? (indentation indent depth) " \x7b" line).map .opening

/-- Reads statements to the end of the definition. On the stack are the open calls, the
innermost first, each with the statements before it. -/
def readBlock? (indent : String) :
    List (String × List Outline) → List Outline → List String →
      Option (List Outline × List String)
  | _, _, [] => none
  | stack, done, line :: rest =>
      match readLine? indent (stack.length + 1) line, stack with
      | some (.leaf text), stack => readBlock? indent stack (done ++ [.node text []]) rest
      | some (.opening text), stack => readBlock? indent ((text, done) :: stack) [] rest
      | some .closing, [] => some (done, rest)
      | some .closing, (text, before) :: stack =>
          readBlock? indent stack (before ++ [.node text done]) rest
      | none, _ => none

namespace SourceFile

/-- The names of the files that are used. -/
def uses (f : SourceFile) : List String := (splitUses (lines f.body)).1

/-- The module that is defined. -/
def module? (f : SourceFile) : Option String :=
  (readHeader? (lines f.body)).map fun header => header.2.1

def read? (indent : String) (f : SourceFile) : Option Reading := do
  let (uses, id, body) ← readHeader? (lines f.body)
  let (statements, rest) ← readBlock? indent [] [] body
  if rest = ["", id ++ "();", ""] then some ⟨uses, id, statements⟩ else none

end SourceFile

/-! ## Reading a header -/

theorem splitUses_uses (parts : List Identifier) {line : String}
    (h : between? "use <" ">" line = none) (rest : List String) :
    splitUses ((parts.map fun p => "use <" ++ p.target ++ ">") ++ line :: rest) =
      (parts.map (·.target), line :: rest) := by
  induction parts with
  | nil =>
      rw [List.map_nil, List.nil_append, splitUses, h]
      rfl
  | cons p parts ih =>
      rw [List.map_cons, List.cons_append, splitUses, between?_eq_some_iff.2 rfl, ih]
      rfl

/-- Two texts with different ends are different. -/
theorem append_ne_append {s t u v : String} (h : u.toList.getLast? ≠ v.toList.getLast?)
    (hu : u ≠ "") (hv : v ≠ "") : s ++ u ≠ t ++ v := by
  intro same
  have chars_ne : ∀ w : String, w ≠ "" → w.toList ≠ [] := by
    intro w hw nil
    exact hw (String.toList_inj.1 nil)
  have last := congrArg (fun w : String => w.toList.getLast?) same
  simp only [String.toList_append, List.getLast?_append_of_ne_nil _ (chars_ne u hu),
    List.getLast?_append_of_ne_nil _ (chars_ne v hv)] at last
  exact h last

theorem between?_eq_none {before after t u : String}
    (h : after.toList.getLast? ≠ u.toList.getLast?) (ha : after ≠ "") (hu : u ≠ "") :
    between? before after (t ++ u) = none := by
  cases eq : between? before after (t ++ u) with
  | none => rfl
  | some inner => exact absurd (between?_eq_some_iff.1 eq) (append_ne_append h ha hu)

theorem between?_openingLine (m : Identifier) :
    between? "use <" ">" (Module.openingLine m) = none :=
  between?_eq_none (by decide) (by decide) (by decide)

theorem splitUses_useLines (parts : List Identifier) (m : Identifier) (rest : List String) :
    splitUses (Module.useLines parts ++ Module.openingLine m :: rest) =
      (parts.map (·.target),
        (if parts = [] then [] else [""]) ++ Module.openingLine m :: rest) := by
  rw [Module.useLines, List.append_assoc]
  by_cases h : parts = []
  · rw [if_pos h, List.nil_append]
    exact splitUses_uses parts (between?_openingLine m) rest
  · rw [if_neg h]
    exact splitUses_uses parts (by decide) _

theorem readHeader?_useLines (parts : List Identifier) (m : Identifier) (rest : List String) :
    readHeader? (Module.useLines parts ++ Module.openingLine m :: rest) =
      some (parts.map (·.target), m.text, rest) := by
  have opening : between? "module " "() \x7b" (Module.openingLine m) = some m.text :=
    between?_eq_some_iff.2 rfl
  rw [readHeader?, splitUses_useLines]
  cases parts with
  | nil => simp [opening]
  | cons p parts => simp [opening]

/-! ## Reading the lines of a statement -/

theorem readLine?_leaf (indent : String) (depth : Nat) (text : String) :
    readLine? indent depth (indentation indent depth ++ text ++ ";") = some (.leaf text) := by
  rw [readLine?, if_neg (append_ne_append (by decide) (by decide) (by decide)),
    between?_eq_some_iff.2 rfl]

theorem readLine?_opening (indent : String) (depth : Nat) (text : String) :
    readLine? indent depth (indentation indent depth ++ text ++ " \x7b") =
      some (.opening text) := by
  -- A line that ends in a brace is no line of a call without children.
  rw [readLine?, if_neg (append_ne_append (by decide) (by decide) (by decide)),
    between?_eq_none (by decide) (by decide) (by decide), between?_eq_some_iff.2 rfl]
  rfl

theorem readLine?_closing (indent : String) (depth : Nat) :
    readLine? indent (depth + 1) (indentation indent depth ++ "\x7d") = some .closing := by
  rw [readLine?]
  exact if_pos rfl

namespace Call

mutual

/-- The call as its module's file has it: named calls inside it are calls of modules. -/
def written : Call String → Outline
  | ⟨name, parameters, children, moduleId⟩ =>
      .node (⟨name, parameters, children, moduleId⟩ : Call String).text (writtenAll children)

def writtenAll : List (Call String) → List Outline
  | [] => []
  | c :: cs =>
      (match c.moduleId with
        | some m => .node (m.text ++ "()") []
        | none => written c) :: writtenAll cs

end

variable (indent : String)

theorem readBlock?_leaf (stack : List (String × List Outline)) (done : List Outline)
    (text : String) (rest : List String) :
    readBlock? indent stack done
        ((indentation indent (stack.length + 1) ++ text ++ ";") :: rest) =
      readBlock? indent stack (done ++ [.node text []]) rest := by
  rw [readBlock?.eq_def]
  simp only [readLine?_leaf]

theorem readBlock?_opening (stack : List (String × List Outline)) (done : List Outline)
    (text : String) (rest : List String) :
    readBlock? indent stack done
        ((indentation indent (stack.length + 1) ++ text ++ " \x7b") :: rest) =
      readBlock? indent ((text, done) :: stack) [] rest := by
  rw [readBlock?.eq_def]
  simp only [readLine?_opening]

theorem readBlock?_closing (stack : List (String × List Outline)) (done before : List Outline)
    (text : String) (rest : List String) :
    readBlock? indent ((text, before) :: stack) done
        ((indentation indent (stack.length + 1) ++ "\x7d") :: rest) =
      readBlock? indent stack (before ++ [.node text done]) rest := by
  rw [readBlock?.eq_def]
  simp only [List.length_cons, readLine?_closing]

/-- The call of a module is read like a call without arguments. -/
theorem readBlock?_link (stack : List (String × List Outline)) (done : List Outline)
    (m : Identifier) (rest : List String) :
    readBlock? indent stack done ((Line.link (stack.length + 1) m).text indent :: rest) =
      readBlock? indent stack (done ++ [.node (m.text ++ "()") []]) rest := by
  have line : (Line.link (stack.length + 1) m).text indent =
      indentation indent (stack.length + 1) ++ (m.text ++ "()") ++ ";" := by
    simp only [Line.text, String.append_assoc]
    rfl
  rw [line]
  exact readBlock?_leaf indent stack done _ rest

mutual

/-- The lines of a statement are read as one statement, whatever calls are open. -/
theorem readBlock?_lines : ∀ (c : Call String) (stack : List (String × List Outline))
    (done : List Outline) (rest : List String),
    readBlock? indent stack done
        ((c.lines (stack.length + 1)).map (Line.text indent) ++ rest) =
      readBlock? indent stack (done ++ [c.written]) rest
  | ⟨name, parameters, children, moduleId⟩, stack, done, rest => by
      rw [lines, written]
      cases children with
      | nil => exact readBlock?_leaf indent stack done _ rest
      | cons c cs =>
          simp only [List.isEmpty_cons, Bool.false_eq_true, if_false, List.map_cons,
            List.map_append, List.cons_append, List.append_assoc]
          -- The children are read one level up the stack, which the closing line takes down.
          refine (readBlock?_opening indent stack done _ _).trans ?_
          refine (readBlock?_childLines (c :: cs) (_ :: stack) [] _).trans ?_
          exact readBlock?_closing indent stack _ done _ rest

theorem readBlock?_childLines : ∀ (cs : List (Call String))
    (stack : List (String × List Outline)) (done : List Outline) (rest : List String),
    readBlock? indent stack done
        ((childLines (stack.length + 1) cs).map (Line.text indent) ++ rest) =
      readBlock? indent stack (done ++ writtenAll cs) rest
  | [], stack, done, rest => by simp [childLines, writtenAll]
  | c :: cs, stack, done, rest => by
      rw [childLines, writtenAll, List.map_append, List.append_assoc]
      cases c.moduleId with
      | some m =>
          rw [List.map_singleton, List.singleton_append, readBlock?_link,
            readBlock?_childLines cs]
          simp
      | none =>
          rw [readBlock?_lines c, readBlock?_childLines cs]
          simp

end

end Call

/-! ## Reading the file of a module -/

namespace Module

theorem uses_text (indent : String) (path : Path) (m : Module) :
    (⟨path, m.text indent⟩ : SourceFile).uses = m.parts.map (·.id.target) := by
  rw [SourceFile.uses, lines_text, splitUses_useLines, List.map_map]
  rfl

theorem module?_text (indent : String) (path : Path) (m : Module) :
    (⟨path, m.text indent⟩ : SourceFile).module? = some m.id.text := by
  rw [SourceFile.module?, lines_text, readHeader?_useLines]
  rfl

theorem read?_text {indent : String} (hi : OneLine indent) (path : Path) {m : Module}
    (h : m.definition.NewlineFree) :
    (⟨path, m.text indent⟩ : SourceFile).read? indent =
      some ⟨m.parts.map (·.id.target), m.id.text, [m.definition.written]⟩ := by
  have closing : ("\x7d" : String) = indentation indent 0 ++ "\x7d" := rfl
  -- With no call open, the brace that closes the module ends the block.
  have body : readBlock? indent [] [] ((m.definition.lines 1).map (Line.text indent) ++
      (footerLines m.id ++ [""])) =
        some ([m.definition.written], ["", m.id.text ++ "();", ""]) := by
    have statement := m.definition.readBlock?_lines indent [] [] (footerLines m.id ++ [""])
    rw [List.length_nil] at statement
    rw [statement, footerLines, closing, readBlock?.eq_def]
    simp only [List.cons_append, List.length_nil, readLine?_closing]
    rfl
  rw [SourceFile.read?, lines_text, readHeader?_useLines, lines_body hi h]
  change (readBlock? indent [] [] _ >>= _) = _
  rw [body]
  simp

end Module

end Scad
