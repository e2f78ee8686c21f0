import Scad.Proofs.Linking

/-!
# Previews

A call that stands alone is written at depth zero, in the file of its module at depth
one. The lines are the same but for what they are indented by: the statement of a call
one level deeper has the same lines, each one level deeper (`lines_succ`). So the lines
that a file has inside its module are those of the preview with one more indent in
front (`files?_preview`).
-/

namespace Scad

open Text

/-! ## One level deeper -/

namespace Line

/-- The same line one level deeper. -/
def deeper : Line → Line
  | leaf depth c => leaf (depth + 1) c
  | opening depth c => opening (depth + 1) c
  | closing depth => closing (depth + 1)
  | link depth m => link (depth + 1) m

end Line

theorem indentation_succ (indent : String) (depth : Nat) :
    indentation indent (depth + 1) = indent ++ indentation indent depth := by
  rw [indentation, List.replicate_succ, String.join_cons]
  rfl

theorem Line.text_deeper (indent : String) (l : Line) :
    l.deeper.text indent = indent ++ l.text indent := by
  cases l <;> simp only [deeper, text, indentation_succ, String.append_assoc]

namespace Call

mutual

theorem lines_succ : ∀ (depth : Nat) (c : Call String),
    c.lines (depth + 1) = (c.lines depth).map Line.deeper
  | depth, ⟨name, parameters, children, moduleId⟩ => by
      rw [lines, lines]
      cases children with
      | nil => rfl
      | cons c cs =>
          have inner := childLines_succ (depth + 1) (c :: cs)
          simp [inner, Line.deeper]

theorem childLines_succ : ∀ (depth : Nat) (cs : List (Call String)),
    childLines (depth + 1) cs = (childLines depth cs).map Line.deeper
  | _, [] => rfl
  | depth, c :: cs => by
      rw [childLines, childLines, List.map_append, childLines_succ depth cs]
      congr 1
      cases c.moduleId with
      | some m => rfl
      | none => exact lines_succ depth c

end

theorem text_lines_succ (indent : String) (depth : Nat) (c : Call String) :
    (c.lines (depth + 1)).map (Line.text indent) =
      ((c.lines depth).map (Line.text indent)).map (indent ++ ·) := by
  rw [lines_succ, List.map_map, List.map_map]
  apply List.map_congr_left
  intro l _
  exact l.text_deeper indent

end Call

/-! ## Lines between two lines -/

namespace Text

/-- The lines that a line feed ends. -/
def endedLines (s : String) : List String := (lines s).dropLast

theorem endedLines_unlines {l : List String} (h : ∀ s ∈ l, OneLine s) :
    endedLines (unlines l) = l := by
  have pieces := lines_unlines h ""
  rw [String.append_empty] at pieces
  rw [endedLines, pieces]
  exact List.dropLast_concat

/-- The lines behind the first that is `opening` and before the last that is `closing`. -/
def enclosed (opening closing : String) (l : List String) : List String :=
  let behind := (l.dropWhile (· ≠ opening)).drop 1
  ((behind.reverse.dropWhile (· ≠ closing)).drop 1).reverse

theorem dropWhile_ne_append {before : List String} {line : String} (h : line ∉ before)
    (rest : List String) : (before ++ line :: rest).dropWhile (· ≠ line) = line :: rest := by
  rw [List.dropWhile_append_of_pos, List.dropWhile_cons_of_neg]
  · simp
  · intro other hother
    rw [decide_eq_true_eq]
    rintro rfl
    exact h hother

theorem enclosed_append {opening closing : String} {before after : List String}
    (hopening : opening ∉ before) (hclosing : closing ∉ after) (inner : List String) :
    enclosed opening closing (before ++ opening :: (inner ++ closing :: after)) = inner := by
  have behind : (inner ++ closing :: after).reverse =
      after.reverse ++ closing :: inner.reverse := by simp
  have apart : closing ∉ after.reverse := by simpa using hclosing
  rw [enclosed, dropWhile_ne_append hopening]
  simp only [List.drop_one, List.tail_cons, behind, dropWhile_ne_append apart,
    List.reverse_reverse]

end Text

/-! ## Files and previews -/

theorem Call.endedLines_preview {indent : String} (hi : OneLine indent) {c : Call String}
    (h : c.NewlineFree) :
    endedLines (c.preview indent) = (c.lines 0).map (Line.text indent) := by
  rw [preview, statement_eq_unlines]
  apply endedLines_unlines
  intro s hs
  obtain ⟨l, hl, rfl⟩ := List.mem_map.1 hs
  exact oneLine_of_mem_lines hi 0 c h l hl

namespace Module

theorem openingLine_not_mem_useLines (m : Identifier) (parts : List Identifier) :
    openingLine m ∉ useLines parts := by
  intro mem
  have chars : ∀ s ∈ useLines parts, s.toList.head? ≠ some 'm' := by
    intro s hs
    rcases List.mem_append.1 hs with hs | hs
    · obtain ⟨p, -, rfl⟩ := List.mem_map.1 hs
      simp [String.toList_append]
    · split at hs
      · contradiction
      · rw [List.mem_singleton.1 hs]
        decide
  exact chars _ mem (by simp [openingLine, String.toList_append])

theorem endedLines_text {indent : String} (hi : OneLine indent) {m : Module}
    (h : m.definition.NewlineFree) : endedLines (m.text indent) = m.fileLines indent := by
  have pieces : lines (m.text indent) = m.fileLines indent ++ [""] := by
    rw [lines_text, lines_body hi h, fileLines]
    simp only [List.append_assoc, List.cons_append]
  rw [endedLines, pieces]
  exact List.dropLast_concat

/-- Inside its module, the file has the lines of the preview with one more indent. -/
theorem enclosed_text {indent : String} (hi : OneLine indent) {m : Module}
    (h : m.definition.NewlineFree) :
    enclosed (openingLine m.id) "\x7d" (endedLines (m.text indent)) =
      (endedLines (m.definition.preview indent)).map (indent ++ ·) := by
  -- Neither line that ends the file is a brace, so the last brace closes the module.
  have apart : "\x7d" ∉ ["", m.id.text ++ "();"] := by
    have chars : (m.id.text ++ "();").toList.getLast? = some ';' := by simp
    simp only [List.mem_cons, List.not_mem_nil, or_false, not_or]
    refine ⟨by decide, ?_⟩
    intro same
    rw [← same] at chars
    exact absurd chars (by decide)
  rw [endedLines_text hi h, Call.endedLines_preview hi h, fileLines, footerLines,
    enclosed_append (openingLine_not_mem_useLines _ _) apart, Call.text_lines_succ]

end Module

/-- The first file of a tree has, from the line that opens its module to the brace that
closes it, the lines of the preview with one more indent in front of each. -/
theorem Call.files?_preview {style : Style} {dir : Path} {c : Call String}
    {files : List SourceFile} (hi : OneLine style.indent) (plain : c.NewlineFree)
    (h : c.files? style dir = .ok files) :
    ∃ id file rest, Module.rootId? style.suffix c = .ok id ∧ files = file :: rest ∧
      enclosed (Module.openingLine id) "\x7d" (endedLines file.body) =
        (endedLines (c.preview style.indent)).map (style.indent ++ ·) := by
  obtain ⟨m, hid, -, rfl, rfl⟩ := exists_module_of_files? h
  refine ⟨m.id, ⟨m.id.path dir, m.text style.indent⟩,
    Module.filesOfParts style.indent dir m.parts, hid, ?_, ?_⟩
  · obtain ⟨id, definition, parts⟩ := m
    rw [Module.files]
  · exact Module.enclosed_text hi plain

/-- Without an indent, the braces of calls look like the one that closes the module. -/
theorem Call.boxWithLid_preview :
    OneLine "" ∧ boxWithLid.NewlineFree ∧
    ∃ files, boxWithLid.files? ⟨"", "_component"⟩ ⟨"out"⟩ = .ok files ∧
      ∃ id file rest, Module.rootId? "_component" boxWithLid = .ok id ∧ files = file :: rest ∧
        enclosed (Module.openingLine id) "\x7d" (endedLines file.body) =
          ["translate(v=[0, 0, 1]) \x7b", "union() \x7b", "box_part();", "box_part();", "\x7d",
            "lid_part();", "\x7d"] := by
  have plain : boxWithLid.NewlineFree := by decide
  have succeeds : (boxWithLid.files? ⟨"", "_component"⟩ ⟨"out"⟩).toBool = true := by
    decide +kernel
  have preview : (endedLines (boxWithLid.preview "")).map ("" ++ ·) =
      ["translate(v=[0, 0, 1]) \x7b", "union() \x7b", "box_part();", "box_part();", "\x7d",
        "lid_part();", "\x7d"] := by
    decide +kernel
  cases h : boxWithLid.files? ⟨"", "_component"⟩ ⟨"out"⟩ with
  | error fault =>
      rw [h] at succeeds
      contradiction
  | ok files =>
      obtain ⟨id, file, rest, hid, first, inside⟩ := files?_preview (by decide) plain h
      exact ⟨by decide, plain, files, rfl, id, file, rest, hid, first, inside.trans preview⟩

end Scad
