import Scad.Proofs.Locations

/-!
# The lines of a file

The statement of a call is a list of lines, each of which knows what it is: a
call, the two ends of a call with children, or the call of a module
(`statement_eq_unlines`). The modules that the lines call are the named calls of
the frontier, in its order (`links_lines`). A text is taken apart at its line
feeds; what was put together from lines without line feeds comes apart into these
lines again.
-/

namespace Scad

namespace Text

/-- The pieces between line feeds. Behind the last line feed there is one more. -/
def lines (s : String) : List String := (s.toList.splitOn '\n').map String.ofList

def unlines (l : List String) : String := String.join (l.map (· ++ "\n"))

def OneLine (s : String) : Prop := '\n' ∉ s.toList

instance (s : String) : Decidable (OneLine s) := by unfold OneLine; infer_instance

theorem oneLine_append {s t : String} : OneLine (s ++ t) ↔ OneLine s ∧ OneLine t := by
  rw [OneLine, String.toList_append, List.mem_append, not_or]
  rfl

theorem oneLine_join {l : List String} : OneLine (String.join l) ↔ ∀ s ∈ l, OneLine s := by
  simp [OneLine]

theorem oneLine_intercalate {s : String} {l : List String} (hs : OneLine s)
    (h : ∀ t ∈ l, OneLine t) : OneLine (s.intercalate l) := by
  induction l with
  | nil => simp [OneLine]
  | cons t l ih =>
      obtain ⟨ht, hl⟩ := List.forall_mem_cons.1 h
      cases l with
      | nil => rwa [String.intercalate_singleton]
      | cons u l =>
          rw [String.intercalate_cons_cons, oneLine_append, oneLine_append]
          exact ⟨⟨ht, hs⟩, ih hl⟩

theorem lines_line {s : String} (h : OneLine s) (rest : String) :
    lines (s ++ "\n" ++ rest) = s :: lines rest := by
  have chars : (s ++ "\n" ++ rest).toList = s.toList ++ '\n' :: rest.toList := by simp
  have plain : ∀ c ∈ s.toList, (c == '\n') = false := by
    intro c hc
    rw [beq_eq_false_iff_ne]
    rintro rfl
    exact h hc
  rw [lines, chars, List.splitOn_eq_splitOnP,
    List.splitOnP_append_cons_of_forall_mem plain '\n' (by decide), List.map_cons,
    String.ofList_toList]
  rfl

theorem unlines_cons (s : String) (l : List String) :
    unlines (s :: l) = s ++ "\n" ++ unlines l := by
  rw [unlines, List.map_cons, String.join_cons]
  rfl

theorem unlines_append (l l' : List String) : unlines (l ++ l') = unlines l ++ unlines l' := by
  rw [unlines, List.map_append, String.join_append]
  rfl

theorem lines_unlines {l : List String} (h : ∀ s ∈ l, OneLine s) (rest : String) :
    lines (unlines l ++ rest) = l ++ lines rest := by
  induction l with
  | nil =>
      change lines ("" ++ rest) = _
      rw [String.empty_append, List.nil_append]
  | cons s l ih =>
      obtain ⟨hs, hl⟩ := List.forall_mem_cons.1 h
      rw [unlines_cons, String.append_assoc, lines_line hs, ih hl, List.cons_append]

end Text

open Text

theorem Identifier.oneLine_text (m : Identifier) : OneLine m.text := m.not_mem_text (by decide)

/-! ## The lines of a statement -/

/-- A line of the body of a module. -/
inductive Line where
  | leaf (depth : Nat) (call : Call String)
  | opening (depth : Nat) (call : Call String)
  | closing (depth : Nat)
  /-- The call of a module. -/
  | link (depth : Nat) (id : Identifier)

namespace Line

/-- The line as it is written, without a line feed. -/
def text (indent : String) : Line → String
  | leaf depth c => indentation indent depth ++ c.text ++ ";"
  | opening depth c => indentation indent depth ++ c.text ++ " \x7b"
  | closing depth => indentation indent depth ++ "\x7d"
  | link depth m => indentation indent depth ++ m.text ++ "();"

/-- The module that the line calls. -/
def link? : Line → Option Identifier
  | link _ m => some m
  | _ => none

/-- The call that the line writes out. -/
def call? : Line → Option (Call String)
  | leaf _ c => some c
  | opening _ c => some c
  | _ => none

end Line

namespace Call

mutual

def lines (depth : Nat) : Call String → List Line
  | ⟨name, parameters, children, moduleId⟩ =>
      let c : Call String := ⟨name, parameters, children, moduleId⟩
      if children.isEmpty then [.leaf depth c]
      else .opening depth c :: (childLines (depth + 1) children ++ [.closing depth])

def childLines (depth : Nat) : List (Call String) → List Line
  | [] => []
  | c :: cs =>
      (match c.moduleId with
        | some m => [.link depth m]
        | none => lines depth c) ++ childLines depth cs

end

mutual

theorem statement_eq_unlines (indent : String) : ∀ (depth : Nat) (c : Call String),
    c.statement indent depth = unlines ((c.lines depth).map (Line.text indent))
  | depth, ⟨name, parameters, children, moduleId⟩ => by
      rw [statement, lines]
      cases children with
      | nil => simp [unlines, Line.text, String.append_assoc]
      | cons c cs =>
          have inner := statements_eq_unlines indent (depth + 1) (c :: cs)
          simp [inner, unlines_cons, unlines_append, Line.text, String.append_assoc]
          simp [unlines]

theorem statements_eq_unlines (indent : String) : ∀ (depth : Nat) (cs : List (Call String)),
    statements indent depth cs = unlines ((childLines depth cs).map (Line.text indent))
  | _, [] => rfl
  | depth, c :: cs => by
      rw [statements, childLines, statements_eq_unlines indent depth cs, List.map_append,
        unlines_append]
      congr 1
      cases c.moduleId with
      | some m => simp [unlines, Line.text, String.append_assoc]
      | none => exact statement_eq_unlines indent depth c

end

mutual

/-- The module calls of a statement are the named calls of the frontier. -/
theorem links_lines : ∀ (depth : Nat) (c : Call String),
    (c.lines depth).filterMap Line.link? = c.frontier.map (·.id)
  | depth, ⟨name, parameters, children, moduleId⟩ => by
      rw [lines, frontier, ← links_childLines (depth + 1) children]
      cases children with
      | nil => rfl
      | cons c cs => simp [Line.link?, List.filterMap_cons]

theorem links_childLines : ∀ (depth : Nat) (cs : List (Call String)),
    (childLines depth cs).filterMap Line.link? = (frontierAll cs).map (·.id)
  | _, [] => rfl
  | depth, c :: cs => by
      rw [childLines, frontierAll, List.filterMap_append, List.map_append,
        links_childLines depth cs]
      congr 1
      cases c.moduleId with
      | some m => rfl
      | none => exact links_lines depth c

end

/-! ## Calls without line feeds -/

mutual

/-- All calls of a tree, each before its children. -/
def nodes : Call String → List (Call String)
  | ⟨name, parameters, children, moduleId⟩ =>
      ⟨name, parameters, children, moduleId⟩ :: nodesAll children

def nodesAll : List (Call String) → List (Call String)
  | [] => []
  | c :: cs => nodes c ++ nodesAll cs

end

/-- No name, key or value of the call itself contains a line feed. -/
def OneLined (c : Call String) : Prop :=
  OneLine c.name ∧ ∀ e ∈ c.parameters.entries, OneLine e.1 ∧ OneLine e.2

instance (c : Call String) : Decidable c.OneLined := by unfold OneLined; infer_instance

/-- No name, key or value in the tree contains a line feed. -/
def NewlineFree (c : Call String) : Prop := ∀ d ∈ c.nodes, d.OneLined

instance (c : Call String) : Decidable c.NewlineFree := by unfold NewlineFree; infer_instance

theorem self_mem_nodes (c : Call String) : c ∈ c.nodes := by
  obtain ⟨name, parameters, children, moduleId⟩ := c
  rw [nodes]
  exact List.mem_cons_self

mutual

theorem nodes_subset_of_mem_frontier : ∀ {c : Call String} {n : NamedCall},
    n ∈ c.frontier → n.call.nodes ⊆ c.nodes
  | ⟨_, _, children, _⟩, n, h => by
      rw [frontier] at h
      rw [nodes]
      exact List.Subset.trans (nodes_subset_of_mem_frontierAll h) (List.subset_cons_self _ _)

theorem nodes_subset_of_mem_frontierAll : ∀ {cs : List (Call String)} {n : NamedCall},
    n ∈ frontierAll cs → n.call.nodes ⊆ nodesAll cs
  | [], _, h => by simp [frontierAll] at h
  | c :: cs, n, h => by
      rw [frontierAll, List.mem_append] at h
      rw [nodesAll]
      rcases h with h | h
      · refine List.Subset.trans ?_ (List.subset_append_left _ _)
        cases hm : c.moduleId with
        | some m =>
            rw [hm] at h
            rw [List.mem_singleton.1 h]
            exact List.Subset.refl _
        | none =>
            rw [hm] at h
            exact nodes_subset_of_mem_frontier h
      · refine List.Subset.trans ?_ (List.subset_append_right _ _)
        exact nodes_subset_of_mem_frontierAll h

end

theorem NewlineFree.of_mem_frontier {c : Call String} (h : c.NewlineFree) {n : NamedCall}
    (hn : n ∈ c.frontier) : n.call.NewlineFree :=
  fun d hd => h d (nodes_subset_of_mem_frontier hn hd)

theorem OneLined.oneLine_text {c : Call String} (h : c.OneLined) : OneLine c.text := by
  have arguments : OneLine c.argumentText := by
    apply oneLine_intercalate (by decide)
    intro t ht
    obtain ⟨e, he, rfl⟩ := List.mem_map.1 ht
    obtain ⟨key, value⟩ := h.2 e he
    exact oneLine_append.2 ⟨oneLine_append.2 ⟨key, by decide⟩, value⟩
  rw [text]
  simp only [oneLine_append]
  exact ⟨⟨⟨h.1, by decide⟩, arguments⟩, by decide⟩

theorem oneLine_indentation {indent : String} (h : OneLine indent) (depth : Nat) :
    OneLine (indentation indent depth) := by
  apply oneLine_join.2
  intro s hs
  rw [List.eq_of_mem_replicate hs]
  exact h

theorem oneLine_link {indent : String} (h : OneLine indent) (depth : Nat) (m : Identifier) :
    OneLine ((Line.link depth m).text indent) := by
  simp only [Line.text, oneLine_append]
  exact ⟨⟨oneLine_indentation h depth, m.oneLine_text⟩, by decide⟩

mutual

theorem oneLine_of_mem_lines {indent : String} (hi : OneLine indent) :
    ∀ (depth : Nat) (c : Call String), c.NewlineFree →
      ∀ l ∈ c.lines depth, OneLine (l.text indent)
  | depth, ⟨name, parameters, children, moduleId⟩, h, l, hl => by
      have own := (h _ (self_mem_nodes _)).oneLine_text
      have pad := oneLine_indentation hi depth
      have inner : ∀ d ∈ nodesAll children, d.OneLined := by
        intro d hd
        refine h d ?_
        rw [nodes]
        exact List.mem_cons_of_mem _ hd
      rw [lines] at hl
      cases children with
      | nil =>
          rw [List.mem_singleton.1 hl]
          simp only [Line.text, oneLine_append]
          exact ⟨⟨pad, own⟩, by decide⟩
      | cons c cs =>
          rcases List.mem_cons.1 hl with rfl | hl
          · simp only [Line.text, oneLine_append]
            exact ⟨⟨pad, own⟩, by decide⟩
          · rcases List.mem_append.1 hl with hl | hl
            · exact oneLine_of_mem_childLines hi (depth + 1) (c :: cs) inner l hl
            · rw [List.mem_singleton.1 hl]
              simp only [Line.text, oneLine_append]
              exact ⟨pad, by decide⟩

theorem oneLine_of_mem_childLines {indent : String} (hi : OneLine indent) :
    ∀ (depth : Nat) (cs : List (Call String)), (∀ d ∈ nodesAll cs, d.OneLined) →
      ∀ l ∈ childLines depth cs, OneLine (l.text indent)
  | _, [], _, _, hl => by simp [childLines] at hl
  | depth, c :: cs, h, l, hl => by
      rw [nodesAll] at h
      obtain ⟨here, later⟩ := List.forall_mem_append.1 h
      rw [childLines, List.mem_append] at hl
      rcases hl with hl | hl
      · cases hm : c.moduleId with
        | some m =>
            rw [hm] at hl
            rw [List.mem_singleton.1 hl]
            exact oneLine_link hi depth m
        | none =>
            rw [hm] at hl
            exact oneLine_of_mem_lines hi depth c here l hl
      · exact oneLine_of_mem_childLines hi depth cs later l hl

end

end Call

/-! ## The lines of a file -/

namespace Module

/-- The lines that name the parts. A blank line ends them if there are any. -/
def useLines (parts : List Identifier) : List String :=
  (parts.map fun p => "use <" ++ p.target ++ ">") ++ (if parts = [] then [] else [""])

def openingLine (m : Identifier) : String := "module " ++ m.text ++ "() \x7b"

def footerLines (m : Identifier) : List String := ["\x7d", "", m.text ++ "();"]

theorem useBlock_eq (parts : List Identifier) : useBlock parts = unlines (useLines parts) := by
  have uses : String.join (parts.map useLine) =
      unlines (parts.map fun p => "use <" ++ p.target ++ ">") := by
    rw [unlines, List.map_map]
    congr 1
    apply List.map_congr_left
    intro p _
    simp [useLine, Identifier.target, String.append_assoc]
  rw [useBlock, useLines, unlines_append, ← uses]
  cases parts with
  | nil => rfl
  | cons p ps => rfl

theorem unlines_footerLines (m : Identifier) :
    unlines (footerLines m) = "\x7d\n\n" ++ m.text ++ "();\n" := by
  apply String.toList_inj.1
  simp [unlines, footerLines]

theorem text_eq (indent : String) (m : Module) :
    m.text indent = unlines (useLines (m.parts.map (·.id)) ++ [openingLine m.id]) ++
      (m.definition.statement indent 1 ++ unlines (footerLines m.id)) := by
  rw [text, useBlock_eq, unlines_append, unlines_footerLines]
  simp [unlines, openingLine, String.append_assoc]

/-- All lines of the file as they are written. -/
def fileLines (indent : String) (m : Module) : List String :=
  useLines (m.parts.map (·.id)) ++ openingLine m.id ::
    ((m.definition.lines 1).map (Line.text indent) ++ footerLines m.id)

theorem text_eq_unlines (indent : String) (m : Module) :
    m.text indent = unlines (m.fileLines indent) := by
  rw [text_eq, fileLines, Call.statement_eq_unlines, ← unlines_append, ← unlines_append,
    List.append_assoc]
  rfl

theorem oneLine_useLines (parts : List Identifier) : ∀ s ∈ useLines parts, OneLine s := by
  intro s hs
  rcases List.mem_append.1 hs with hs | hs
  · obtain ⟨p, -, rfl⟩ := List.mem_map.1 hs
    simp only [Identifier.target, Identifier.fileName, oneLine_append]
    exact ⟨⟨by decide, ⟨p.oneLine_text, by decide⟩, p.oneLine_text, by decide⟩, by decide⟩
  · split at hs
    · contradiction
    · rw [List.mem_singleton.1 hs]
      decide

theorem oneLine_openingLine (m : Identifier) : OneLine (openingLine m) := by
  simp only [openingLine, oneLine_append]
  exact ⟨⟨by decide, m.oneLine_text⟩, by decide⟩

theorem oneLine_footerLines (m : Identifier) : ∀ s ∈ footerLines m, OneLine s := by
  simp only [footerLines, List.forall_mem_cons, oneLine_append]
  exact ⟨by decide, by decide, ⟨m.oneLine_text, by decide⟩, by simp⟩

/-- The first lines of the file do not depend on what the definition holds. -/
theorem lines_text (indent : String) (m : Module) :
    lines (m.text indent) = useLines (m.parts.map (·.id)) ++ openingLine m.id ::
      lines (m.definition.statement indent 1 ++ unlines (footerLines m.id)) := by
  -- Identifiers hold no line feeds, so the header comes apart whatever follows it.
  have header : ∀ s ∈ useLines (m.parts.map (·.id)) ++ [openingLine m.id], OneLine s := by
    intro s hs
    rcases List.mem_append.1 hs with hs | hs
    · exact oneLine_useLines _ s hs
    · rw [List.mem_singleton.1 hs]
      exact oneLine_openingLine _
  rw [text_eq, lines_unlines header, List.append_assoc]
  rfl

/-- All lines of the file of a definition without line feeds. -/
theorem lines_body {indent : String} (hi : OneLine indent) {m : Module}
    (h : m.definition.NewlineFree) :
    lines (m.definition.statement indent 1 ++ unlines (footerLines m.id)) =
      (m.definition.lines 1).map (Line.text indent) ++ (footerLines m.id ++ [""]) := by
  have body : ∀ s ∈ (m.definition.lines 1).map (Line.text indent), OneLine s := by
    intro s hs
    obtain ⟨l, hl, rfl⟩ := List.mem_map.1 hs
    exact Call.oneLine_of_mem_lines hi 1 _ h l hl
  have footer := lines_unlines (oneLine_footerLines m.id) ""
  rw [String.append_empty] at footer
  rw [Call.statement_eq_unlines, lines_unlines body, footer]
  rfl

end Module

end Scad
