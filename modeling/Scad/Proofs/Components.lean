import Scad.Generation
import Scad.Proofs.Conflicts

/-!
# Components and unnamed roots

The module of a root without an identifier is named after its call when the files are
made. A component is named after its call before that, while it is encoded, and fails
there if the name is no identifier. What becomes of it is the same: the identifier of
a root names its module and counts for nothing else in the files (`files?_withModule`),
so a component has the files, or the fault, that its body has under the suffix of
components (`files?_component`).
-/

namespace Scad

variable {V : Type}

/-! ## The identifier of a root -/

theorem Call.statement_withModule (indent : String) (depth : Nat) (c : Call String)
    (m : Identifier) : (c.withModule m).statement indent depth = c.statement indent depth := by
  obtain ⟨name, parameters, children, moduleId⟩ := c
  rw [withModule, statement, statement]
  rfl

theorem Call.parts_withModule (defining : Identifier) (c : Call String) (m : Identifier) :
    (c.withModule m).parts defining = c.parts defining := by
  obtain ⟨name, parameters, children, moduleId⟩ := c
  rw [parts, parts, withModule, frontier, frontier]

namespace Module

/-- The module with an identifier at the root of its definition. -/
def withRoot (m : Module) (id : Identifier) : Module :=
  { m with definition := m.definition.withModule id }

theorem ofCall?_withModule (id root : Identifier) (c : Call String) :
    ofCall? id (c.withModule root) = (ofCall? id c).map (withRoot · root) := by
  rw [ofCall?_eq, ofCall?_eq, Call.parts_withModule]
  cases c.parts id with
  | error fault => rfl
  | ok ps =>
      show (ps.mapM (fun p => ofCall? p.id p.call) >>= fun parts =>
        pure (Module.mk id (c.withModule root) parts)) =
          (ps.mapM (fun p => ofCall? p.id p.call) >>= fun parts =>
            pure (Module.mk id c parts)).map (withRoot · root)
      cases ps.mapM fun p => ofCall? p.id p.call <;> rfl

theorem text_withRoot (indent : String) (m : Module) (id : Identifier) :
    (m.withRoot id).text indent = m.text indent := by
  rw [text, text, withRoot, Call.statement_withModule]

theorem files_withRoot (indent : String) (dir : Path) (m : Module) (id : Identifier) :
    (m.withRoot id).files indent dir = m.files indent dir := by
  have body := m.text_withRoot indent id
  obtain ⟨own, definition, parts⟩ := m
  rw [withRoot] at body ⊢
  rw [files, files, body]

end Module

namespace Call

/-- The files of a root with an identifier are those of the module of this name that
defines the root without it. -/
theorem files?_withModule (style : Style) (dir : Path) (c : Call String) (m : Identifier) :
    (c.withModule m).files? style dir =
      (Module.ofCall? m c).map (Module.files style.indent dir) := by
  have root : Module.rootId? style.suffix (c.withModule m) = .ok m := rfl
  rw [files?_of_rootId? root, Module.ofCall?_withModule]
  cases Module.ofCall? m c with
  | error fault => rfl
  | ok module => exact congrArg Except.ok (Module.files_withRoot style.indent dir module m)

/-- The suffix counts only for a root without an identifier. -/
theorem files?_of_moduleId {c : Call String} {m : Identifier} (h : c.moduleId = some m)
    (indent suffix suffix' : String) (dir : Path) :
    c.files? ⟨indent, suffix⟩ dir = c.files? ⟨indent, suffix'⟩ dir := by
  have files : ∀ suffix, c.files? ⟨indent, suffix⟩ dir =
      (Module.ofCall? m c).map (Module.files indent dir) := by
    intro suffix
    apply files?_of_rootId?
    rw [Module.rootId?, h]
  rw [files suffix, files suffix']

/-- To name the root as a component before its files are made comes to the same as to
leave it to the suffix of components. -/
theorem files?_nameComponent (style : Style) (dir : Path) (c : Call String) :
    (c.nameComponent >>= files? style dir) = c.files? ⟨style.indent, componentSuffix⟩ dir := by
  cases h : c.moduleId with
  | some m =>
      have kept : c.nameComponent = .ok c := by simp [nameComponent, isModule, h]
      rw [kept]
      exact files?_of_moduleId h _ _ _ _
  | none =>
      have named : c.nameComponent =
          (Identifier.ofString? (c.name ++ componentSuffix)).map c.withModule := by
        simp [nameComponent, isModule, h]
      have root : Module.rootId? componentSuffix c =
          Identifier.ofString? (c.name ++ componentSuffix) := by
        rw [Module.rootId?, h]
      rw [named]
      cases valid : Identifier.ofString? (c.name ++ componentSuffix) with
      | error fault =>
          rw [valid] at root
          rw [files?, root]
          rfl
      | ok m =>
          rw [valid] at root
          have files : c.files? ⟨style.indent, componentSuffix⟩ dir =
              (Module.ofCall? m c).map (Module.files style.indent dir) := files?_of_rootId? root
          rw [files]
          exact files?_withModule style dir c m

/-- A component is named after its call, whatever the values of its parameters. -/
theorem nameComponent_mapValues (write : V → String) (c : Call V) :
    (c.mapValues write).nameComponent = c.nameComponent.map (mapValues write) := by
  obtain ⟨name, parameters, children, moduleId⟩ := c
  cases moduleId with
  | some m => rfl
  | none =>
      rw [mapValues]
      show (Identifier.ofString? (name ++ componentSuffix)).map _ =
        ((Identifier.ofString? (name ++ componentSuffix)).map _).map _
      cases Identifier.ofString? (name ++ componentSuffix) with
      | error fault => rfl
      | ok m => rfl

end Call

/-! ## The files of a record -/

namespace Record

/-- The files of a record, whose parameters are written by the given function. -/
def files? (write : V → String) (style : Style) (dir : Path) (r : Record V) :
    Except Fault (List SourceFile) := do
  (← (encode r).map (Call.mapValues write)).files? style dir

/-- The files of a model are those of the record with its literals written out. -/
example {K : Type} [Numeral K] (model : Model K) (config : Config) :
    model.files? config = Record.files? Literal.write config.style config.outputDir model := rfl

/-- A component has the files, or the fault, of its body under the suffix of components,
and so those of its body where this is the suffix. -/
theorem files?_component (write : V → String) (style : Style) (dir : Path) (typeName : String)
    (r : Record V) :
    (component typeName r).files? write style dir =
      r.files? write ⟨style.indent, componentSuffix⟩ dir ∧
    (style.suffix = componentSuffix →
      (component typeName r).files? write style dir = r.files? write style dir) := by
  have body : (component typeName r).files? write style dir =
      r.files? write ⟨style.indent, componentSuffix⟩ dir := by
    rw [files?, files?, encode]
    cases encode r with
    | error fault => rfl
    | ok c =>
        show (c.nameComponent.map (Call.mapValues write) >>= _) =
          (c.mapValues write).files? ⟨style.indent, componentSuffix⟩ dir
        rw [← Call.nameComponent_mapValues, ← Call.files?_nameComponent]
  refine ⟨body, ?_⟩
  intro standard
  rw [body, ← standard]

/-- A cube around a part that bears the name of the cube's own module. -/
def cubeInCube : Record String :=
  .fields "Cube" [.autoName "Cube", .children "Children"
    [.named "Named" "cube_component" (.fields "Cube" [.autoName "Cube"])]]

/-- The part is in conflict with the name that the cube gets, at either stage. -/
theorem cubeInCube_component :
    (⟨"\t", componentSuffix⟩ : Style).suffix = componentSuffix ∧
    cubeInCube.files? id ⟨"\t", componentSuffix⟩ ⟨"."⟩ =
      .error (.conflictingModule "cube_component") ∧
    (component "Component" cubeInCube).files? id ⟨"\t", componentSuffix⟩ ⟨"."⟩ =
      .error (.conflictingModule "cube_component") ∧
    (component "Component" cubeInCube).files? id ⟨"\t", "_part"⟩ ⟨"."⟩ =
      .error (.conflictingModule "cube_component") := by
  have conflict : cubeInCube.files? id ⟨"\t", componentSuffix⟩ ⟨"."⟩ =
      .error (.conflictingModule "cube_component") := by
    decide +kernel
  obtain ⟨-, same⟩ := files?_component id ⟨"\t", componentSuffix⟩ ⟨"."⟩ "Component" cubeInCube
  obtain ⟨other, -⟩ := files?_component id ⟨"\t", "_part"⟩ ⟨"."⟩ "Component" cubeInCube
  exact ⟨rfl, conflict, (same rfl).trans conflict, other.trans conflict⟩

end Record

end Scad
