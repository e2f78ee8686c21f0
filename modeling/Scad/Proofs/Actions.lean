import Scad.FileTree

/-!
# Actions on file trees

What the generator does on a file tree is a step from one tree to the next, which may
fail. A failure keeps the tree that it happened in. To run one action behind another
is to run them one by one (`run_bind`), so a run that succeeds comes apart into runs
that succeed (`run_bind_eq_ok`), and one that fails into those that succeed and the one
that fails (`run_bind_eq_error`).
-/

namespace Scad

variable {α β : Type} {t t' : FileTree}

/-- A step from tree to tree, which may fail. -/
abbrev FileTree.Action (α : Type) := ExceptT Failure (StateM FileTree) α

theorem run_bind (x : FileTree.Action α) (f : α → FileTree.Action β) (t : FileTree) :
    (x >>= f).run t = match x.run t with
      | (.ok a, between) => (f a).run between
      | (.error failure, between) => (.error failure, between) := by
  show (match x.run t with | (r, between) => ExceptT.bindCont f r between) = _
  rcases x.run t with ⟨failure | a, between⟩ <;> rfl

theorem run_bind_eq_ok {x : FileTree.Action α} {f : α → FileTree.Action β} {b : β} :
    (x >>= f).run t = (.ok b, t') ↔
      ∃ a between, x.run t = (.ok a, between) ∧ (f a).run between = (.ok b, t') := by
  rw [run_bind]
  rcases x.run t with ⟨failure | a, between⟩
  · constructor
    · intro h
      cases h
    · rintro ⟨a, between', h, -⟩
      cases h
  · constructor
    · intro h
      exact ⟨a, between, rfl, h⟩
    · rintro ⟨a', between', h, h'⟩
      cases h
      exact h'

theorem run_bind_eq_error {x : FileTree.Action α} {f : α → FileTree.Action β} {failure : Failure} :
    (x >>= f).run t = (.error failure, t') ↔
      x.run t = (.error failure, t') ∨
        ∃ a between, x.run t = (.ok a, between) ∧ (f a).run between = (.error failure, t') := by
  rw [run_bind]
  rcases x.run t with ⟨fails | a, between⟩
  · constructor
    · intro h
      cases h
      exact .inl rfl
    · rintro (h | ⟨a, between', h, -⟩)
      · cases h
        rfl
      · cases h
  · constructor
    · intro h
      exact .inr ⟨a, between, rfl, h⟩
    · rintro (h | ⟨a', between', h, h'⟩)
      · cases h
      · cases h
        exact h'

theorem run_demand_eq_ok {attempt : StateM FileTree Bool} {failure : Failure} :
    (demand attempt failure).run t = (.ok (), t') ↔ attempt t = (true, t') := by
  show (match attempt t with
    | (succeeds, between) =>
        ((if succeeds then pure () else throw failure : FileTree.Action Unit)).run between) = _ ↔ _
  rcases attempt t with ⟨_ | _, between⟩
  · constructor <;> intro h <;> cases h
  · constructor <;> intro h <;> cases h <;> rfl

theorem run_demand_eq_error {attempt : StateM FileTree Bool} {failure cause : Failure} :
    (demand attempt failure).run t = (.error cause, t') ↔
      cause = failure ∧ attempt t = (false, t') := by
  show (match attempt t with
    | (succeeds, between) =>
        ((if succeeds then pure () else throw failure : FileTree.Action Unit)).run between) = _ ↔ _
  rcases attempt t with ⟨_ | _, between⟩
  · constructor
    · intro h
      cases h
      exact ⟨rfl, rfl⟩
    · rintro ⟨rfl, h⟩
      cases h
      rfl
  · constructor
    · intro h
      cases h
    · rintro ⟨-, h⟩
      cases h

theorem run_readText? (p : Path) (t : FileTree) :
    (liftM (FileSystem.readText? p : StateM FileTree (Option String)) :
      FileTree.Action (Option String)).run t = (.ok (t.readText? p), t) := rfl

theorem run_hasEntry (p : Path) (t : FileTree) :
    (liftM (FileSystem.hasEntry p : StateM FileTree Bool) : FileTree.Action Bool).run t =
      (.ok (t.hasEntry p), t) := rfl

end Scad
