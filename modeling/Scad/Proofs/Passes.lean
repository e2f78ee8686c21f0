import Mathlib.Data.List.Forall2

/-!
# Passes that can fail

What the result of a computation says of its steps, when each step may end it with an
error. A pass over a list that succeeds has succeeded at every element; one that fails
does so at an element, and has succeeded before it.
-/

namespace Scad

variable {ε ε' α β : Type}

/-! ## Single steps -/

section Steps

variable {x : Except ε α} {b : β} {e : ε}

theorem bind_eq_ok {f : α → Except ε β} :
    (x >>= f) = .ok b ↔ ∃ a, x = .ok a ∧ f a = .ok b := by
  cases x <;> simp [bind, Except.bind]

theorem bind_eq_error {f : α → Except ε β} :
    (x >>= f) = .error e ↔ x = .error e ∨ ∃ a, x = .ok a ∧ f a = .error e := by
  cases x <;> simp [bind, Except.bind]

theorem map_eq_ok {g : α → β} : x.map g = .ok b ↔ ∃ a, x = .ok a ∧ g a = b := by
  cases x <;> simp [Except.map]

theorem map_eq_error {g : α → β} : x.map g = .error e ↔ x = .error e := by
  cases x <;> simp [Except.map]

theorem mapError_eq_ok {g : ε → ε'} {a : α} : x.mapError g = .ok a ↔ x = .ok a := by
  cases x <;> simp [Except.mapError]

theorem mapError_eq_error {g : ε → ε'} {e' : ε'} :
    x.mapError g = .error e' ↔ ∃ e, x = .error e ∧ g e = e' := by
  cases x <;> simp [Except.mapError]

end Steps

/-! ## Lists -/

section Lists

variable {f : α → Except ε β} {g : β → α → Except ε β} {e : ε} {l : List α}

theorem forall₂_of_mapM_ok : ∀ {l : List α} {ys : List β},
    l.mapM f = .ok ys → List.Forall₂ (fun x y => f x = .ok y) l ys
  | [], ys, h => by
      cases h
      exact .nil
  | x :: l, ys, h => by
      rw [List.mapM_cons, bind_eq_ok] at h
      obtain ⟨y, hx, h⟩ := h
      obtain ⟨rest, hl, h⟩ := bind_eq_ok.1 h
      cases h
      exact .cons hx (forall₂_of_mapM_ok hl)

theorem exists_of_mapM_error : ∀ {l : List α}, l.mapM f = .error e → ∃ x ∈ l, f x = .error e
  | [], h => by contradiction
  | x :: l, h => by
      rw [List.mapM_cons, bind_eq_error] at h
      rcases h with hx | ⟨y, -, h⟩
      · exact ⟨x, List.mem_cons_self, hx⟩
      · rcases bind_eq_error.1 h with hl | ⟨rest, -, h⟩
        · obtain ⟨z, hz, hf⟩ := exists_of_mapM_error hl
          exact ⟨z, List.mem_cons_of_mem _ hz, hf⟩
        · contradiction

/-- What each step extends by its element holds of the whole list in the end. -/
theorem foldlM_invariant {Inv : List α → β → Prop} {seen : List α} {b b' : β} (start : Inv seen b)
    (step : ∀ {seen b a b'}, Inv seen b → g b a = .ok b' → Inv (seen ++ [a]) b')
    (h : l.foldlM g b = .ok b') : Inv (seen ++ l) b' := by
  induction l generalizing seen b with
  | nil =>
      cases h
      rwa [List.append_nil]
  | cons a l ih =>
      rw [List.foldlM_cons, bind_eq_ok] at h
      obtain ⟨next, ha, h⟩ := h
      have later := ih (step start ha) h
      rwa [List.append_assoc] at later

/-- A pass that fails does so at one of the elements. -/
theorem exists_of_foldlM_error {b : β} (h : l.foldlM g b = .error e) :
    ∃ before a after b', l = before ++ a :: after ∧ before.foldlM g b = .ok b' ∧
      g b' a = .error e := by
  induction l generalizing b with
  | nil => contradiction
  | cons a l ih =>
      rw [List.foldlM_cons, bind_eq_error] at h
      rcases h with ha | ⟨next, ha, h⟩
      · exact ⟨[], a, l, b, rfl, rfl, ha⟩
      · obtain ⟨before, k, after, b', rfl, hbefore, hk⟩ := ih h
        refine ⟨a :: before, k, after, b', rfl, ?_, hk⟩
        rw [List.foldlM_cons, ha]
        exact hbefore

end Lists

end Scad
