import Scad.Proofs.Parts

/-!
# Named descendants

Every named call below a root has a chain: the identifiers of the named calls
between the root and it, the outermost first, and then its own. The root does
not count. A descendant is a named call that the definition reaches first on
its branch, or a descendant of such a call (`mem_descendants`); all properties
of the whole tree go back to properties of one definition through this.
-/

namespace Scad

/-- A named call and the identifiers of the named calls around it. -/
structure Placed extends NamedCall where
  outer : List Identifier

namespace Placed

def chain (p : Placed) : List Identifier := p.outer ++ [p.id]

/-- The same call seen from outside a named call. -/
def under (m : Identifier) (p : Placed) : Placed := { p with outer := m :: p.outer }

/-- The name of the module whose definition holds the call, that of the root if no
named call is around it. -/
def enclosing (root : String) (p : Placed) : String :=
  match p.outer.getLast? with
  | some m => m.text
  | none => root

@[simp] theorem chain_under (m : Identifier) (p : Placed) : (p.under m).chain = m :: p.chain := rfl

@[simp] theorem enclosing_under (m : Identifier) (p : Placed) (root : String) :
    (p.under m).enclosing root = p.enclosing m.text := by
  obtain ⟨n, outer⟩ := p
  cases outer with
  | nil => rfl
  | cons k rest => simp only [enclosing, under, List.getLast?_cons_cons]; rfl

theorem chain_ne_nil (p : Placed) : p.chain ≠ [] := by simp [chain]

end Placed

namespace Call

mutual

/-- All named calls below a call, each before its own descendants. -/
def descendants : Call String → List Placed
  | ⟨_, _, children, _⟩ => descendantsAll children

def descendantsAll : List (Call String) → List Placed
  | [] => []
  | c :: cs =>
      (match c.moduleId with
        | some m => ⟨⟨m, c⟩, []⟩ :: (descendants c).map (Placed.under m)
        | none => descendants c) ++ descendantsAll cs

end

mutual

theorem mem_descendants : ∀ {c : Call String} {p : Placed},
    p ∈ c.descendants ↔
      ∃ n ∈ c.frontier, p = ⟨n, []⟩ ∨ ∃ q ∈ n.call.descendants, p = q.under n.id
  | ⟨_, _, children, _⟩, p => by
      rw [descendants, frontier]
      exact mem_descendantsAll

theorem mem_descendantsAll : ∀ {cs : List (Call String)} {p : Placed},
    p ∈ descendantsAll cs ↔
      ∃ n ∈ frontierAll cs, p = ⟨n, []⟩ ∨ ∃ q ∈ n.call.descendants, p = q.under n.id
  | [], p => by simp [descendantsAll, frontierAll]
  | c :: cs, p => by
      rw [descendantsAll, frontierAll, List.mem_append, mem_descendantsAll]
      simp only [List.mem_append, or_and_right, exists_or]
      refine or_congr ?_ Iff.rfl
      -- A named child is the one call of the frontier on its branch.
      cases hm : c.moduleId with
      | none => exact mem_descendants
      | some m =>
          simp only [List.mem_cons, List.mem_map, List.not_mem_nil, or_false, exists_eq_left]
          refine or_congr Iff.rfl (exists_congr fun q => ?_)
          rw [eq_comm]

end

theorem mem_descendants_of_mem_frontier {c : Call String} {n : NamedCall} (h : n ∈ c.frontier) :
    ⟨n, []⟩ ∈ c.descendants :=
  mem_descendants.2 ⟨n, h, .inl rfl⟩

theorem under_mem_descendants {c : Call String} {n : NamedCall} {q : Placed}
    (h : n ∈ c.frontier) (hq : q ∈ n.call.descendants) : q.under n.id ∈ c.descendants :=
  mem_descendants.2 ⟨n, h, .inr ⟨q, hq, rfl⟩⟩

/-! ## The name of the root -/

/-- The name of the root's module, valid or not. -/
def rootName (suffix : String) (c : Call String) : String :=
  match c.moduleId with
  | some m => m.text
  | none => c.name ++ suffix

/-- The root bears an identifier, or its name and the suffix make one. -/
def HasRootName (suffix : String) (c : Call String) : Prop :=
  c.isModule = true ∨ IsIdentifier (c.name ++ suffix)

instance (suffix : String) (c : Call String) : Decidable (c.HasRootName suffix) := by
  unfold HasRootName; infer_instance

theorem rootId?_of_hasRootName {suffix : String} {c : Call String} (h : c.HasRootName suffix) :
    ∃ id, Module.rootId? suffix c = .ok id ∧ id.text = c.rootName suffix := by
  rw [Module.rootId?, rootName]
  cases hm : c.moduleId with
  | some m => exact ⟨m, rfl, rfl⟩
  | none =>
      have valid : IsIdentifier (c.name ++ suffix) := by simpa [HasRootName, isModule, hm] using h
      exact ⟨⟨_, valid⟩, dif_pos valid, rfl⟩

theorem rootId?_of_not_hasRootName {suffix : String} {c : Call String}
    (h : ¬ c.HasRootName suffix) :
    Module.rootId? suffix c = .error (.invalidIdentifier (c.name ++ suffix)) := by
  rw [HasRootName, not_or] at h
  rw [Module.rootId?]
  cases hm : c.moduleId with
  | some m => exact absurd (by simp [isModule, hm]) h.1
  | none => exact dif_neg h.2

theorem rootName_of_rootId? {suffix : String} {c : Call String} {id : Identifier}
    (h : Module.rootId? suffix c = .ok id) : c.rootName suffix = id.text := by
  by_cases named : c.HasRootName suffix
  · obtain ⟨id', hid, text⟩ := rootId?_of_hasRootName named
    rw [hid] at h
    cases h
    exact text.symm
  · rw [rootId?_of_not_hasRootName named] at h
    contradiction

end Call

end Scad
