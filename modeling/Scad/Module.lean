import Scad.Call

/-!
# Modules

The named calls of a tree become modules. A module defines one call; the named
calls inside it, reached through calls without a name, are its parts, and each
of these is a module in turn. Equal parts of one module are one part. Two
different calls cannot be one part, and no part can bear the name of the module
that it belongs to.
-/

namespace Scad

/-- A call with the identifier that it carries. -/
structure NamedCall where
  id : Identifier
  call : Call String

structure Module where
  id : Identifier
  definition : Call String
  parts : List Module

namespace Call

/-! ## The parts of a definition -/

mutual

/-- The named calls below a call, down to the first on each branch, in the
order of the calls. -/
def frontier : Call String → List NamedCall
  | ⟨_, _, children, _⟩ => frontierAll children

def frontierAll : List (Call String) → List NamedCall
  | [] => []
  | c :: cs =>
      (match c.moduleId with
        | some m => [⟨m, c⟩]
        | none => frontier c) ++ frontierAll cs

end

/-- Adds a named call to the parts found so far. -/
def addPart (defining : Identifier) (found : List NamedCall) (n : NamedCall) :
    Except Fault (List NamedCall) :=
  if n.id = defining then .error (.conflictingModule n.id.text)
  else
    match found.find? (·.id = n.id) with
    | none => .ok (found ++ [n])
    | some before =>
        if before.call = n.call then .ok found else .error (.conflictingModule n.id.text)

/-- The parts of the module that defines a call, in the order of their first use. -/
def parts (defining : Identifier) (c : Call String) : Except Fault (List NamedCall) :=
  c.frontier.foldlM (addPart defining) []

/-! ## Parts are smaller than what they are part of -/

mutual

theorem nodeCount_lt_of_mem_frontier : ∀ {c : Call String} {n : NamedCall},
    n ∈ c.frontier → n.call.nodeCount < c.nodeCount
  | ⟨_, _, children, _⟩, n, h => by
      rw [frontier] at h
      rw [nodeCount]
      have := nodeCount_le_of_mem_frontierAll h
      omega

theorem nodeCount_le_of_mem_frontierAll : ∀ {cs : List (Call String)} {n : NamedCall},
    n ∈ frontierAll cs → n.call.nodeCount ≤ nodeCountAll cs
  | [], _, h => by simp [frontierAll] at h
  | c :: cs, n, h => by
      rw [frontierAll, List.mem_append] at h
      rw [nodeCountAll]
      rcases h with h | h
      · split at h
        · rw [List.mem_singleton] at h
          subst h
          exact Nat.le_add_right _ _
        · have := nodeCount_lt_of_mem_frontier h
          omega
      · have := nodeCount_le_of_mem_frontierAll h
        omega

end

theorem mem_of_mem_addPart {defining : Identifier} {found found' : List NamedCall}
    {n p : NamedCall} (h : addPart defining found n = .ok found') (hp : p ∈ found') :
    p ∈ found ∨ p = n := by
  rw [addPart] at h
  split at h
  · contradiction
  · split at h
    · cases h
      rcases List.mem_append.1 hp with hp | hp
      · exact .inl hp
      · exact .inr (List.mem_singleton.1 hp)
    · split at h
      · cases h
        exact .inl hp
      · contradiction

theorem mem_of_mem_foldlM_addPart {defining : Identifier} {p : NamedCall} :
    ∀ {l found found' : List NamedCall},
      l.foldlM (addPart defining) found = .ok found' → p ∈ found' → p ∈ found ∨ p ∈ l
  | [], found, found', h, hp => by
      cases h
      exact .inl hp
  | n :: l, found, found', h, hp => by
      rw [List.foldlM_cons] at h
      cases hn : addPart defining found n with
      | error e => rw [hn] at h; contradiction
      | ok next =>
          rw [hn] at h
          rcases mem_of_mem_foldlM_addPart h hp with hp | hp
          · rcases mem_of_mem_addPart hn hp with hp | rfl
            · exact .inl hp
            · exact .inr List.mem_cons_self
          · exact .inr (List.mem_cons_of_mem _ hp)

theorem mem_frontier_of_mem_parts {defining : Identifier} {c : Call String}
    {ps : List NamedCall} {p : NamedCall} (h : c.parts defining = .ok ps) (hp : p ∈ ps) :
    p ∈ c.frontier :=
  (mem_of_mem_foldlM_addPart h hp).resolve_left List.not_mem_nil

end Call

namespace Module

/-! ## The module tree of a call -/

/-- The module that defines a call under an identifier, with all its parts. -/
def ofCall? (id : Identifier) (c : Call String) : Except Fault Module :=
  match h : c.parts id with
  | .error fault => .error fault
  | .ok ps => do
      let parts ← ps.attach.mapM fun p =>
        have := Call.nodeCount_lt_of_mem_frontier (Call.mem_frontier_of_mem_parts h p.2)
        ofCall? p.1.id p.1.call
      return ⟨id, c, parts⟩
termination_by c.nodeCount

theorem ofCall?_eq (id : Identifier) (c : Call String) :
    ofCall? id c = do
      let ps ← c.parts id
      let parts ← ps.mapM fun p => ofCall? p.id p.call
      return ⟨id, c, parts⟩ := by
  rw [ofCall?]
  split
  · next fault h => rw [h]; rfl
  · next ps h =>
      have unattach : (ps.attach.mapM fun p => ofCall? p.1.id p.1.call) =
          ps.mapM fun p => ofCall? p.id p.call := by
        rw [List.mapM_subtype (g := fun p => ofCall? p.id p.call) (fun p hp => rfl),
          List.unattach_attach]
      show ((ps.attach.mapM fun p => ofCall? p.1.id p.1.call) >>= fun parts =>
        (pure (Module.mk id c parts) : Except Fault Module)) = _
      rw [unattach, h]
      rfl

/-- The identifier of a whole tree: that of its root, or the name of the root
call with a suffix. -/
def rootId? (suffix : String) (c : Call String) : Except Fault Identifier :=
  match c.moduleId with
  | some m => .ok m
  | none => Identifier.ofString? (c.name ++ suffix)

end Module

end Scad
