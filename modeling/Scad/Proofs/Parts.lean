import Scad.Module
import Scad.Proofs.Passes

/-!
# The parts of a module

The parts are gathered from the named calls of a definition in one pass. What
the pass keeps is an invariant over the calls seen so far (`Gathered`); what it
refuses is a call that bears the name of the module or that differs from a part
of its name. A module that came about in this way holds a part for each named
call of its definition, and each part is again such a module (`Module.Built`).
-/

namespace Scad

@[ext] theorem Identifier.ext : ∀ {m n : Identifier}, m.text = n.text → m = n
  | ⟨_, _⟩, ⟨_, _⟩, rfl => rfl

namespace Call

/-! ## Gathering the parts -/

/-- What the pass over the named calls has found once it has seen a list of them. -/
structure Gathered (defining : Identifier) (seen found : List NamedCall) : Prop where
  ids : found.map (·.id) = (seen.map (·.id)).eraseDups
  nodup : (found.map (·.id)).Nodup
  mem_iff : ∀ n, n ∈ found ↔ n ∈ seen
  apart : ∀ n ∈ seen, n.id ≠ defining
  agree : ∀ n ∈ seen, ∀ n' ∈ seen, n.id = n'.id → n = n'

theorem Gathered.nil (defining : Identifier) : Gathered defining [] [] where
  ids := rfl
  nodup := .nil
  mem_iff _ := Iff.rfl
  apart _ h := absurd h List.not_mem_nil
  agree _ h := absurd h List.not_mem_nil

theorem eraseDups_append_singleton {α : Type} [DecidableEq α] (l : List α) (a : α) :
    (l ++ [a]).eraseDups = if a ∈ l then l.eraseDups else l.eraseDups ++ [a] := by
  rw [List.eraseDups_append]
  by_cases h : a ∈ l
  · simp [h, List.removeAll]
  · simp [h, List.removeAll, List.eraseDups_cons]

variable {defining : Identifier} {seen found found' l : List NamedCall} {n : NamedCall}

theorem Gathered.snoc_new (g : Gathered defining seen found) (apart : n.id ≠ defining)
    (fresh : ∀ k ∈ seen, k.id ≠ n.id) : Gathered defining (seen ++ [n]) (found ++ [n]) where
  ids := by
    have fresh_id : n.id ∉ seen.map (·.id) := by
      intro hn
      obtain ⟨k, hk, same⟩ := List.mem_map.1 hn
      exact fresh k hk same
    rw [List.map_append, List.map_append, g.ids, List.map_singleton,
      eraseDups_append_singleton, if_neg fresh_id]
  nodup := by
    rw [List.map_append, List.map_singleton]
    apply List.nodup_append.2
    refine ⟨g.nodup, List.pairwise_singleton _ _, ?_⟩
    intro a ha b hb same
    obtain ⟨k, hk, rfl⟩ := List.mem_map.1 ha
    exact fresh k ((g.mem_iff k).1 hk) (same.trans (List.mem_singleton.1 hb))
  mem_iff k := by rw [List.mem_append, List.mem_append, g.mem_iff]
  apart k hk := by
    rcases List.mem_append.1 hk with hk | hk
    · exact g.apart k hk
    · rw [List.mem_singleton.1 hk]
      exact apart
  agree k hk k' hk' same := by
    -- The new call agrees with itself, and no earlier one bears its name.
    rcases List.mem_append.1 hk with hk | hk <;> rcases List.mem_append.1 hk' with hk' | hk'
    · exact g.agree k hk k' hk' same
    · rw [List.mem_singleton.1 hk'] at same
      exact absurd same (fresh k hk)
    · rw [List.mem_singleton.1 hk] at same
      exact absurd same.symm (fresh k' hk')
    · rw [List.mem_singleton.1 hk, List.mem_singleton.1 hk']

theorem Gathered.snoc_old (g : Gathered defining seen found) (hn : n ∈ seen) :
    Gathered defining (seen ++ [n]) found := by
  have mem_seen : ∀ k, k ∈ seen ++ [n] ↔ k ∈ seen := by
    intro k
    rw [List.mem_append, List.mem_singleton]
    constructor
    · rintro (hk | rfl)
      · exact hk
      · exact hn
    · exact .inl
  refine ⟨?_, g.nodup, ?_, ?_, ?_⟩
  · rw [List.map_append, List.map_singleton, eraseDups_append_singleton,
      if_pos (List.mem_map_of_mem hn), g.ids]
  · intro k
    rw [mem_seen, g.mem_iff]
  · intro k hk
    exact g.apart k ((mem_seen k).1 hk)
  · intro k hk k' hk'
    exact g.agree k ((mem_seen k).1 hk) k' ((mem_seen k').1 hk')

/-- One call more keeps the invariant. -/
theorem Gathered.addPart (g : Gathered defining seen found)
    (h : addPart defining found n = .ok found') : Gathered defining (seen ++ [n]) found' := by
  rw [Call.addPart] at h
  split at h
  · contradiction
  · next apart =>
      split at h
      · next absent =>
          cases h
          apply g.snoc_new apart
          intro k hk
          simpa using List.find?_eq_none.1 absent k ((g.mem_iff k).2 hk)
      · next before present =>
          split at h
          · next same_call =>
              -- The part found under the name is the call itself.
              cases h
              have same_id : before.id = n.id := by simpa using List.find?_some present
              have same : before = n := by
                cases before
                cases n
                simp_all
              exact g.snoc_old ((g.mem_iff n).1 (same ▸ List.mem_of_find?_eq_some present))
          · contradiction

theorem Gathered.foldlM_addPart (g : Gathered defining seen found)
    (h : l.foldlM (Call.addPart defining) found = .ok found') :
    Gathered defining (seen ++ l) found' :=
  foldlM_invariant g Gathered.addPart h

theorem gathered_of_parts {c : Call String} {ps : List NamedCall}
    (h : c.parts defining = .ok ps) : Gathered defining c.frontier ps :=
  (Gathered.nil defining).foldlM_addPart h

/-! ## Conflicts between parts -/

/-- A named call that the pass refuses: it has the name of the module, or there is
another call of its name among the given ones. -/
def Refused (defining : Identifier) (among : List NamedCall) (n : NamedCall) : Prop :=
  n.id = defining ∨ ∃ n' ∈ among, n'.id = n.id ∧ n'.call ≠ n.call

theorem Refused.mono {among among' : List NamedCall} (sub : ∀ k ∈ among, k ∈ among')
    (h : Refused defining among n) : Refused defining among' n :=
  h.imp_right fun ⟨n', hn', differ⟩ => ⟨n', sub n' hn', differ⟩

theorem refused_of_addPart {fault : Fault} (h : addPart defining found n = .error fault) :
    fault = .conflictingModule n.id.text ∧ Refused defining found n := by
  rw [addPart] at h
  split at h
  · next same =>
      cases h
      exact ⟨rfl, .inl same⟩
  · split at h
    · contradiction
    · next before present =>
        split at h
        · contradiction
        · next differ =>
            cases h
            refine ⟨rfl, .inr ⟨before, List.mem_of_find?_eq_some present, ?_, differ⟩⟩
            simpa using List.find?_some present

theorem refused_of_foldlM_addPart {fault : Fault} (g : Gathered defining seen found)
    (h : l.foldlM (Call.addPart defining) found = .error fault) :
    ∃ n ∈ l, fault = .conflictingModule n.id.text ∧ Refused defining (seen ++ l) n := by
  obtain ⟨before, n, after, found', rfl, passed, hn⟩ := exists_of_foldlM_error h
  obtain ⟨rfl, refused⟩ := refused_of_addPart hn
  refine ⟨n, by simp, rfl, refused.mono ?_⟩
  intro k hk
  have seen_before := ((g.foldlM_addPart passed).mem_iff k).1 hk
  rw [← List.append_assoc]
  exact List.mem_append_left _ seen_before

theorem refused_of_parts {c : Call String} {fault : Fault}
    (h : c.parts defining = .error fault) :
    ∃ n ∈ c.frontier, fault = .conflictingModule n.id.text ∧ Refused defining c.frontier n :=
  refused_of_foldlM_addPart (Gathered.nil defining) h

end Call

namespace Module

/-! ## Modules that came about from their definition -/

/-- The module is the one that its definition gives under its identifier. -/
def Built (m : Module) : Prop := ofCall? m.id m.definition = .ok m

/-- The module as a named call. -/
def named (m : Module) : NamedCall := ⟨m.id, m.definition⟩

theorem mapM_of_ofCall?_ok {id : Identifier} {c : Call String} {m : Module}
    (h : ofCall? id c = .ok m) :
    ∃ ps, c.parts id = .ok ps ∧ m.named = ⟨id, c⟩ ∧
      List.Forall₂ (fun p part => ofCall? p.id p.call = .ok part) ps m.parts := by
  rw [ofCall?_eq, bind_eq_ok] at h
  obtain ⟨ps, hps, h⟩ := h
  obtain ⟨parts, hparts, h⟩ := bind_eq_ok.1 h
  cases h
  exact ⟨ps, hps, rfl, forall₂_of_mapM_ok hparts⟩

theorem named_of_ofCall? {id : Identifier} {c : Call String} {m : Module}
    (h : ofCall? id c = .ok m) : m.named = ⟨id, c⟩ := by
  obtain ⟨_, -, hm, -⟩ := mapM_of_ofCall?_ok h
  exact hm

theorem built_of_ofCall? {id : Identifier} {c : Call String} {m : Module}
    (h : ofCall? id c = .ok m) : m.Built := by
  have hm := named_of_ofCall? h
  rw [named, NamedCall.mk.injEq] at hm
  rw [Built, hm.1, hm.2, h]

theorem ofCall?_error {id : Identifier} {c : Call String} {fault : Fault}
    (h : ofCall? id c = .error fault) :
    c.parts id = .error fault ∨
      ∃ ps, c.parts id = .ok ps ∧ ∃ p ∈ ps, ofCall? p.id p.call = .error fault := by
  rw [ofCall?_eq, bind_eq_error] at h
  rcases h with h | ⟨ps, hps, h⟩
  · exact .inl h
  · rcases bind_eq_error.1 h with hparts | ⟨parts, -, h⟩
    · exact .inr ⟨ps, hps, exists_of_mapM_error hparts⟩
    · contradiction

variable {m : Module}

/-- The parts are those of the definition, each built in turn. -/
theorem Built.parts (h : m.Built) :
    m.definition.parts m.id = .ok (m.parts.map named) ∧ ∀ p ∈ m.parts, p.Built := by
  obtain ⟨ps, hps, -, built⟩ := mapM_of_ofCall?_ok h
  -- Each part keeps the name and the call that it was built from.
  have same : ps = m.parts.map named := by
    have pairs : List.Forall₂ (fun p part => p = named part) ps m.parts :=
      built.imp fun _ _ hp => (named_of_ofCall? hp).symm
    rw [← List.forall₂_eq_eq_eq]
    exact List.forall₂_map_right_iff.2 pairs
  rw [same] at hps built
  have each := List.forall₂_same.1 (List.forall₂_map_left_iff.1 built)
  exact ⟨hps, fun p hp => each p hp⟩

theorem Built.part (h : m.Built) {p : Module} (hp : p ∈ m.parts) : p.Built := h.parts.2 p hp

theorem Built.gathered (h : m.Built) :
    Call.Gathered m.id m.definition.frontier (m.parts.map named) :=
  Call.gathered_of_parts h.parts.1

theorem Built.named_mem_frontier (h : m.Built) {p : Module} (hp : p ∈ m.parts) :
    p.named ∈ m.definition.frontier :=
  (h.gathered.mem_iff _).1 (List.mem_map_of_mem hp)

/-- Each named call of the definition is the definition of a part. -/
theorem Built.exists_part (h : m.Built) {n : NamedCall} (hn : n ∈ m.definition.frontier) :
    ∃ p ∈ m.parts, p.named = n :=
  List.mem_map.1 ((h.gathered.mem_iff n).2 hn)

/-- The identifiers of the parts, in the order of their first use. -/
theorem Built.part_ids (h : m.Built) :
    m.parts.map (·.id) = (m.definition.frontier.map (·.id)).eraseDups := by
  rw [← h.gathered.ids, List.map_map]
  rfl

end Module

end Scad
