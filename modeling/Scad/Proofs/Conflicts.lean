import Scad.Proofs.Descendants
import Scad.SourceFile

/-!
# When a tree has files

The parts of each definition are compared with each other and with the module
that they belong to, and only the first of several equal parts is looked into.
For a whole tree this comes to a condition on all named descendants
(`files?_outcome`): none bears the name of the module around it, and two of the
same chain are the same call. What is reported otherwise is a descendant that
breaks the condition.
-/

namespace Scad

/-- A descendant that bears the name of the module around it, or whose chain leads to
a different call as well. -/
def Placed.Conflicting (root : String) (c : Call String) (p : Placed) : Prop :=
  p.id.text = p.enclosing root ∨ ∃ q ∈ c.descendants, q.chain = p.chain ∧ q.call ≠ p.call

namespace Module

open Call

theorem not_conflicting_of_part {m p : Module} (h : m.Built) (hp : p ∈ m.parts)
    (ih : ∀ q ∈ p.definition.descendants, ¬ q.Conflicting p.id.text p.definition)
    {q : Placed} (hq : q ∈ p.definition.descendants) :
    ¬ (q.under p.id).Conflicting m.id.text m.definition := by
  rintro (reused | ⟨r, hr, same_chain, differ⟩)
  · rw [Placed.enclosing_under] at reused
    exact ih q hq (.inl reused)
  · -- The other call has a chain through the same part, so it lies in that part too.
    rw [Placed.chain_under] at same_chain
    obtain ⟨n, hn, rfl | ⟨r', hr', rfl⟩⟩ := mem_descendants.1 hr
    · obtain ⟨-, nil⟩ := List.cons.inj same_chain
      exact q.chain_ne_nil nil.symm
    · obtain ⟨same_id, same_rest⟩ := List.cons.inj same_chain
      have same : n = p.named :=
        h.gathered.agree n hn p.named (h.named_mem_frontier hp) same_id
      rw [same] at hr'
      exact ih q hq (.inr ⟨r', hr', same_rest, differ⟩)

/-- In a module that came about, no descendant is in conflict. The induction is on the
size of the definition, since a part stands for all named calls equal to it. -/
theorem Built.not_conflicting {m : Module} (h : m.Built) :
    ∀ p ∈ m.definition.descendants, ¬ p.Conflicting m.id.text m.definition := by
  intro p hp
  obtain ⟨n, hn, rfl | ⟨q, hq, rfl⟩⟩ := mem_descendants.1 hp
  · rintro (reused | ⟨r, hr, same_chain, differ⟩)
    · exact h.gathered.apart n hn (Identifier.ext reused)
    · obtain ⟨n', hn', rfl | ⟨r', hr', rfl⟩⟩ := mem_descendants.1 hr
      · obtain ⟨same_id, -⟩ := List.cons.inj same_chain
        have same : n' = n := h.gathered.agree n' hn' n hn same_id
        exact differ (congrArg NamedCall.call same)
      · rw [Placed.chain_under] at same_chain
        exact r'.chain_ne_nil (List.cons.inj same_chain).2
  · obtain ⟨part, hpart, rfl⟩ := h.exists_part hn
    have smaller : part.definition.nodeCount < m.definition.nodeCount :=
      nodeCount_lt_of_mem_frontier hn
    exact not_conflicting_of_part h hpart (h.part hpart).not_conflicting hq
termination_by m.definition.nodeCount

theorem exists_conflicting {id : Identifier} {c : Call String} {fault : Fault}
    (h : ofCall? id c = .error fault) :
    ∃ p ∈ c.descendants, fault = .conflictingModule p.id.text ∧ p.Conflicting id.text c := by
  rcases ofCall?_error h with h | ⟨ps, hps, n, hn, hfault⟩
  · obtain ⟨n, hn, rfl, refused⟩ := refused_of_parts h
    refine ⟨⟨n, []⟩, mem_descendants_of_mem_frontier hn, rfl, ?_⟩
    rcases refused with rfl | ⟨n', hn', same_id, differ⟩
    · exact .inl rfl
    · refine .inr ⟨⟨n', []⟩, mem_descendants_of_mem_frontier hn', ?_, differ⟩
      rw [Placed.chain, Placed.chain, same_id]
  · have in_frontier := mem_frontier_of_mem_parts hps hn
    have smaller : n.call.nodeCount < c.nodeCount := nodeCount_lt_of_mem_frontier in_frontier
    obtain ⟨p, hp, rfl, conflict⟩ := exists_conflicting hfault
    refine ⟨p.under n.id, under_mem_descendants in_frontier hp, rfl, ?_⟩
    rcases conflict with reused | ⟨q, hq, same_chain, differ⟩
    · exact .inl (by rw [Placed.enclosing_under]; exact reused)
    · refine .inr ⟨q.under n.id, under_mem_descendants in_frontier hq, ?_, differ⟩
      rw [Placed.chain_under, Placed.chain_under, same_chain]
termination_by c.nodeCount

/-- The exact condition under which the parts of a whole tree can be told apart. -/
theorem ofCall?_isOk_iff (id : Identifier) (c : Call String) :
    (∃ m, ofCall? id c = .ok m) ↔ ∀ p ∈ c.descendants, ¬ p.Conflicting id.text c := by
  constructor
  · rintro ⟨m, h⟩
    have hm := named_of_ofCall? h
    obtain ⟨rfl, rfl⟩ := NamedCall.mk.inj hm
    exact (built_of_ofCall? h).not_conflicting
  · intro free
    cases h : ofCall? id c with
    | ok m => exact ⟨m, rfl⟩
    | error fault =>
        obtain ⟨p, hp, -, conflict⟩ := exists_conflicting h
        exact absurd conflict (free p hp)

end Module

namespace Call

/-! ## Files of a tree -/

theorem files?_of_rootId? {style : Style} {dir : Path} {c : Call String} {id : Identifier}
    (h : Module.rootId? style.suffix c = .ok id) :
    c.files? style dir = (Module.ofCall? id c).map (Module.files style.indent dir) := by
  rw [files?, h]
  change (Module.ofCall? id c >>= fun m => pure (m.files style.indent dir)) = _
  cases Module.ofCall? id c <;> rfl

theorem exists_module_of_files? {style : Style} {dir : Path} {c : Call String}
    {files : List SourceFile} (h : c.files? style dir = .ok files) :
    ∃ m : Module, Module.rootId? style.suffix c = .ok m.id ∧ m.Built ∧ m.definition = c ∧
      files = m.files style.indent dir := by
  rw [files?, bind_eq_ok] at h
  obtain ⟨id, hid, h⟩ := h
  obtain ⟨m, hm, h⟩ := bind_eq_ok.1 h
  cases h
  obtain ⟨rfl, rfl⟩ := NamedCall.mk.inj (Module.named_of_ofCall? hm)
  exact ⟨m, hid, Module.built_of_ofCall? hm, rfl, rfl⟩

/-- No named descendant bears the name of the module around it. -/
def NoneReused (root : String) (c : Call String) : Prop :=
  ∀ p ∈ c.descendants, p.id.text ≠ p.enclosing root

/-- Two named descendants with the same chain are the same call. -/
def ChainsAgree (c : Call String) : Prop :=
  ∀ p ∈ c.descendants, ∀ q ∈ c.descendants, p.chain = q.chain → p.call = q.call

instance (root : String) (c : Call String) : Decidable (c.NoneReused root) := by
  unfold NoneReused; infer_instance

instance (c : Call String) : Decidable c.ChainsAgree := by unfold ChainsAgree; infer_instance

theorem not_conflicting_iff (root : String) (c : Call String) :
    (∀ p ∈ c.descendants, ¬ p.Conflicting root c) ↔ c.NoneReused root ∧ c.ChainsAgree := by
  constructor
  · intro free
    constructor
    · intro p hp reused
      exact free p hp (.inl reused)
    · intro p hp q hq same
      by_contra differ
      exact free q hq (.inr ⟨p, hp, same, differ⟩)
  · rintro ⟨unused, agree⟩ p hp (reused | ⟨q, hq, same, differ⟩)
    · exact unused p hp reused
    · exact differ (agree q hq p hp same)

/-- A tree has files exactly if its root can be named, no named descendant bears the
name of the module around it, and equal chains lead to equal calls. A root that cannot
be named is reported first; every other fault is the name of a descendant in conflict. -/
theorem files?_outcome (style : Style) (dir : Path) (c : Call String) :
    ((∃ files, c.files? style dir = .ok files) ↔
      c.HasRootName style.suffix ∧ c.NoneReused (c.rootName style.suffix) ∧ c.ChainsAgree) ∧
    (¬ c.HasRootName style.suffix →
      c.files? style dir = .error (.invalidIdentifier (c.name ++ style.suffix))) ∧
    (c.HasRootName style.suffix → ∀ fault, c.files? style dir = .error fault →
      ∃ p ∈ c.descendants, fault = .conflictingModule p.id.text ∧
        (p.id.text = p.enclosing (c.rootName style.suffix) ∨
          ∃ q ∈ c.descendants, q.chain = p.chain ∧ q.call ≠ p.call)) := by
  by_cases named : c.HasRootName style.suffix
  · obtain ⟨id, hid, text⟩ := rootId?_of_hasRootName named
    rw [files?_of_rootId? hid, ← text]
    refine ⟨?_, ?_, ?_⟩
    · rw [← not_conflicting_iff, ← Module.ofCall?_isOk_iff]
      cases Module.ofCall? id c <;> simp [Except.map, named]
    · intro unnamed
      exact absurd named unnamed
    · intro _ fault h
      cases hm : Module.ofCall? id c with
      | ok m => rw [hm] at h; contradiction
      | error fault' =>
          rw [hm] at h
          cases h
          exact Module.exists_conflicting hm
  · have refusal : c.files? style dir = .error (.invalidIdentifier (c.name ++ style.suffix)) := by
      rw [files?, rootId?_of_not_hasRootName named]
      rfl
    refine ⟨?_, fun _ => refusal, fun h => absurd h named⟩
    rw [refusal]
    simp [named]

/-- Two knobs of one name that differ, one of them inside an unnamed call. -/
def unequalKnobs : Call String :=
  let knob (r : String) : Call String := ⟨"sphere", .insert ∅ "r" r, [], some ⟨"knob", by decide⟩⟩
  ⟨"union", ∅, [knob "1", ⟨"translate", ∅, [knob "2"], none⟩], none⟩

theorem unequalKnobs_refused :
    unequalKnobs.HasRootName "_component" ∧
    unequalKnobs.NoneReused (unequalKnobs.rootName "_component") ∧ ¬ unequalKnobs.ChainsAgree ∧
    unequalKnobs.files? ⟨"\t", "_component"⟩ ⟨"."⟩ = .error (.conflictingModule "knob") ∧
    ∃ p ∈ unequalKnobs.descendants, p.id.text = "knob" ∧
      ∃ q ∈ unequalKnobs.descendants, q.chain = p.chain ∧ q.call ≠ p.call := by
  have named : unequalKnobs.HasRootName "_component" := by decide
  have unused : unequalKnobs.NoneReused (unequalKnobs.rootName "_component") := by decide
  have hid : Module.rootId? "_component" unequalKnobs = .ok ⟨"union_component", by decide⟩ := rfl
  have refused : unequalKnobs.files? ⟨"\t", "_component"⟩ ⟨"."⟩ =
      .error (.conflictingModule "knob") := by
    rw [files?_of_rootId? hid, Module.ofCall?_eq]
    rfl
  obtain ⟨p, hp, fault, reused | differ⟩ :=
    (files?_outcome ⟨"\t", "_component"⟩ ⟨"."⟩ unequalKnobs).2.2 named _ refused
  · exact absurd reused (unused p hp)
  · have name := Fault.conflictingModule.inj fault
    exact ⟨named, unused, by decide, refused, p, hp, name.symm, differ⟩

end Call

end Scad
