import Mathlib.Data.List.Nodup
import Mathlib.Data.List.Perm.Basic
import Scad.Proofs.Conflicts

/-!
# The modules of a tree in the order of their files

A module and all modules inside it are listed as entries, each with its chain of
identifiers below the top. Each entry but the first is a part of exactly one
entry (`flatMap_parts_perm`), and it comes after that one (`part_mem_after`). In
a module that came about from its definition no two entries have the same chain
(`Built.nodup_chains`), and the chains are those of the named descendants.
-/

namespace Scad

/-- A module inside another one and the identifiers of the modules around it, the
outermost excepted, down to its own. -/
structure Entry where
  chain : List Identifier
  module : Module

namespace Entry

/-- The same entry seen from outside a module. -/
def under (m : Identifier) (e : Entry) : Entry := ⟨m :: e.chain, e.module⟩

def part (e : Entry) (p : Module) : Entry := ⟨e.chain ++ [p.id], p⟩

def parts (e : Entry) : List Entry := e.module.parts.map e.part

@[simp] theorem chain_under (m : Identifier) (e : Entry) : (e.under m).chain = m :: e.chain := rfl

theorem parts_under (m : Identifier) (e : Entry) : (e.under m).parts = e.parts.map (under m) := by
  rw [parts, parts, List.map_map]
  rfl

end Entry

namespace Module

mutual

def entries : Module → List Entry
  | ⟨id, definition, parts⟩ => ⟨[], ⟨id, definition, parts⟩⟩ :: entriesOfParts parts

def entriesOfParts : List Module → List Entry
  | [] => []
  | ⟨id, definition, parts⟩ :: rest =>
      (entries ⟨id, definition, parts⟩).map (Entry.under id) ++ entriesOfParts rest

end

theorem entriesOfParts_eq : ∀ parts : List Module,
    entriesOfParts parts = parts.flatMap fun p => p.entries.map (Entry.under p.id)
  | [] => rfl
  | ⟨id, definition, inner⟩ :: rest => by
      rw [entriesOfParts, entriesOfParts_eq rest, List.flatMap_cons]

theorem entries_eq (m : Module) :
    m.entries = ⟨[], m⟩ :: m.parts.flatMap fun p => p.entries.map (Entry.under p.id) := by
  obtain ⟨id, definition, parts⟩ := m
  rw [entries, entriesOfParts_eq]

/-- Induction over a module from its parts. -/
theorem induction {P : Module → Prop} (step : ∀ m, (∀ p ∈ m.parts, P p) → P m) : ∀ m, P m
  | ⟨id, definition, parts⟩ => step ⟨id, definition, parts⟩ fun p hp =>
      have := List.sizeOf_lt_of_mem hp
      induction step p

theorem top_mem_entries (m : Module) : ⟨[], m⟩ ∈ m.entries := by
  rw [entries_eq]
  exact List.mem_cons_self

theorem mem_entries {m : Module} {e : Entry} :
    e ∈ m.entries ↔ e = ⟨[], m⟩ ∨ ∃ p ∈ m.parts, ∃ e' ∈ p.entries, e = e'.under p.id := by
  simp only [entries_eq m, List.mem_cons, List.mem_flatMap, List.mem_map]
  refine or_congr Iff.rfl (exists_congr fun p => ?_)
  simp only [eq_comm]

theorem length_entries_pos (m : Module) : 0 < m.entries.length := by
  rw [entries_eq]
  exact Nat.succ_pos _

theorem length_entries_lt {m p : Module} (hp : p ∈ m.parts) :
    p.entries.length < m.entries.length := by
  obtain ⟨before, after, split⟩ := List.append_of_mem hp
  rw [entries_eq m, split, List.flatMap_append, List.flatMap_cons]
  simp only [List.length_cons, List.length_append, List.length_map]
  omega

/-! ## Each entry is a part of one before it -/

/-- All parts of all entries are all entries but the first, each once. -/
theorem flatMap_parts_perm : ∀ m : Module, (m.entries.flatMap Entry.parts).Perm m.entries.tail := by
  apply induction
  intro m ih
  have inner : ∀ p ∈ m.parts, ((p.entries.map (Entry.under p.id)).flatMap Entry.parts).Perm
      (p.entries.tail.map (Entry.under p.id)) := by
    intro p hp
    rw [List.flatMap_map]
    simp only [Entry.parts_under]
    rw [← List.map_flatMap]
    exact (ih p hp).map _
  have split : ∀ p : Module, p.entries.map (Entry.under p.id) =
      (⟨[p.id], p⟩ : Entry) :: p.entries.tail.map (Entry.under p.id) := by
    intro p
    rw [entries_eq p]
    rfl
  rw [entries_eq m, List.flatMap_cons, List.flatMap_assoc, List.tail_cons]
  -- What is below a part is its own claim; the entry of the part itself is a part of the top.
  refine ((List.Perm.flatMap_left m.parts inner).append_left _).trans ?_
  simp only [split]
  exact List.map_append_flatMap_perm m.parts _ _

theorem part_mem_after_of_parts {l : List Module}
    (each : ∀ m ∈ l, ∀ {before after : List Entry} {e : Entry},
      m.entries = before ++ e :: after → ∀ p ∈ e.module.parts, e.part p ∈ after)
    {before after : List Entry} {e : Entry}
    (split : (l.flatMap fun m => m.entries.map (Entry.under m.id)) = before ++ e :: after) :
    ∀ p ∈ e.module.parts, e.part p ∈ after := by
  induction l generalizing before with
  | nil => simp at split
  | cons m l ih =>
      have later := @ih fun k hk => each k (List.mem_cons_of_mem _ hk)
      rw [List.flatMap_cons] at split
      -- The entry lies behind those of `m`, or among them.
      rcases List.append_eq_append_iff.1 split with ⟨rest, -, hrest⟩ | ⟨rest, hrest, tail⟩
      · exact later hrest
      · rcases List.cons_eq_append_iff.1 tail with ⟨rfl, h⟩ | ⟨rest', rfl, rfl⟩
        · exact @later [] h
        · obtain ⟨l₁, l₂, hl, -, hl₂⟩ := List.map_eq_append_iff.1 hrest
          obtain ⟨e', l₃, rfl, rfl, rfl⟩ := List.map_eq_cons_iff.1 hl₂
          intro p hp
          have mem := each m List.mem_cons_self hl p hp
          exact List.mem_append_left _ (List.mem_map_of_mem (f := Entry.under m.id) mem)

/-- The parts of an entry come after it. -/
theorem part_mem_after : ∀ (m : Module) {before after : List Entry} {e : Entry},
    m.entries = before ++ e :: after → ∀ p ∈ e.module.parts, e.part p ∈ after := by
  apply induction
  intro m ih before after e split
  rw [entries_eq] at split
  rcases List.cons_eq_append_iff.1 split with ⟨-, h⟩ | ⟨before', -, h⟩
  · obtain ⟨rfl, rfl⟩ := List.cons.inj h
    intro p hp
    have mem := List.mem_map_of_mem (f := Entry.under p.id) p.top_mem_entries
    exact List.mem_flatMap.2 ⟨p, hp, mem⟩
  · exact part_mem_after_of_parts ih h

theorem part_mem_entries {m : Module} {e : Entry} (he : e ∈ m.entries) {p : Module}
    (hp : p ∈ e.module.parts) : e.part p ∈ m.entries := by
  obtain ⟨before, after, split⟩ := List.append_of_mem he
  have mem := part_mem_after m split p hp
  rw [split]
  exact List.mem_append_right _ (List.mem_cons_of_mem _ mem)

/-! ## Entries and descendants -/

theorem Built.pairwise_ids {m : Module} (h : m.Built) :
    m.parts.Pairwise fun p q => p.id ≠ q.id := by
  have nodup := h.gathered.nodup
  rw [List.map_map] at nodup
  exact List.pairwise_map.1 nodup

/-- Two different entries have different chains. -/
theorem Built.nodup_chains : ∀ {m : Module}, m.Built → (m.entries.map Entry.chain).Nodup := by
  apply induction
  intro m ih h
  have shifted : ∀ p : Module, (p.entries.map (Entry.under p.id)).map Entry.chain =
      (p.entries.map Entry.chain).map (p.id :: ·) := by
    intro p
    rw [List.map_map, List.map_map]
    rfl
  rw [entries_eq, List.map_cons, List.map_flatMap, List.nodup_cons]
  simp only [shifted]
  constructor
  · simp
  · rw [List.nodup_flatMap]
    constructor
    · intro p hp
      exact (ih p hp (h.part hp)).map List.cons_injective
    · -- Chains through different parts differ in their first identifier.
      apply h.pairwise_ids.imp
      intro p q apart chain hp hq
      obtain ⟨rest, -, rfl⟩ := List.mem_map.1 hp
      obtain ⟨rest', -, same⟩ := List.mem_map.1 hq
      exact apart (List.cons.inj same).1.symm

theorem Built.of_mem_entries : ∀ {m : Module}, m.Built → ∀ e ∈ m.entries, e.module.Built := by
  apply induction
  intro m ih h e he
  rcases mem_entries.1 he with rfl | ⟨p, hp, e', he', rfl⟩
  · exact h
  · exact ih p hp (h.part hp) e' he'

/-- Each entry but the first stands for a named descendant of the definition. -/
theorem Built.descendant_of_entry : ∀ {m : Module}, m.Built → ∀ e ∈ m.entries,
    e = ⟨[], m⟩ ∨
      ∃ q ∈ m.definition.descendants, q.chain = e.chain ∧ q.toNamedCall = e.module.named := by
  apply induction
  intro m ih h e he
  rcases mem_entries.1 he with rfl | ⟨p, hp, e', he', rfl⟩
  · exact .inl rfl
  · have in_frontier := h.named_mem_frontier hp
    rcases ih p hp (h.part hp) e' he' with rfl | ⟨q, hq, same_chain, same_call⟩
    · exact .inr ⟨_, Call.mem_descendants_of_mem_frontier in_frontier, rfl, rfl⟩
    · refine .inr ⟨_, Call.under_mem_descendants in_frontier hq, ?_, same_call⟩
      rw [Placed.chain_under, Entry.chain_under, same_chain]
      rfl

/-- Each named descendant of the definition, a repeated one too, has an entry. -/
theorem Built.entry_of_descendant : ∀ {m : Module}, m.Built → ∀ q ∈ m.definition.descendants,
    ∃ e ∈ m.entries, e.chain = q.chain ∧ e.module.named = q.toNamedCall := by
  apply induction
  intro m ih h q hq
  obtain ⟨n, hn, below⟩ := Call.mem_descendants.1 hq
  obtain ⟨p, hp, rfl⟩ := h.exists_part hn
  rcases below with rfl | ⟨q', hq', rfl⟩
  · refine ⟨_, part_mem_entries m.top_mem_entries hp, rfl, rfl⟩
  · obtain ⟨e, he, same_chain, same_call⟩ := ih p hp (h.part hp) q' hq'
    refine ⟨e.under p.id, mem_entries.2 (.inr ⟨p, hp, e, he, rfl⟩), ?_, same_call⟩
    rw [Entry.chain_under, Placed.chain_under, same_chain]
    rfl

end Module

end Scad
