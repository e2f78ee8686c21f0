/-!
# Sorted maps

A finite map held as its entries in strictly ascending order of their keys.
The order is part of the type, so two maps with the same entries are equal
and a listing of the entries is a listing in key order.
-/

namespace Scad

variable {κ α β : Type} [Ord κ]

structure SortedMap (κ α : Type) [Ord κ] where
  entries : List (κ × α)
  ascending : entries.Pairwise fun a b => compare a.1 b.1 = .lt
deriving DecidableEq

namespace SortedMap

def empty : SortedMap κ α := ⟨[], .nil⟩

instance : EmptyCollection (SortedMap κ α) := ⟨empty⟩

instance : Inhabited (SortedMap κ α) := ⟨empty⟩

def isEmpty (m : SortedMap κ α) : Bool := m.entries.isEmpty

def keys (m : SortedMap κ α) : List κ := m.entries.map (·.1)

/-- The value at a key. -/
def get? [DecidableEq κ] (m : SortedMap κ α) (k : κ) : Option α := m.entries.lookup k

def contains [DecidableEq κ] (m : SortedMap κ α) (k : κ) : Bool := (m.get? k).isSome

/-! ## Insertion -/

/-- Places an entry in order, in place of an entry with the same key. -/
def place (k : κ) (v : α) : List (κ × α) → List (κ × α)
  | [] => [(k, v)]
  | (k', v') :: rest =>
      match compare k k' with
      | .lt => (k, v) :: (k', v') :: rest
      | .eq => (k, v) :: rest
      | .gt => (k', v') :: place k v rest

theorem key_of_mem_place {k : κ} {v : α} {e : κ × α} {l : List (κ × α)} :
    e ∈ place k v l → e.1 = k ∨ e ∈ l := by
  induction l with
  | nil => intro h; simp [place] at h; exact .inl (by rw [h])
  | cons head rest ih =>
      intro h
      rw [place] at h
      split at h
      · rcases List.mem_cons.1 h with rfl | h
        · exact .inl rfl
        · exact .inr h
      · rcases List.mem_cons.1 h with rfl | h
        · exact .inl rfl
        · exact .inr (List.mem_cons_of_mem _ h)
      · rcases List.mem_cons.1 h with rfl | h
        · exact .inr List.mem_cons_self
        · exact (ih h).imp_right (List.mem_cons_of_mem _)

theorem place_ascending [Std.TransCmp (compare : κ → κ → Ordering)] (k : κ) (v : α)
    {l : List (κ × α)} (h : l.Pairwise fun a b => compare a.1 b.1 = .lt) :
    (place k v l).Pairwise fun a b => compare a.1 b.1 = .lt := by
  induction l with
  | nil => exact List.pairwise_singleton _ _
  | cons head rest ih =>
      obtain ⟨first, later⟩ := List.pairwise_cons.1 h
      rw [place]
      split
      · next less =>
          refine List.pairwise_cons.2 ⟨fun e he => ?_, h⟩
          rcases List.mem_cons.1 he with rfl | he
          · exact less
          · exact Std.TransCmp.lt_trans less (first e he)
      · next same =>
          refine List.pairwise_cons.2 ⟨fun e he => ?_, later⟩
          exact Std.TransCmp.lt_of_eq_of_lt same (first e he)
      · next greater =>
          refine List.pairwise_cons.2 ⟨fun e he => ?_, ih later⟩
          rcases key_of_mem_place he with he | he
          · rw [he]; exact Std.OrientedCmp.gt_iff_lt.1 greater
          · exact first e he

variable [Std.TransCmp (compare : κ → κ → Ordering)]

/-- Sets the value at a key, whether or not it had one. -/
def insert (m : SortedMap κ α) (k : κ) (v : α) : SortedMap κ α :=
  ⟨place k v m.entries, place_ascending k v m.ascending⟩

/-- The map of a list of entries. A later entry replaces an earlier one with its key. -/
def ofList (l : List (κ × α)) : SortedMap κ α :=
  l.foldl (fun m e => m.insert e.1 e.2) empty

omit [Std.TransCmp (compare : κ → κ → Ordering)] in
/-- The same keys with the values changed. -/
def mapValues (f : α → β) (m : SortedMap κ α) : SortedMap κ β where
  entries := m.entries.map fun e => (e.1, f e.2)
  ascending := List.pairwise_map.2 m.ascending

/-! ## The value at a key -/

omit [Ord κ] [Std.TransCmp (compare : κ → κ → Ordering)] in
theorem lookup_entry [DecidableEq κ] (k k' : κ) (v : α) (l : List (κ × α)) :
    List.lookup k' ((k, v) :: l) = if k' = k then some v else l.lookup k' := by
  by_cases h : k' = k
  · rw [if_pos h, List.lookup_cons, beq_iff_eq.2 h]
  · rw [if_neg h, List.lookup_cons, beq_eq_false_iff_ne.2 h]

omit [Std.TransCmp (compare : κ → κ → Ordering)] in
theorem lookup_place [DecidableEq κ]
    [Std.LawfulEqCmp (compare : κ → κ → Ordering)] (k k' : κ) (v : α) (l : List (κ × α)) :
    (place k v l).lookup k' = if k' = k then some v else l.lookup k' := by
  induction l with
  | nil => exact lookup_entry k k' v []
  | cons head rest ih =>
      obtain ⟨key, value⟩ := head
      rw [place]
      split
      · exact lookup_entry k k' v _
      · next same =>
          obtain rfl : k = key := Std.LawfulEqCmp.eq_of_compare same
          rw [lookup_entry, lookup_entry]
          by_cases h : k' = k
          · rw [if_pos h, if_pos h]
          · rw [if_neg h, if_neg h, if_neg h]
      · next greater =>
          have apart : k ≠ key := by
            intro h
            have same : compare k key = .eq := h ▸ Std.ReflCmp.compare_self
            rw [same] at greater
            contradiction
          rw [lookup_entry, lookup_entry, ih]
          by_cases h : k' = k
          · rw [if_pos h, if_neg (h ▸ apart), if_pos h]
          · rw [if_neg h, if_neg h]

/-- Insertion changes the value at its own key alone. -/
theorem get?_insert [DecidableEq κ] [Std.LawfulEqCmp (compare : κ → κ → Ordering)]
    (m : SortedMap κ α) (k k' : κ) (v : α) :
    (m.insert k v).get? k' = if k' = k then some v else m.get? k' :=
  lookup_place k k' v m.entries

/-! ## The entries as a whole -/

omit [Std.TransCmp (compare : κ → κ → Ordering)] in
theorem contains_iff [DecidableEq κ] {m : SortedMap κ α} {k : κ} :
    m.contains k = true ↔ k ∈ m.keys := by
  rw [contains, get?, List.lookup_isSome_iff, keys, List.mem_map]
  simp only [beq_iff_eq, @eq_comm _ k]

theorem nodup_keys (m : SortedMap κ α) : m.keys.Nodup := by
  rw [keys]
  apply List.pairwise_map.2
  apply m.ascending.imp
  intro a b less same
  have equal : compare b.1 b.1 = .eq := Std.ReflCmp.compare_self
  rw [same, equal] at less
  contradiction

omit [Std.TransCmp (compare : κ → κ → Ordering)] in
theorem place_perm [Std.LawfulEqCmp (compare : κ → κ → Ordering)] {k : κ} (v : α)
    {l : List (κ × α)} (fresh : k ∉ l.map (·.1)) : (place k v l).Perm ((k, v) :: l) := by
  induction l with
  | nil => exact .refl _
  | cons head rest ih =>
      rw [List.map_cons, List.mem_cons, not_or] at fresh
      rw [place]
      split
      · exact .refl _
      · next same => exact absurd (Std.LawfulEqCmp.eq_of_compare same) fresh.1
      · exact ((ih fresh.2).cons head).trans (.swap _ _ _)

/-- A new key adds its entry to the others. -/
theorem entries_insert_perm [Std.LawfulEqCmp (compare : κ → κ → Ordering)]
    {m : SortedMap κ α} {k : κ} (v : α) (fresh : k ∉ m.keys) :
    (m.insert k v).entries.Perm ((k, v) :: m.entries) :=
  place_perm v fresh

/-- The order of the entries is not free. -/
theorem eq_of_entries_perm {m m' : SortedMap κ α} (h : m.entries.Perm m'.entries) : m = m' := by
  have same : m.entries = m'.entries := by
    apply h.eq_of_pairwise _ m.ascending m'.ascending
    intro a b _ _ less greater
    exact absurd greater (Std.OrientedCmp.not_lt_of_lt less)
  cases m
  cases m'
  cases same
  rfl

omit [Std.TransCmp (compare : κ → κ → Ordering)] in
theorem place_last [Std.OrientedCmp (compare : κ → κ → Ordering)] {k : κ} (v : α)
    {l : List (κ × α)} (h : ∀ e ∈ l, compare e.1 k = .lt) : place k v l = l ++ [(k, v)] := by
  induction l with
  | nil => rfl
  | cons head rest ih =>
      obtain ⟨first, later⟩ := List.forall_mem_cons.1 h
      have after : compare k head.1 = .gt := Std.OrientedCmp.gt_of_lt first
      rw [place, after, ih later, List.cons_append]

/-- Entries in order, set one after the other, end up in that order. -/
theorem ofList_entries (m : SortedMap κ α) : ofList m.entries = m := by
  have inOrder : ∀ (l : List (κ × α)) (m : SortedMap κ α),
      (m.entries ++ l).Pairwise (fun a b => compare a.1 b.1 = .lt) →
        (l.foldl (fun m e => m.insert e.1 e.2) m).entries = m.entries ++ l := by
    intro l
    induction l with
    | nil => intro m _; exact (List.append_nil _).symm
    | cons e l ih =>
        intro m ascending
        have before := (List.pairwise_append.1 ascending).2.2
        have last : (m.insert e.1 e.2).entries = m.entries ++ [e] :=
          place_last _ fun e' he' => before e' he' e List.mem_cons_self
        rw [List.foldl_cons, ih, last, List.append_assoc, List.singleton_append]
        rwa [last, List.append_assoc, List.singleton_append]
  exact eq_of_entries_perm (.of_eq (inOrder m.entries ∅ m.ascending))

/-! ## Setting a value again -/

theorem place_of_mem {k : κ} {v : α} {l : List (κ × α)}
    (ascending : l.Pairwise fun a b => compare a.1 b.1 = .lt) (h : (k, v) ∈ l) :
    place k v l = l := by
  induction l with
  | nil => contradiction
  | cons head rest ih =>
      obtain ⟨first, later⟩ := List.pairwise_cons.1 ascending
      rcases List.mem_cons.1 h with rfl | h
      · have self : compare k k = .eq := Std.ReflCmp.compare_self
        rw [place, self]
      · have after : compare k head.1 = .gt := Std.OrientedCmp.gt_of_lt (first _ h)
        rw [place, after, ih later h]

section Lookup

variable [DecidableEq κ] [Std.LawfulEqCmp (compare : κ → κ → Ordering)] {m m' : SortedMap κ α}
  {k : κ} {v : α}

theorem get?_eq_some_iff : m.get? k = some v ↔ (k, v) ∈ m.entries := by
  constructor
  · intro h
    obtain ⟨before, after, entries, -⟩ := List.lookup_eq_some_iff.1 h
    rw [entries]
    exact List.mem_append_right _ List.mem_cons_self
  · intro h
    have same : (m.insert k v).entries = m.entries := place_of_mem m.ascending h
    rw [← eq_of_entries_perm (.of_eq same), get?_insert, if_pos rfl]

/-- A value that is there already changes nothing. -/
theorem insert_of_get? (h : m.get? k = some v) : m.insert k v = m := by
  have same : (m.insert k v).entries = m.entries :=
    place_of_mem m.ascending (get?_eq_some_iff.1 h)
  exact eq_of_entries_perm (.of_eq same)

/-- A map is what it has at each key. -/
theorem ext_get? (h : ∀ k, m.get? k = m'.get? k) : m = m' := by
  have nodup : ∀ m : SortedMap κ α, m.entries.Nodup := by
    intro m
    refine List.Pairwise.of_map (·.1) ?_ m.nodup_keys
    rintro a b apart rfl
    exact apart rfl
  apply eq_of_entries_perm
  apply (List.perm_ext_iff_of_nodup (nodup m) (nodup m')).2
  rintro ⟨k, v⟩
  rw [← get?_eq_some_iff, ← get?_eq_some_iff, h]

end Lookup

end SortedMap

end Scad
