import Scad.Proofs.Passes
import Scad.Record.Encode

/-!
# What the fields of a record come to

The fields are taken one after the other, and the first fault ends the encoding. What
comes of it does not depend on the order: it is told by the names, the set parameters
and the groups of children that the fields give, each taken together over the whole list
(`encode_fields_reference`). The draft that has taken a part of the list holds what the
part gives (`Draft.Holds`), and a field that it refuses gives one thing too many or has a
child that cannot be encoded (`Flawed`).
-/

namespace Scad

variable {V R : Type}

/-! ## What fields give -/

namespace Field

/-- The name that a name field gives: its text, or its key if the text is empty. -/
def name? : Field V R → Option String
  | ⟨ident, rename, .name given⟩ =>
      let text := given.getD ""
      some (if text = "" then fieldKey ident rename else text)
  | _ => none

/-- The key and the value that a parameter field gives if it is set. -/
def entry? : Field V R → Option (String × V)
  | ⟨ident, rename, .parameter setting⟩ =>
      setting.get?.map fun value => (fieldKey ident rename, value)
  | _ => none

/-- The child records that a children field gives. -/
def items? : Field V R → Option (List R)
  | ⟨_, _, .children items⟩ => some items
  | _ => none

/-- All fields but parameters that are not set. -/
def contributes : Field V R → Bool
  | ⟨_, _, .parameter setting⟩ => setting.isSet
  | _ => true

def names (fs : List (Field V R)) : List String := fs.filterMap name?

def entries (fs : List (Field V R)) : List (String × V) := fs.filterMap entry?

/-- The keys of the parameters that are set, as often as they are. -/
def keys (fs : List (Field V R)) : List String := (entries fs).map (·.1)

/-- The children, a list for each children field. -/
def groups (fs : List (Field V R)) : List (List R) := fs.filterMap items?

theorem filterMap_concat {α β : Type} (g : α → Option β) (l : List α) (a : α) :
    (l ++ [a]).filterMap g = l.filterMap g ++ (g a).toList := by
  rw [List.filterMap_append]
  cases h : g a <;> simp [h]

theorem names_concat (fs : List (Field V R)) (f : Field V R) :
    names (fs ++ [f]) = names fs ++ f.name?.toList := filterMap_concat _ _ _

theorem entries_concat (fs : List (Field V R)) (f : Field V R) :
    entries (fs ++ [f]) = entries fs ++ f.entry?.toList := filterMap_concat _ _ _

theorem groups_concat (fs : List (Field V R)) (f : Field V R) :
    groups (fs ++ [f]) = groups fs ++ f.items?.toList := filterMap_concat _ _ _

end Field

namespace Record

/-- The record can be encoded. -/
def Encodes (r : Record V) : Prop := ∃ c, encode r = .ok c

/-- What a list of fields must give so that there is a call for it. -/
structure Encodable (fs : List (Field V (Record V))) : Prop where
  name : ∃ name, Field.names fs = [name] ∧ name ≠ ""
  keys : (Field.keys fs).Nodup
  groups : (Field.groups fs).length ≤ 1
  items : ∀ r ∈ (Field.groups fs).flatten, r.Encodes

/-- The call has what the fields give and nothing else. -/
structure Describes (fs : List (Field V (Record V))) (c : Call V) : Prop where
  name : Field.names fs = [c.name]
  parameters : c.parameters.entries.Perm (Field.entries fs)
  children : List.Forall₂ (fun r d => encode r = .ok d) (Field.groups fs).flatten c.children
  moduleId : c.moduleId = none

/-! ## Child records -/

theorem encodeItems_ok {typeName : String} : ∀ {index : Nat} {items : List (Record V)}
    {calls : List (Call V)}, encodeItems typeName index items = .ok calls →
      List.Forall₂ (fun r c => encode r = .ok c) items calls
  | _, [], calls, h => by
      rw [encodeItems] at h
      cases h
      exact .nil
  | index, item :: rest, calls, h => by
      rw [encodeItems, bind_eq_ok] at h
      obtain ⟨call, hitem, h⟩ := h
      obtain ⟨others, hrest, h⟩ := bind_eq_ok.1 h
      cases h
      exact .cons (mapError_eq_ok.1 hitem) (encodeItems_ok hrest)

/-- The first item that fails is the one that is reported. -/
theorem encodeItems_error {typeName : String} {fault : Fault} : ∀ {index : Nat}
    {items : List (Record V)}, encodeItems typeName index items = .error fault →
      ∃ earlier item later cause, items = earlier ++ item :: later ∧
        (∀ r ∈ earlier, r.Encodes) ∧ encode item = .error cause ∧
        fault = .child typeName (index + earlier.length) cause
  | _, [], h => by
      rw [encodeItems] at h
      contradiction
  | index, item :: rest, h => by
      rw [encodeItems, bind_eq_error] at h
      rcases h with hitem | ⟨call, hitem, h⟩
      · obtain ⟨cause, fails, rfl⟩ := mapError_eq_error.1 hitem
        exact ⟨[], item, rest, cause, rfl, by simp, fails, rfl⟩
      · rcases bind_eq_error.1 h with hrest | ⟨others, -, h⟩
        · obtain ⟨earlier, culprit, later, cause, rfl, fine, fails, rfl⟩ := encodeItems_error hrest
          refine ⟨item :: earlier, culprit, later, cause, rfl, ?_, fails, ?_⟩
          · rw [List.forall_mem_cons]
            exact ⟨⟨call, mapError_eq_ok.1 hitem⟩, fine⟩
          · rw [List.length_cons]
            congr 1
            omega
        · contradiction

end Record

/-! ## One field after the other -/

namespace Draft

open Record

variable {typeName : String} {d d' : Draft V} {f : Field V (Record V)}
  {seen fs : List (Field V (Record V))} {fault : Fault}

/-- The draft once a further field is taken. -/
def take (typeName : String) (d : Draft V) : Field V (Record V) → Except Fault (Draft V)
  | ⟨ident, rename, .name given⟩ => d.addName typeName (fieldKey ident rename) given
  | ⟨ident, rename, .parameter setting⟩ =>
      d.addParameter typeName (fieldKey ident rename) setting
  | ⟨ident, rename, .children items⟩ =>
      if d.children.isSome then .error (.repeatedChildren typeName (fieldKey ident rename))
      else (encodeItems typeName 0 items).map fun calls => { d with children := some calls }

theorem encodeFields_eq (typeName : String) (d : Draft V) (fs : List (Field V (Record V))) :
    encodeFields typeName d fs = fs.foldlM (take typeName) d >>= finish typeName := by
  induction fs generalizing d with
  | nil => rfl
  | cons f fs ih =>
      obtain ⟨ident, rename, role⟩ := f
      rw [List.foldlM_cons]
      cases role with
      | name given =>
          rw [encodeFields, take]
          cases d.addName typeName (fieldKey ident rename) given with
          | error fault => rfl
          | ok next => exact ih next
      | parameter setting =>
          rw [encodeFields, take]
          cases d.addParameter typeName (fieldKey ident rename) setting with
          | error fault => rfl
          | ok next => exact ih next
      | children items =>
          rw [encodeFields, take]
          split
          · rfl
          · cases encodeItems typeName 0 items with
            | error fault => rfl
            | ok calls => exact ih _

/-- The draft holds what the fields give that it has taken. -/
structure Holds (seen : List (Field V (Record V))) (d : Draft V) : Prop where
  name : Field.names seen = d.name.toList
  parameters : d.parameters.entries.Perm (Field.entries seen)
  children : List.Forall₂ (List.Forall₂ fun r c => encode r = .ok c) (Field.groups seen)
    d.children.toList

theorem Holds.empty : Holds [] (Draft.empty : Draft V) := ⟨rfl, .refl _, .nil⟩

theorem Holds.keys_perm (g : Holds seen d) : d.parameters.keys.Perm (Field.keys seen) :=
  g.parameters.map Prod.fst

theorem Holds.nodup_keys (g : Holds seen d) : (Field.keys seen).Nodup :=
  g.keys_perm.nodup_iff.1 d.parameters.nodup_keys

variable {ident : String} {rename : Option String}

theorem Holds.addName {given : Option String} (g : Holds seen d)
    (h : d.addName typeName (fieldKey ident rename) given = .ok d') :
    Holds (seen ++ [⟨ident, rename, .name given⟩]) d' := by
  rw [Draft.addName] at h
  split at h
  · contradiction
  · next fresh =>
      have unnamed : d.name = none := by simpa using fresh
      cases h
      refine ⟨?_, ?_, ?_⟩
      · rw [Field.names_concat, g.name, unnamed]
        rfl
      · simpa [Field.entries_concat, Field.entry?] using g.parameters
      · simpa [Field.groups_concat, Field.items?] using g.children

theorem Holds.addParameter {setting : Setting V} (g : Holds seen d)
    (h : d.addParameter typeName (fieldKey ident rename) setting = .ok d') :
    Holds (seen ++ [⟨ident, rename, .parameter setting⟩]) d' := by
  rw [Draft.addParameter] at h
  split at h
  · next unset =>
      cases h
      refine ⟨?_, ?_, ?_⟩
      · simpa [Field.names_concat, Field.name?] using g.name
      · simpa [Field.entries_concat, Field.entry?, unset] using g.parameters
      · simpa [Field.groups_concat, Field.items?] using g.children
  · next value given =>
      split at h
      · contradiction
      · next fresh =>
          cases h
          have absent : fieldKey ident rename ∉ d.parameters.keys := by
            rwa [← SortedMap.contains_iff]
          refine ⟨?_, ?_, ?_⟩
          · simpa [Field.names_concat, Field.name?] using g.name
          · -- A key that is new comes in addition to the entries that are there.
            have added := SortedMap.entries_insert_perm value absent
            have onto := (g.parameters.cons (fieldKey ident rename, value)).trans
              (List.perm_append_singleton _ _).symm
            simpa [Field.entries_concat, Field.entry?, given] using added.trans onto
          · simpa [Field.groups_concat, Field.items?] using g.children

theorem Holds.addChildren {items : List (Record V)} {calls : List (Call V)} (g : Holds seen d)
    (childless : d.children = none) (h : encodeItems typeName 0 items = .ok calls) :
    Holds (seen ++ [⟨ident, rename, .children items⟩]) { d with children := some calls } := by
  have none_yet : Field.groups seen = [] := by
    have children := g.children
    rw [childless] at children
    exact List.forall₂_nil_right_iff.1 children
  refine ⟨?_, ?_, ?_⟩
  · simpa [Field.names_concat, Field.name?] using g.name
  · simpa [Field.entries_concat, Field.entry?] using g.parameters
  · rw [Field.groups_concat, none_yet]
    exact .cons (encodeItems_ok h) .nil

/-- A field that is taken leaves the draft with what it gives as well. -/
theorem Holds.take (g : Holds seen d) (h : d.take typeName f = .ok d') :
    Holds (seen ++ [f]) d' := by
  obtain ⟨ident, rename, role⟩ := f
  cases role with
  | name given => exact g.addName h
  | parameter setting => exact g.addParameter h
  | children items =>
      rw [Draft.take] at h
      split at h
      · contradiction
      · next fresh =>
          obtain ⟨calls, hcalls, rfl⟩ := map_eq_ok.1 h
          exact g.addChildren (by simpa using fresh) hcalls

theorem Holds.foldlM (g : Holds seen d) (h : fs.foldlM (Draft.take typeName) d = .ok d') :
    Holds (seen ++ fs) d' :=
  foldlM_invariant g Holds.take h

/-! ## Fields that are refused -/

/-- A fault in a list of fields: something that they give once too often, or a child that
cannot be encoded. -/
inductive Flawed (typeName : String) (fs : List (Field V (Record V))) : Fault → Prop where
  | name (key : String) (twice : 2 ≤ (Field.names fs).length) :
      Flawed typeName fs (.repeatedName typeName key)
  | parameter (key : String) (twice : ¬ (Field.keys fs).Nodup) :
      Flawed typeName fs (.repeatedParameter typeName key)
  | children (key : String) (twice : 2 ≤ (Field.groups fs).length) :
      Flawed typeName fs (.repeatedChildren typeName key)
  | item (index : Nat) (items : List (Record V)) (r : Record V) (cause : Fault)
      (group : items ∈ Field.groups fs) (at_index : items[index]? = some r)
      (fails : encode r = .error cause) : Flawed typeName fs (.child typeName index cause)

theorem Flawed.mono (sub : seen.Sublist fs) (h : Flawed typeName seen fault) :
    Flawed typeName fs fault := by
  cases h with
  | name key twice => exact .name key (Nat.le_trans twice (sub.filterMap _).length_le)
  | parameter key twice =>
      refine .parameter key (mt ?_ twice)
      exact List.Nodup.sublist ((sub.filterMap _).map _)
  | children key twice => exact .children key (Nat.le_trans twice (sub.filterMap _).length_le)
  | item index items r cause group at_index fails =>
      exact .item index items r cause ((sub.filterMap _).subset group) at_index fails

theorem Holds.flawed_of_take (g : Holds seen d) (h : d.take typeName f = .error fault) :
    Flawed typeName (seen ++ [f]) fault := by
  obtain ⟨ident, rename, role⟩ := f
  cases role with
  | name given =>
      rw [Draft.take, Draft.addName] at h
      split at h
      · next named =>
          cases h
          obtain ⟨name, hname⟩ := Option.isSome_iff_exists.1 named
          refine .name _ ?_
          rw [Field.names_concat, g.name, hname]
          exact Nat.le_refl 2
      · contradiction
  | parameter setting =>
      rw [Draft.take, Draft.addParameter] at h
      split at h
      · contradiction
      · next value given =>
          split at h
          · next present =>
              cases h
              have before : fieldKey ident rename ∈ Field.keys seen := by
                rw [SortedMap.contains_iff] at present
                exact g.keys_perm.mem_iff.1 present
              refine .parameter _ ?_
              rw [Field.keys, Field.entries_concat, List.map_append]
              intro nodup
              have apart := (List.nodup_append.1 nodup).2.2
              refine apart _ before (fieldKey ident rename) ?_ rfl
              simp [Field.entry?, given]
          · contradiction
  | children items =>
      rw [Draft.take] at h
      split at h
      · next taken =>
          cases h
          obtain ⟨calls, hcalls⟩ := Option.isSome_iff_exists.1 taken
          have one : (Field.groups seen).length = 1 := by
            rw [g.children.length_eq, hcalls]
            rfl
          refine .children _ ?_
          rw [Field.groups_concat, List.length_append, one]
          exact Nat.le_refl 2
      · have hcalls := map_eq_error.1 h
        obtain ⟨earlier, r, later, cause, rfl, -, fails, rfl⟩ := encodeItems_error hcalls
        refine .item _ (earlier ++ r :: later) r cause ?_ (by simp) fails
        rw [Field.groups_concat]
        exact List.mem_append_right _ List.mem_cons_self

theorem finish_ok {c : Call V} (h : d.finish typeName = .ok c) :
    d.name = some c.name ∧ c.name ≠ "" ∧ c.parameters = d.parameters ∧
      c.children = d.children.getD [] ∧ c.moduleId = none := by
  rw [finish] at h
  split at h
  · contradiction
  · next name hname =>
      split at h
      · contradiction
      · next nonempty =>
          cases h
          exact ⟨hname, nonempty, rfl, rfl, rfl⟩

theorem finish_error (h : d.finish typeName = .error fault) :
    fault = .missingName typeName ∧ ¬ ∃ name, d.name = some name ∧ name ≠ "" := by
  rw [finish] at h
  split at h
  · next unnamed =>
      cases h
      simp [unnamed]
  · next name hname =>
      split at h
      · next empty =>
          cases h
          simp [hname, empty]
      · contradiction

end Draft

/-! ## The call of a list of fields -/

namespace Record

open Draft (Holds Flawed)

variable {typeName : String} {fs fs' : List (Field V (Record V))} {fault : Fault} {c c' : Call V}

theorem encode_fields (typeName : String) (fs : List (Field V (Record V))) :
    encode (.fields typeName fs) =
      fs.foldlM (Draft.take typeName) .empty >>= Draft.finish typeName := by
  rw [encode, Draft.encodeFields_eq]

theorem encode_fields_ok (h : encode (.fields typeName fs) = .ok c) :
    ∃ d, Holds fs d ∧ d.finish typeName = .ok c := by
  rw [encode_fields, bind_eq_ok] at h
  obtain ⟨d, hd, finished⟩ := h
  exact ⟨d, Holds.empty.foldlM hd, finished⟩

theorem encode_fields_error (h : encode (.fields typeName fs) = .error fault) :
    Flawed typeName fs fault ∨
      fault = .missingName typeName ∧ ¬ ∃ name, Field.names fs = [name] ∧ name ≠ "" := by
  rw [encode_fields, bind_eq_error] at h
  rcases h with hd | ⟨d, hd, h⟩
  · obtain ⟨before, f, after, d, rfl, taken, refused⟩ := exists_of_foldlM_error hd
    have holds : Holds before d := Holds.empty.foldlM taken
    have part : (before ++ [f]).Sublist (before ++ f :: after) := by simp
    exact .inl ((holds.flawed_of_take refused).mono part)
  · have holds : Holds fs d := Holds.empty.foldlM hd
    obtain ⟨rfl, unnamed⟩ := Draft.finish_error h
    refine .inr ⟨rfl, ?_⟩
    rintro ⟨name, hname, nonempty⟩
    rw [holds.name] at hname
    exact unnamed ⟨name, by simpa using hname, nonempty⟩

theorem encodes_of_forall₂ {rs : List (Record V)} {cs : List (Call V)}
    (h : List.Forall₂ (fun r d => encode r = .ok d) rs cs) : ∀ r ∈ rs, r.Encodes := by
  induction h with
  | nil => simp
  | cons head _ ih =>
      rw [List.forall_mem_cons]
      exact ⟨⟨_, head⟩, ih⟩

theorem describes_of_encode (h : encode (.fields typeName fs) = .ok c) : Describes fs c := by
  obtain ⟨d, holds, finished⟩ := encode_fields_ok h
  obtain ⟨name, -, parameters, children, moduleId⟩ := Draft.finish_ok finished
  refine ⟨?_, ?_, ?_, moduleId⟩
  · rw [holds.name, name]
    rfl
  · rw [parameters]
    exact holds.parameters
  · have flat := List.rel_flatten holds.children
    have all : d.children.toList.flatten = c.children := by
      rw [children]
      cases d.children <;> simp
    rwa [all] at flat

theorem encodable_of_encode (h : encode (.fields typeName fs) = .ok c) : Encodable fs := by
  obtain ⟨d, holds, finished⟩ := encode_fields_ok h
  have described := describes_of_encode h
  refine ⟨?_, holds.nodup_keys, ?_, encodes_of_forall₂ described.children⟩
  · exact ⟨c.name, described.name, (Draft.finish_ok finished).2.1⟩
  · rw [holds.children.length_eq]
    cases d.children <;> simp

theorem Encodable.encodes (h : Encodable fs) (typeName : String) :
    (Record.fields typeName fs).Encodes := by
  cases hc : encode (.fields typeName fs) with
  | ok c => exact ⟨c, hc⟩
  | error fault =>
      -- Each thing that can be reported is one that the fields are free of.
      rcases encode_fields_error hc with flawed | ⟨-, unnamed⟩
      · obtain ⟨name, hname, -⟩ := h.name
        have groups := h.groups
        cases flawed with
        | name key twice =>
            rw [hname] at twice
            contradiction
        | parameter key twice => exact absurd h.keys twice
        | children key twice => omega
        | item index items r cause group at_index fails =>
            have inside := List.mem_flatten_of_mem group (List.mem_of_getElem? at_index)
            obtain ⟨d, hd⟩ := h.items r inside
            rw [hd] at fails
            contradiction
      · exact absurd h.name unnamed

/-! ## Other orders, other fields that are not set -/

theorem eq_of_perm_of_length_le_one {α : Type} {l l' : List α} (h : l.Perm l')
    (short : l.length ≤ 1) : l = l' := by
  cases l with
  | nil => exact h.nil_eq
  | cons a rest =>
      cases rest with
      | nil => exact List.singleton_perm.1 h
      | cons b rest => simp at short

theorem Encodable.perm (h : Encodable fs) (p : fs.Perm fs') : Encodable fs' := by
  have groups : (Field.groups fs).Perm (Field.groups fs') := p.filterMap _
  obtain ⟨name, hname, nonempty⟩ := h.name
  refine ⟨⟨name, ?_, nonempty⟩, ?_, ?_, ?_⟩
  · have names : (Field.names fs).Perm (Field.names fs') := p.filterMap _
    rw [hname] at names
    exact (List.singleton_perm.1 names).symm
  · have keys : (Field.keys fs).Perm (Field.keys fs') := (p.filterMap _).map _
    exact keys.nodup_iff.1 h.keys
  · rw [← groups.length_eq]
    exact h.groups
  · intro r hr
    exact h.items r (groups.flatten.mem_iff.2 hr)

/-- In whatever order the fields are listed, they describe one call. -/
theorem Describes.unique (h : Describes fs c) (h' : Describes fs' c') (p : fs.Perm fs')
    (single : (Field.groups fs).length ≤ 1) : c = c' := by
  have name : c.name = c'.name := by
    have names : (Field.names fs).Perm (Field.names fs') := p.filterMap _
    rw [h.name, h'.name] at names
    exact List.singleton_inj.1 (List.singleton_perm.1 names)
  have parameters : c.parameters = c'.parameters := by
    have entries : (Field.entries fs).Perm (Field.entries fs') := p.filterMap _
    exact SortedMap.eq_of_entries_perm ((h.parameters.trans entries).trans h'.parameters.symm)
  have children : c.children = c'.children := by
    have groups := eq_of_perm_of_length_le_one (p.filterMap Field.items?) single
    have left := h.children
    rw [Field.groups, groups] at left
    refine List.right_unique_forall₂' ?_ left h'.children
    intro r d d' hd hd'
    exact Except.ok.inj (hd.symm.trans hd')
  have moduleId : c.moduleId = c'.moduleId := h.moduleId.trans h'.moduleId.symm
  cases c
  cases c'
  simp_all

theorem encode_fields_iff :
    encode (.fields typeName fs) = .ok c ↔ Encodable fs ∧ Describes fs c := by
  constructor
  · intro h
    exact ⟨encodable_of_encode h, describes_of_encode h⟩
  · rintro ⟨encodable, described⟩
    obtain ⟨c', hc'⟩ := encodable.encodes typeName
    rw [described.unique (describes_of_encode hc') (.refl _) encodable.groups, hc']

theorem encode_fields_perm (p : fs.Perm fs') (h : encode (.fields typeName fs) = .ok c) :
    encode (.fields typeName fs') = .ok c := by
  have encodable := encodable_of_encode h
  obtain ⟨c', hc'⟩ := (encodable.perm p).encodes typeName
  rw [(describes_of_encode h).unique (describes_of_encode hc') p encodable.groups, hc']

/-- A parameter that is not set changes neither the draft nor the fault. -/
theorem foldlM_take_filter (d : Draft V) (fs : List (Field V (Record V))) :
    (fs.filter Field.contributes).foldlM (Draft.take typeName) d =
      fs.foldlM (Draft.take typeName) d := by
  induction fs generalizing d with
  | nil => rfl
  | cons f fs ih =>
      cases hf : f.contributes with
      | true =>
          rw [List.filter_cons_of_pos hf, List.foldlM_cons, List.foldlM_cons]
          exact bind_congr ih
      | false =>
          have idle : d.take typeName f = .ok d := by
            obtain ⟨ident, rename, role⟩ := f
            cases role with
            | name given => simp [Field.contributes] at hf
            | parameter setting =>
                have unset : setting.isSet = false := hf
                rw [Draft.take, Draft.addParameter, Setting.get?, unset]
                rfl
            | children items => simp [Field.contributes] at hf
          rw [List.filter_cons_of_neg (by simp [hf]), List.foldlM_cons, idle]
          exact ih d

theorem encode_fields_filter (typeName : String) (fs : List (Field V (Record V))) :
    encode (.fields typeName (fs.filter Field.contributes)) = encode (.fields typeName fs) := by
  rw [encode_fields, encode_fields, foldlM_take_filter]

/-- The call of a record depends on what its fields give in all, not on their order, and
on no parameter that is not set. -/
theorem encode_fields_reference (typeName : String) (fs : List (Field V (Record V))) :
    ((Record.fields typeName fs).Encodes ↔ Encodable fs) ∧
    (∀ c, encode (.fields typeName fs) = .ok c ↔ Encodable fs ∧ Describes fs c) ∧
    (∀ fs', fs.Perm fs' → ∀ c,
      encode (.fields typeName fs) = .ok c ↔ encode (.fields typeName fs') = .ok c) ∧
    (∀ fs', fs.filter Field.contributes = fs'.filter Field.contributes →
      encode (.fields typeName fs) = encode (.fields typeName fs')) := by
  refine ⟨⟨?_, ?_⟩, ?_, ?_, ?_⟩
  · rintro ⟨c, hc⟩
    exact encodable_of_encode hc
  · intro encodable
    exact encodable.encodes typeName
  · intro c
    exact encode_fields_iff
  · intro fs' p c
    exact ⟨encode_fields_perm p, encode_fields_perm p.symm⟩
  · intro fs' same
    rw [← encode_fields_filter typeName fs, same, encode_fields_filter]

/-- The fields of a crate with one child. Two of them have the key `size`, and only one of
these is set. -/
def crateFields : List (Field String (Record String)) :=
  [(Field.parameter "SizeXYZ" (.of "[1, 2, 3]")).renamed "size", .parameter "Size" .unset,
    .children "Children" [.fields "Ball" [.name "Shape" "sphere"]], .name "Crate" ""]

def crateCall : Call String :=
  ⟨"crate", .insert ∅ "size" "[1, 2, 3]", [.bare "sphere"], none⟩

theorem crate_encode :
    encode (.fields "Crate" crateFields) = .ok crateCall ∧
    (Encodable crateFields ∧ Describes crateFields crateCall) ∧
    crateFields.Perm crateFields.reverse ∧
    encode (.fields "Crate" crateFields.reverse) = .ok crateCall ∧
    crateFields.filter Field.contributes =
      (crateFields.eraseIdx 1).filter Field.contributes ∧
    encode (.fields "Crate" crateFields) =
      encode (.fields "Crate" (crateFields.eraseIdx 1)) := by
  have encoded : encode (.fields "Crate" crateFields) = .ok crateCall := rfl
  have reversed : crateFields.Perm crateFields.reverse := crateFields.reverse_perm.symm
  obtain ⟨-, described, permuted, reduced⟩ := encode_fields_reference "Crate" crateFields
  exact ⟨encoded, (described crateCall).1 encoded, reversed,
    (permuted _ reversed crateCall).1 encoded, rfl, reduced _ rfl⟩

end Record

end Scad
