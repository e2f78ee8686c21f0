import Scad.Generation
import Scad.Proofs.Conflicts
import Scad.Proofs.Culprits

/-!
# What becomes of a record

For a record that the library makes, it can be said when it has a call, how the call is
named, and what can be reported if there is none (`Record.Outcome`). The outcome of a
whole follows from the outcomes of its parts: for a list of fields from its parameters and
its children, for what stands around a record from the record. The files of a record with
such an outcome are refused for modules in conflict and for nothing else
(`Record.Outcome.conflicting_of_files?`).
-/

namespace Scad

variable {V R K : Type}

/-! ## Names -/

/-- The names of the calls that the library makes. -/
def libraryNames : List String :=
  ["cube", "sphere", "cylinder", "square", "circle", "text", "union", "difference",
    "intersection", "translate", "rotate", "scale", "linear_extrude"]

theorem isIdentifier_component {name : String} (h : name ∈ libraryNames) :
    IsIdentifier (name ++ componentSuffix) := by
  have all : ∀ name ∈ libraryNames, IsIdentifier (name ++ componentSuffix) := by decide
  exact all name h

theorem ne_empty_of_mem_libraryNames {name : String} (h : name ∈ libraryNames) : name ≠ "" := by
  rintro rfl
  revert h
  decide

/-- A name that a module can be given, or no name. -/
def IsModuleName (name : String) : Prop := name ≠ "" → IsIdentifier name

theorem isModuleName_firstNonEmpty {name other : String} (h : IsIdentifier other) :
    IsModuleName (firstNonEmpty [name, other]) ↔ IsModuleName name := by
  have nonempty : other ≠ "" := by
    rintro rfl
    revert h
    decide
  by_cases empty : name = ""
  · have first : firstNonEmpty [name, other] = other := by simp [firstNonEmpty, empty, nonempty]
    rw [first, IsModuleName, IsModuleName]
    exact ⟨fun _ named => absurd empty named, fun _ _ => h⟩
  · have first : firstNonEmpty [name, other] = name := by simp [firstNonEmpty, empty]
    rw [first]

/-! ## Keys of parameters -/

namespace Field

/-- The keys of all parameters, set or not. -/
def parameterKeys (fs : List (Field V R)) : List String :=
  fs.filterMap fun
    | ⟨ident, rename, .parameter _⟩ => some (fieldKey ident rename)
    | _ => none

theorem keys_append (fs gs : List (Field V R)) : keys (fs ++ gs) = keys fs ++ keys gs := by
  rw [keys, entries, List.filterMap_append, List.map_append]
  rfl

theorem keys_cons_parameter (ident : String) (rename : Option String) (s : Setting V)
    (fs : List (Field V R)) :
    keys (⟨ident, rename, .parameter s⟩ :: fs) =
      if s.isSet then fieldKey ident rename :: keys fs else keys fs := by
  obtain ⟨value, isSet⟩ := s
  cases isSet <;> rfl

theorem keys_sublist_parameterKeys (fs : List (Field V R)) :
    (keys fs).Sublist (parameterKeys fs) := by
  induction fs with
  | nil => exact .slnil
  | cons f fs ih =>
      obtain ⟨ident, rename, role⟩ := f
      cases role with
      | name given => exact ih
      | parameter s =>
          rw [keys_cons_parameter]
          split
          · exact ih.cons_cons _
          · exact ih.cons _
      | children items => exact ih

theorem nodup_keys {fs : List (Field V R)} (h : (parameterKeys fs).Nodup) : (keys fs).Nodup :=
  h.sublist (keys_sublist_parameterKeys fs)

/-- Of two neighbours with one key only one may be set, if no other key is shared. -/
theorem nodup_keys_iff_of_twins (before after : List (Field V R)) {ident ident' : String}
    {rename rename' : Option String} {s t : Setting V}
    (twins : fieldKey ident rename = fieldKey ident' rename')
    (others : (parameterKeys (before ++ ⟨ident, rename, .parameter s⟩ :: after)).Nodup) :
    (keys (before ++ ⟨ident, rename, .parameter s⟩ ::
      ⟨ident', rename', .parameter t⟩ :: after)).Nodup ↔ ¬ (s.isSet = true ∧ t.isSet = true) := by
  constructor
  · rintro nodup ⟨hs, ht⟩
    rw [keys_append, keys_cons_parameter, if_pos hs, keys_cons_parameter, if_pos ht, twins] at nodup
    have behind := (List.nodup_append.1 nodup).2.1
    exact (List.nodup_cons.1 behind).1 List.mem_cons_self
  · intro single
    by_cases hs : s.isSet = true
    · have ht : ¬ t.isSet = true := fun ht => single ⟨hs, ht⟩
      have one := nodup_keys others
      rw [keys_append, keys_cons_parameter] at one
      rw [keys_append, keys_cons_parameter, keys_cons_parameter, if_neg ht]
      exact one
    · -- The second field stands in the place of the first.
      have same : parameterKeys (before ++ ⟨ident, rename, .parameter s⟩ :: after) =
          parameterKeys (before ++ ⟨ident', rename', .parameter t⟩ :: after) := by
        rw [parameterKeys, parameterKeys, List.filterMap_append, List.filterMap_append]
        exact congrArg (fun key => _ ++ key :: parameterKeys after) twins
      rw [same] at others
      have one := nodup_keys others
      rw [keys_append] at one
      rw [keys_append, keys_cons_parameter, if_neg hs]
      exact one

end Field

/-! ## Modules around a call -/

namespace Call

theorem nameModule_ok {name : String} {c d : Call V} (h : c.nameModule name = .ok d) :
    d.name = c.name ∧ IsModuleName name := by
  rw [nameModule] at h
  split at h
  · next empty =>
      cases h
      exact ⟨rfl, fun named => absurd empty named⟩
  · obtain ⟨m, hid, rfl⟩ := map_eq_ok.1 h
    refine ⟨rfl, fun _ => ?_⟩
    rw [Identifier.ofString?] at hid
    split at hid
    · assumption
    · contradiction

theorem nameComponent_ok {c d : Call V} (h : c.nameComponent = .ok d) : d.name = c.name := by
  rw [nameComponent] at h
  split at h
  · cases h
    rfl
  · obtain ⟨m, -, rfl⟩ := map_eq_ok.1 h
    rfl

end Call

/-- The innermost fault is a parameter set twice or a text that is no identifier. -/
def Fault.IsMisuse (fault : Fault) : Prop :=
  (∃ typeName key, fault.root = .repeatedParameter typeName key) ∨
    ∃ text, fault.root = .invalidIdentifier text

namespace Record

/-! ## Outcomes -/

/-- The record has a call of the library exactly if it is sound, and else there is a
misuse. -/
structure Outcome (r : Record V) (sound : Prop) : Prop where
  encodes : r.Encodes ↔ sound
  known : ∀ c, encode r = .ok c → c.name ∈ libraryNames
  misuse : ∀ fault, encode r = .error fault → fault.IsMisuse

/-- All records have calls exactly if they are sound, and else there is a misuse. -/
structure Outcomes (rs : List (Record V)) (sound : Prop) : Prop where
  encodes : (∀ r ∈ rs, r.Encodes) ↔ sound
  misuse : ∀ r ∈ rs, ∀ fault, encode r = .error fault → fault.IsMisuse

variable {r : Record V} {rs : List (Record V)} {typeName : String} {P Q : Prop}

theorem Outcome.congr (h : Outcome r P) (same : P ↔ Q) : Outcome r Q :=
  ⟨h.encodes.trans same, h.known, h.misuse⟩

theorem Outcomes.nil : Outcomes ([] : List (Record V)) True := ⟨by simp, by simp⟩

theorem Outcomes.cons (h : Outcome r P) (hs : Outcomes rs Q) : Outcomes (r :: rs) (P ∧ Q) := by
  constructor
  · rw [List.forall_mem_cons, h.encodes, hs.encodes]
  · rw [List.forall_mem_cons]
    exact ⟨h.misuse, hs.misuse⟩

theorem Outcomes.concat (hs : Outcomes rs Q) (h : Outcome r P) :
    Outcomes (rs ++ [r]) (Q ∧ P) := by
  constructor
  · rw [List.forall_mem_append, List.forall_mem_singleton, h.encodes, hs.encodes]
  · rw [List.forall_mem_append, List.forall_mem_singleton]
    exact ⟨hs.misuse, h.misuse⟩

/-! ## Records around a record -/

theorem Outcome.of_encode_eq {s : Record V} (same : encode s = encode r) (h : Outcome r P) :
    Outcome s P := by
  refine ⟨?_, ?_, ?_⟩
  · rw [Encodes, same]
    exact h.encodes
  · rw [same]
    exact h.known
  · rw [same]
    exact h.misuse

theorem Outcome.custom (typeName : String) (h : Outcome r P) : Outcome (.custom typeName r) P :=
  h.of_encode_eq (by rw [encode])

theorem Outcome.reference (h : Outcome r P) : Outcome (.reference r) P :=
  h.of_encode_eq (by rw [encode])

/-- What is done with the call of a record may need more of it, and keeps its name. -/
theorem Outcome.bind {s : Record V} {g : Call V → Except Fault (Call V)} (h : Outcome r P)
    (around : encode s = encode r >>= g)
    (done : ∀ {c d : Call V}, g c = .ok d → d.name = c.name ∧ Q)
    (refused : ∀ {c : Call V} {fault : Fault}, c.name ∈ libraryNames → g c = .error fault →
      ¬ Q ∧ fault.IsMisuse) : Outcome s (P ∧ Q) := by
  refine ⟨⟨?_, ?_⟩, ?_, ?_⟩
  · rintro ⟨d, hd⟩
    rw [around, bind_eq_ok] at hd
    obtain ⟨c, hc, hg⟩ := hd
    exact ⟨h.encodes.1 ⟨c, hc⟩, (done hg).2⟩
  · rintro ⟨sound, proper⟩
    obtain ⟨c, hc⟩ := h.encodes.2 sound
    rw [Encodes, around, hc]
    cases hg : g c with
    | ok d => exact ⟨d, hg⟩
    | error fault => exact absurd proper (refused (h.known c hc) hg).1
  · intro d hd
    rw [around, bind_eq_ok] at hd
    obtain ⟨c, hc, hg⟩ := hd
    rw [(done hg).1]
    exact h.known c hc
  · intro fault hd
    rw [around, bind_eq_error] at hd
    rcases hd with fails | ⟨c, hc, hg⟩
    · exact h.misuse fault fails
    · exact (refused (h.known c hc) hg).2

theorem Outcome.named (typeName name : String) (h : Outcome r P) :
    Outcome (.named typeName name r) (P ∧ IsModuleName name) := by
  refine h.bind (by rw [encode]) Call.nameModule_ok ?_
  intro c fault _ refused
  obtain ⟨nonempty, invalid, rfl⟩ := Call.nameModule_error refused
  exact ⟨fun proper => invalid (proper nonempty), .inr ⟨name, rfl⟩⟩

/-- A component is always given a name, for the calls of the library have names with which
it can be made. -/
theorem Outcome.component (typeName : String) (h : Outcome r P) :
    Outcome (.component typeName r) P := by
  have outcome : Outcome (.component typeName r) (P ∧ True) := by
    refine h.bind (by rw [encode]) ?_ ?_
    · intro c d completed
      exact ⟨Call.nameComponent_ok completed, trivial⟩
    · intro c fault known refused
      obtain ⟨-, invalid, -⟩ := Call.nameComponent_error refused
      exact absurd (isIdentifier_component known) invalid
  exact outcome.congr (and_iff_left trivial)

/-! ## Fields of the library -/

/-- One name that the library knows, and parameters of which no two have one key exactly
if the fields are sound. -/
structure Basic (fs : List (Field V (Record V))) (sound : Prop) : Prop where
  named : ∃ name ∈ libraryNames, Field.names fs = [name]
  childless : Field.groups fs = []
  keys : (Field.keys fs).Nodup ↔ sound

theorem Basic.of_distinct {fs : List (Field V (Record V))}
    (named : ∃ name ∈ libraryNames, Field.names fs = [name]) (childless : Field.groups fs = [])
    (distinct : (Field.parameterKeys fs).Nodup) : Basic fs True :=
  ⟨named, childless, iff_true_intro (Field.nodup_keys distinct)⟩

theorem Basic.of_twins (before after : List (Field V (Record V))) {ident ident' : String}
    {rename rename' : Option String} {s t : Setting V}
    (named : ∃ name ∈ libraryNames, Field.names (before ++ ⟨ident, rename, .parameter s⟩ ::
      ⟨ident', rename', .parameter t⟩ :: after) = [name])
    (childless : Field.groups (before ++ ⟨ident, rename, .parameter s⟩ ::
      ⟨ident', rename', .parameter t⟩ :: after) = [])
    (twins : fieldKey ident rename = fieldKey ident' rename')
    (others : (Field.parameterKeys (before ++ ⟨ident, rename, .parameter s⟩ :: after)).Nodup) :
    Basic (before ++ ⟨ident, rename, .parameter s⟩ :: ⟨ident', rename', .parameter t⟩ :: after)
      (¬ (s.isSet = true ∧ t.isSet = true)) :=
  ⟨named, childless, Field.nodup_keys_iff_of_twins before after twins others⟩

theorem Outcome.of_fields {fs : List (Field V (Record V))}
    (named : ∃ name ∈ libraryNames, Field.names fs = [name])
    (single : (Field.groups fs).length ≤ 1) (keys : (Field.keys fs).Nodup ↔ P)
    (items : Outcomes (Field.groups fs).flatten Q) : Outcome (.fields typeName fs) (P ∧ Q) := by
  obtain ⟨name, known, hname⟩ := named
  have nonempty : name ≠ "" := ne_empty_of_mem_libraryNames known
  refine ⟨⟨?_, ?_⟩, ?_, ?_⟩
  · rintro ⟨c, hc⟩
    have encodable := encodable_of_encode hc
    exact ⟨keys.1 encodable.keys, items.encodes.1 encodable.items⟩
  · rintro ⟨distinct, sound⟩
    have encodable : Encodable fs :=
      ⟨⟨name, hname, nonempty⟩, keys.2 distinct, single, items.encodes.2 sound⟩
    exact encodable.encodes typeName
  · intro c hc
    have given := (describes_of_encode hc).name
    rw [hname] at given
    rwa [← List.singleton_inj.1 given]
  · intro fault failed
    rcases encode_fields_error failed with flawed | ⟨-, unnamed⟩
    · cases flawed with
      | name key twice =>
          rw [hname] at twice
          contradiction
      | parameter key twice => exact .inl ⟨typeName, key, rfl⟩
      | children key twice => omega
      | item index group r cause inside at_index fails =>
          have among := List.mem_flatten_of_mem inside (List.mem_of_getElem? at_index)
          exact items.misuse r among cause fails
    · exact absurd ⟨name, hname, nonempty⟩ unnamed

theorem Basic.outcome {fs : List (Field V (Record V))} (h : Basic fs P) (typeName : String) :
    Outcome (.fields typeName fs) P := by
  have outcome : Outcome (.fields typeName fs) (P ∧ True) := by
    refine .of_fields h.named ?_ h.keys ?_
    · rw [h.childless]
      exact Nat.zero_le 1
    · rw [h.childless]
      exact .nil
  exact outcome.congr (and_iff_left trivial)

theorem Basic.outcome_children {fs : List (Field V (Record V))} (h : Basic fs P)
    (hs : Outcomes rs Q) (typeName ident : String) :
    Outcome (.fields typeName (fs ++ [.children ident rs])) (P ∧ Q) := by
  have groups : Field.groups (fs ++ [.children ident rs]) = [rs] := by
    rw [Field.groups_concat, h.childless]
    rfl
  refine .of_fields ?_ ?_ ?_ ?_
  · rw [Field.names_concat]
    show ∃ name ∈ libraryNames, Field.names fs ++ [] = [name]
    rw [List.append_nil]
    exact h.named
  · rw [groups]
    exact Nat.le_refl 1
  · rw [Field.keys_append]
    show (Field.keys fs ++ []).Nodup ↔ P
    rw [List.append_nil]
    exact h.keys
  · rw [groups]
    simpa using hs

/-! ## Files -/

/-- A model that has a call of the library has a root that can be named, so only modules
in conflict are left to refuse its files. -/
theorem Outcome.conflicting_of_files? [Numeral K] {m : Model K} {config : Config}
    {fault : Fault} (h : Outcome m P) (encodes : m.Encodes)
    (suffix : config.suffix = componentSuffix) (refused : m.files? config = .error fault) :
    ∃ id, fault = .conflictingModule id := by
  obtain ⟨⟨name, parameters, children, moduleId⟩, hc⟩ := encodes
  have known : name ∈ libraryNames := h.known _ hc
  let call : Call String := Call.mapValues Literal.write ⟨name, parameters, children, moduleId⟩
  have hcall : m.call? = .ok call := by
    rw [Model.call?, hc]
    rfl
  have named : call.HasRootName config.style.suffix := by
    refine .inr ?_
    show IsIdentifier (name ++ config.suffix)
    rw [suffix]
    exact isIdentifier_component known
  obtain ⟨id, hid, -⟩ := Call.rootId?_of_hasRootName named
  have refused_call : call.files? config.style config.outputDir = .error fault := by
    rw [Model.files?, hcall] at refused
    exact refused
  rw [Call.files?_of_rootId? hid, map_eq_error] at refused_call
  obtain ⟨p, -, reported, -⟩ := Module.exists_conflicting refused_call
  exact ⟨p.id.text, reported⟩

end Record

end Scad
