import Scad.Proofs.Fields

/-!
# The record that fails

A fault names the children that lead to it by their indices, and with each of them the
type of the record that it is a child of. From a record that cannot be encoded the indices
lead, through everything that only stands for another record, to the record whose own
fault it is (`encode_culprit`). On each level the child is the first that fails, and no
field before the children is at fault.
-/

namespace Scad

variable {V : Type}

/-! ## The levels of a fault -/

namespace Fault

/-- The type and the index that each level adds, from the outside in. -/
def levels : Fault → List (String × Nat)
  | .child typeName index cause => (typeName, index) :: cause.levels
  | _ => []

theorem childPath_eq_levels (fault : Fault) : fault.childPath = fault.levels.map (·.2) := by
  induction fault with
  | child typeName index cause ih => rw [childPath, levels, List.map_cons, ih]
  | _ => rfl

theorem exists_of_levels_eq_cons {fault : Fault} {level : String × Nat}
    {inner : List (String × Nat)} (h : fault.levels = level :: inner) :
    ∃ cause, fault = .child level.1 level.2 cause ∧ cause.levels = inner := by
  cases fault with
  | child typeName index cause =>
      obtain ⟨rfl, rest⟩ := List.cons.inj h
      exact ⟨cause, rfl, rest⟩
  | _ => contradiction

theorem root_ne_child (fault : Fault) (typeName : String) (index : Nat) (cause : Fault) :
    fault.root ≠ .child typeName index cause := by
  induction fault with
  | child typeName' index' cause' ih => exact ih
  | _ => simp [root]

end Fault

/-! ## Modules around a call -/

theorem Identifier.ofString?_error {s : String} {fault : Fault}
    (h : Identifier.ofString? s = .error fault) :
    ¬ IsIdentifier s ∧ fault = .invalidIdentifier s := by
  rw [ofString?] at h
  split at h
  · contradiction
  · next invalid =>
      cases h
      exact ⟨invalid, rfl⟩

namespace Call

theorem nameModule_error {name : String} {c : Call V} {fault : Fault}
    (h : c.nameModule name = .error fault) :
    name ≠ "" ∧ ¬ IsIdentifier name ∧ fault = .invalidIdentifier name := by
  rw [nameModule] at h
  split at h
  · contradiction
  · next nonempty => exact ⟨nonempty, Identifier.ofString?_error (map_eq_error.1 h)⟩

theorem nameComponent_error {c : Call V} {fault : Fault} (h : c.nameComponent = .error fault) :
    c.isModule = false ∧ ¬ IsIdentifier (c.name ++ componentSuffix) ∧
      fault = .invalidIdentifier (c.name ++ componentSuffix) := by
  rw [nameComponent] at h
  split at h
  · contradiction
  · next plain =>
      exact ⟨by simpa using plain, Identifier.ofString?_error (map_eq_error.1 h)⟩

end Call

namespace Record

/-! ## The way to the culprit -/

/-- The record itself, behind all that stands for it or makes it a module. -/
def core : Record V → Record V
  | .custom _ inner => inner.core
  | .named _ _ body => body.core
  | .component _ body => body.core
  | .reference body => body.core
  | r => r

/-- The child of an index in the first children field. -/
def child? (r : Record V) (index : Nat) : Option (Record V) :=
  match r.core with
  | .fields _ fs => (Field.groups fs).head?.bind (·[index]?)
  | _ => none

/-- The record to which a path of indices leads. -/
def follow? (r : Record V) : List Nat → Option (Record V)
  | [] => some r
  | index :: path => (r.child? index).bind (·.follow? path)

/-- The fields before the children give neither children nor a fault, but that the name
may come later, and the child at the index is the first that fails. -/
structure FirstToFail (typeName : String) (before : List (Field V (Record V)))
    (items : List (Record V)) (index : Nat) (cause : Fault) : Prop where
  childless : Field.groups before = []
  faultless : ∀ fault, encode (.fields typeName before) = .error fault →
    fault = .missingName typeName
  earlier : ∀ r ∈ items.take index, r.Encodes
  fails : ∃ r, items[index]? = some r ∧ encode r = .error cause

/-- A fault of a child comes from the children field that is taken. -/
theorem children_of_take_error {typeName typeName' : String} {d : Draft V}
    {f : Field V (Record V)} {index : Nat} {cause : Fault}
    (h : d.take typeName f = .error (.child typeName' index cause)) :
    ∃ ident rename items, f = ⟨ident, rename, .children items⟩ ∧ d.children = none ∧
      encodeItems typeName 0 items = .error (.child typeName' index cause) := by
  obtain ⟨ident, rename, role⟩ := f
  cases role with
  | name given =>
      rw [Draft.take, Draft.addName] at h
      split at h
      · cases h
      · contradiction
  | parameter setting =>
      rw [Draft.take, Draft.addParameter] at h
      split at h
      · contradiction
      · split at h
        · cases h
        · contradiction
  | children items =>
      rw [Draft.take] at h
      split at h
      · cases h
      · next fresh =>
          exact ⟨ident, rename, items, rfl, by simpa using fresh, map_eq_error.1 h⟩

theorem firstToFail_of_encode_fields {typeName typeName' : String}
    {fs : List (Field V (Record V))} {index : Nat} {cause : Fault}
    (h : encode (.fields typeName fs) = .error (.child typeName' index cause)) :
    typeName' = typeName ∧ ∃ before ident rename items after,
      fs = before ++ ⟨ident, rename, .children items⟩ :: after ∧
        FirstToFail typeName before items index cause := by
  rw [encode_fields, bind_eq_error] at h
  rcases h with hd | ⟨d, -, h⟩
  · obtain ⟨before, f, after, d, rfl, taken, refused⟩ := exists_of_foldlM_error hd
    have holds : Draft.Holds before d := Draft.Holds.empty.foldlM taken
    obtain ⟨ident, rename, items, rfl, none_yet, failed⟩ := children_of_take_error refused
    obtain ⟨earlier, r, later, cause', rfl, fine, fails, same⟩ := encodeItems_error failed
    rw [Nat.zero_add] at same
    cases same
    refine ⟨rfl, before, ident, rename, _, after, rfl, ?_, ?_, ?_, ?_⟩
    · have children := holds.children
      rw [none_yet] at children
      exact List.forall₂_nil_right_iff.1 children
    · intro fault hfault
      rw [encode_fields, taken] at hfault
      exact (Draft.finish_error hfault).1
    · simpa using fine
    · exact ⟨r, by simp, fails⟩
  · obtain ⟨missing, -⟩ := Draft.finish_error h
    cases missing

/-- A fault of a child is one of the fields behind the record. -/
theorem firstToFail_of_encode {typeName : String} {index : Nat} {cause : Fault} :
    ∀ {r : Record V}, encode r = .error (.child typeName index cause) →
      ∃ before ident rename items after,
        r.core = .fields typeName (before ++ ⟨ident, rename, .children items⟩ :: after) ∧
          FirstToFail typeName before items index cause
  | .absent _, h => by
      rw [encode] at h
      cases h
  | .scalar _, h => by
      rw [encode] at h
      cases h
  | .fields _ fs, h => by
      obtain ⟨rfl, before, ident, rename, items, after, rfl, first⟩ :=
        firstToFail_of_encode_fields h
      exact ⟨before, ident, rename, items, after, rfl, first⟩
  | .custom _ inner, h => by
      rw [encode] at h
      exact firstToFail_of_encode (r := inner) h
  | .named _ name body, h => by
      rw [encode, bind_eq_error] at h
      rcases h with h | ⟨c, -, h⟩
      · exact firstToFail_of_encode (r := body) h
      · obtain ⟨-, -, invalid⟩ := Call.nameModule_error h
        cases invalid
  | .component _ body, h => by
      rw [encode, bind_eq_error] at h
      rcases h with h | ⟨c, -, h⟩
      · exact firstToFail_of_encode (r := body) h
      · obtain ⟨-, -, invalid⟩ := Call.nameComponent_error h
        cases invalid
  | .reference body, h => by
      rw [encode] at h
      exact firstToFail_of_encode (r := body) h

/-- The first child that fails is the one to which its index leads. -/
theorem FirstToFail.child?_eq {r : Record V} {typeName ident : String} {rename : Option String}
    {before after : List (Field V (Record V))} {items : List (Record V)} {index : Nat}
    {cause : Fault} (first : FirstToFail typeName before items index cause)
    (behind : r.core = .fields typeName (before ++ ⟨ident, rename, .children items⟩ :: after)) :
    ∃ item, r.child? index = some item ∧ encode item = .error cause := by
  obtain ⟨item, at_index, fails⟩ := first.fails
  refine ⟨item, ?_, fails⟩
  have groups : Field.groups (before ++ ⟨ident, rename, .children items⟩ :: after) =
      items :: Field.groups after := by
    rw [Field.groups, List.filterMap_append]
    exact congrArg (· ++ items :: Field.groups after) first.childless
  rw [child?, behind]
  dsimp only
  rw [groups]
  exact at_index

/-- The indices of a fault lead to a record whose own fault is the innermost. -/
theorem exists_follow?_childPath {r : Record V} {fault : Fault} (h : encode r = .error fault) :
    ∃ culprit, r.follow? fault.childPath = some culprit ∧ encode culprit = .error fault.root := by
  induction fault generalizing r with
  | child typeName index cause ih =>
      obtain ⟨before, ident, rename, items, after, behind, first⟩ := firstToFail_of_encode h
      obtain ⟨item, at_index, fails⟩ := first.child?_eq behind
      obtain ⟨culprit, path, own⟩ := ih fails
      refine ⟨culprit, ?_, own⟩
      rw [Fault.childPath, follow?, at_index]
      exact path
  | _ => exact ⟨r, rfl, h⟩

/-- On each level of a fault, the child is the first that fails of the record to which the
indices further out lead. -/
theorem exists_firstToFail_of_levels {r : Record V} {fault : Fault}
    {outer inner : List (String × Nat)} {typeName : String} {index : Nat}
    (h : encode r = .error fault)
    (split : fault.levels = outer ++ (typeName, index) :: inner) :
    ∃ s before ident rename items after cause, r.follow? (outer.map (·.2)) = some s ∧
      s.core = .fields typeName (before ++ ⟨ident, rename, .children items⟩ :: after) ∧
      FirstToFail typeName before items index cause ∧ cause.levels = inner ∧
      cause.root = fault.root := by
  induction outer generalizing r fault with
  | nil =>
      obtain ⟨cause, rfl, rest⟩ := Fault.exists_of_levels_eq_cons split
      obtain ⟨before, ident, rename, items, after, behind, first⟩ := firstToFail_of_encode h
      exact ⟨r, before, ident, rename, items, after, cause, rfl, behind, first, rest, rfl⟩
  | cons level outer ih =>
      obtain ⟨cause, rfl, rest⟩ := Fault.exists_of_levels_eq_cons split
      obtain ⟨before, ident, rename, items, after, behind, first⟩ := firstToFail_of_encode h
      obtain ⟨item, at_index, fails⟩ := first.child?_eq behind
      obtain ⟨s, before', ident', rename', items', after', cause', path, found⟩ := ih fails rest
      refine ⟨s, before', ident', rename', items', after', cause', ?_, found⟩
      rw [List.map_cons, follow?, at_index]
      exact path

/-- The indices of a fault lead to the record whose own fault it is, past the first child
that fails on each level. -/
theorem encode_culprit {r : Record V} {fault : Fault} (h : encode r = .error fault) :
    (∃ culprit, r.follow? fault.childPath = some culprit ∧ encode culprit = .error fault.root) ∧
    (∀ typeName index cause, fault.root ≠ .child typeName index cause) ∧
    fault.childPath = fault.levels.map (·.2) ∧
    ∀ outer typeName index inner, fault.levels = outer ++ (typeName, index) :: inner →
      ∃ s before ident rename items after cause, r.follow? (outer.map (·.2)) = some s ∧
        s.core = .fields typeName (before ++ ⟨ident, rename, .children items⟩ :: after) ∧
        FirstToFail typeName before items index cause ∧ cause.levels = inner ∧
        cause.root = fault.root := by
  refine ⟨exists_follow?_childPath h, fault.root_ne_child, fault.childPath_eq_levels, ?_⟩
  intro outer typeName index inner split
  exact exists_firstToFail_of_levels h split

/-- A crate whose second child is a pair, named and behind a reference, with a ball that
sets its radius twice. -/
def brokenCrate : Record String :=
  let ball : Record String := .fields "Ball" [.name "Shape" "sphere", .parameter "R" (.of "1")]
  let broken : Record String :=
    .fields "Broken" [.name "Shape" "sphere", .parameter "R" (.of "1"), .parameter "r" (.of "2")]
  let pair : Record String :=
    .fields "Pair" [.name "Shape" "union", .children "Children" [.component "Ball" ball, broken]]
  .fields "Crate" [.parameter "Size" (.of "3"),
    .children "Children" [ball, .named "Named" "pair" (.reference pair), .absent "Lid"],
    .name "Crate" ""]

def brokenCrateFault : Fault := .child "Crate" 1 (.child "Pair" 1 (.repeatedParameter "Broken" "r"))

theorem brokenCrate_culprit :
    encode brokenCrate = .error brokenCrateFault ∧
    (∃ culprit, brokenCrate.follow? [1, 1] = some culprit ∧
      encode culprit = .error (.repeatedParameter "Broken" "r")) ∧
    ∃ s before ident rename items after cause, brokenCrate.follow? [1] = some s ∧
      s.core = .fields "Pair" (before ++ ⟨ident, rename, .children items⟩ :: after) ∧
      FirstToFail "Pair" before items 1 cause ∧ cause.levels = [] ∧
      cause.root = .repeatedParameter "Broken" "r" := by
  have fails : encode brokenCrate = .error brokenCrateFault := rfl
  obtain ⟨culprit, -, -, levels⟩ := encode_culprit fails
  exact ⟨fails, culprit, levels [("Crate", 1)] "Pair" 1 [] rfl⟩

end Record

end Scad
