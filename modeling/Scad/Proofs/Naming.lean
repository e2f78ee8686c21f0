import Mathlib.Data.List.Induction
import Scad.Proofs.Culprits

/-!
# Stacks of names

A record may be made a module many times over. A given name replaces what was there, a
component only fills in, and an empty name does nothing; but a text that is no identifier
is refused as soon as it is met, even where a wrapper further out would have replaced it.
So the innermost wrapper that offends decides the fault, and if none does, the outermost
name stays (`encode_stack`).
-/

namespace Scad

variable {V : Type}

/-- What makes the record inside it a module. -/
inductive Wrapper where
  | named (typeName name : String)
  | component (typeName : String)

namespace Wrapper

def around : Wrapper → Record V → Record V
  | .named typeName name, r => .named typeName name r
  | .component typeName, r => .component typeName r

/-- The record inside a stack of wrappers, innermost first. -/
def stack (r : Record V) (ws : List Wrapper) : Record V :=
  ws.foldl (fun inner w => w.around inner) r

/-! ## What a stack comes to -/

/-- The name that a wrapper gives to the module. -/
def given? : Wrapper → Option String
  | .named _ name => if name = "" then none else some name
  | .component _ => none

def isComponent : Wrapper → Bool
  | .named _ _ => false
  | .component _ => true

/-- Behind the wrapper, the call is a module. -/
def setsModule (w : Wrapper) : Bool := w.given?.isSome || w.isComponent

/-- With these wrappers further in, the wrapper asks for a module under a text that is no
identifier: under its own name, or, if the call is no module yet, under that of a component. -/
inductive Offends (c : Call V) (inner : List Wrapper) : Wrapper → String → Prop where
  | named {typeName name : String} (nonempty : name ≠ "") (invalid : ¬ IsIdentifier name) :
      Offends c inner (.named typeName name) name
  | component {typeName : String} (own : c.isModule = false)
      (inline : ∀ w ∈ inner, w.setsModule = false)
      (invalid : ¬ IsIdentifier (c.name ++ componentSuffix)) :
      Offends c inner (.component typeName) (c.name ++ componentSuffix)

/-- No wrapper of the stack offends. -/
def Sound (c : Call V) (ws : List Wrapper) : Prop :=
  ∀ inner w outer text, ws = inner ++ w :: outer → ¬ Offends c inner w text

/-- The name of the module in the end: the last that a wrapper gives, else that of the call,
else that of a component if there is one. -/
def moduleName? (c : Call V) (ws : List Wrapper) : Option String :=
  (ws.filterMap given?).getLast?.or <| (c.moduleId.map Identifier.text).or <|
    if ws.any isComponent then some (c.name ++ componentSuffix) else none

variable {c : Call V} {ws : List Wrapper} {w : Wrapper}

theorem moduleName?_concat_of_given {name : String} (h : w.given? = some name) :
    moduleName? c (ws ++ [w]) = some name := by
  simp [moduleName?, h]

theorem moduleName?_concat_empty {typeName : String} :
    moduleName? c (ws ++ [Wrapper.named typeName ""]) = moduleName? c ws := by
  simp [moduleName?, given?, isComponent]

theorem moduleName?_concat_component {typeName : String} :
    moduleName? c (ws ++ [Wrapper.component typeName]) =
      (moduleName? c ws).or (some (c.name ++ componentSuffix)) := by
  have component : (ws ++ [Wrapper.component typeName]).any isComponent = true := by
    simp [isComponent]
  have given : (ws ++ [Wrapper.component typeName]).filterMap given? = ws.filterMap given? := by
    simp [given?]
  rw [moduleName?, moduleName?, component, given, if_pos rfl, Option.or_assoc, Option.or_assoc]
  congr 2
  split <;> rfl

/-- There is no name exactly if nothing has made the call a module. -/
theorem moduleName?_eq_none_iff :
    moduleName? c ws = none ↔ c.isModule = false ∧ ∀ w ∈ ws, w.setsModule = false := by
  simp [moduleName?, Call.isModule, setsModule, forall_and]
  tauto

/-! ## One wrapper more -/

/-- What the wrapper does with the call of the record inside it. -/
def name : Wrapper → Call V → Except Fault (Call V)
  | .named _ name, c => c.nameModule name
  | .component _, c => c.nameComponent

theorem encode_around (w : Wrapper) (r : Record V) :
    (w.around r).encode = r.encode >>= w.name := by
  cases w with
  | named typeName name => rw [around, Record.encode]; rfl
  | component typeName => rw [around, Record.encode]; rfl

theorem encode_stack_concat (r : Record V) (ws : List Wrapper) (w : Wrapper) :
    (stack r (ws ++ [w])).encode = (stack r ws).encode >>= w.name := by
  rw [stack, List.foldl_concat, encode_around]
  rfl

/-- A call whose module is named as the wrappers so far have it goes on so, unless the next
wrapper offends. -/
theorem name_settled {m : Option Identifier} (h : m.map Identifier.text = moduleName? c ws)
    (w : Wrapper) :
    (∃ text, Offends c ws w text ∧
      w.name { c with moduleId := m } = .error (.invalidIdentifier text)) ∨
    (∀ text, ¬ Offends c ws w text) ∧ ∃ m', w.name { c with moduleId := m } =
      .ok { c with moduleId := m' } ∧ m'.map Identifier.text = moduleName? c (ws ++ [w]) := by
  cases w with
  | named typeName name =>
      by_cases empty : name = ""
      · subst empty
        refine .inr ⟨?_, m, rfl, ?_⟩
        · rintro text ⟨nonempty, -⟩
          contradiction
        · rw [h, moduleName?_concat_empty]
      · by_cases valid : IsIdentifier name
        · refine .inr ⟨?_, some ⟨name, valid⟩, ?_, ?_⟩
          · rintro text ⟨-, invalid⟩
            contradiction
          · rw [Wrapper.name, Call.nameModule, if_neg empty, Identifier.ofString?, dif_pos valid]
            rfl
          · have given : (Wrapper.named typeName name).given? = some name := if_neg empty
            rw [moduleName?_concat_of_given given]
            rfl
        · refine .inl ⟨name, .named empty valid, ?_⟩
          rw [Wrapper.name, Call.nameModule, if_neg empty, Identifier.ofString?, dif_neg valid]
          rfl
  | component typeName =>
      cases m with
      | some m =>
          refine .inr ⟨?_, some m, rfl, ?_⟩
          · rintro text ⟨⟩
            next own inline invalid =>
              rw [moduleName?_eq_none_iff.2 ⟨own, inline⟩] at h
              contradiction
          · rw [moduleName?_concat_component, ← h]
            rfl
      | none =>
          obtain ⟨own, inline⟩ := moduleName?_eq_none_iff.1 h.symm
          by_cases valid : IsIdentifier (c.name ++ componentSuffix)
          · refine .inr ⟨?_, some ⟨c.name ++ componentSuffix, valid⟩, ?_, ?_⟩
            · rintro text ⟨⟩
              contradiction
            · show (Identifier.ofString? _).map c.withModule = _
              rw [Identifier.ofString?, dif_pos valid]
              rfl
            · rw [moduleName?_concat_component, ← h]
              rfl
          · refine .inl ⟨_, .component own inline valid, ?_⟩
            show (Identifier.ofString? _).map c.withModule = _
            rw [Identifier.ofString?, dif_neg valid]
            rfl

/-! ## The whole stack -/

theorem stack_append (r : Record V) (inner outer : List Wrapper) :
    stack r (inner ++ outer) = stack (stack r inner) outer := List.foldl_append

/-- A stack does not tell records apart that have the same call or the same fault. -/
theorem encode_stack_congr {r s : Record V} (h : r.encode = s.encode) (ws : List Wrapper) :
    (stack r ws).encode = (stack s ws).encode := by
  induction ws using List.reverseRecOn with
  | nil => exact h
  | append_singleton ws w ih => rw [encode_stack_concat, encode_stack_concat, ih]

theorem encode_empty (typeName : String) (r : Record V) :
    ((Wrapper.named typeName "").around r).encode = r.encode := by
  rw [encode_around]
  exact bind_pure _

/-- Either no wrapper offends and the call is settled, or the innermost that does is refused. -/
theorem encode_stack_cases {r : Record V} (h : r.encode = .ok c) (ws : List Wrapper) :
    (Sound c ws ∧ ∃ m, (stack r ws).encode = .ok { c with moduleId := m } ∧
      m.map Identifier.text = moduleName? c ws) ∨
    ∃ inner w outer text, ws = inner ++ w :: outer ∧ Sound c inner ∧ Offends c inner w text ∧
      (stack r ws).encode = .error (.invalidIdentifier text) := by
  induction ws using List.reverseRecOn with
  | nil =>
      refine .inl ⟨?_, c.moduleId, ?_, by simp [moduleName?]⟩
      · intro inner w outer text split
        simp at split
      · rw [stack, List.foldl_nil, h]
        cases c
        rfl
  | append_singleton ws w ih =>
      rcases ih with ⟨sound, m, encodes, named⟩ |
        ⟨inner, v, outer, text, rfl, sound, offends, fails⟩
      · rcases name_settled named w with ⟨text, offends, refused⟩ | ⟨fine, m', done, named'⟩
        · refine .inr ⟨ws, w, [], text, rfl, sound, offends, ?_⟩
          rw [encode_stack_concat, encodes]
          exact refused
        · refine .inl ⟨?_, m', ?_, named'⟩
          · intro inner v outer text split
            rcases List.eq_nil_or_concat outer with rfl | ⟨outer, last, rfl⟩
            · obtain ⟨rfl, rfl⟩ : ws = inner ∧ w = v := by simpa using List.append_inj' split rfl
              exact fine text
            · have shape : ws ++ [w] = inner ++ v :: outer ++ [last] := by simpa using split
              exact sound inner v outer text (List.append_inj' shape rfl).1
          · rw [encode_stack_concat, encodes]
            exact done
      · refine .inr ⟨inner, v, outer ++ [w], text, by simp, sound, offends, ?_⟩
        rw [encode_stack_concat, fails]
        rfl

/-- The innermost wrapper that offends decides the fault. If none does, the call changes in
its module alone, which has the name that the stack comes to. A wrapper with an empty name
changes nothing, wherever it stands and whatever it stands around. -/
theorem encode_stack {r : Record V} (h : r.encode = .ok c) (ws : List Wrapper) :
    (∀ inner w outer text, ws = inner ++ w :: outer → Offends c inner w text →
      ∃ inner w outer text, ws = inner ++ w :: outer ∧ Sound c inner ∧ Offends c inner w text ∧
        (stack r ws).encode = .error (.invalidIdentifier text)) ∧
    (Sound c ws → ∃ m, (stack r ws).encode = .ok { c with moduleId := m } ∧
      m.map Identifier.text = moduleName? c ws) ∧
    ∀ (s : Record V) inner typeName outer,
      (stack s (inner ++ .named typeName "" :: outer)).encode = (stack s (inner ++ outer)).encode := by
  refine ⟨?_, ?_, ?_⟩
  · intro inner w outer text split offends
    rcases encode_stack_cases h ws with ⟨sound, -⟩ | found
    · exact absurd offends (sound inner w outer text split)
    · exact found
  · intro sound
    rcases encode_stack_cases h ws with ⟨-, settled⟩ | ⟨inner, w, outer, text, split, -, offends, -⟩
    · exact settled
    · exact absurd offends (sound inner w outer text split)
  · intro s inner typeName outer
    rw [stack_append, stack_append]
    exact encode_stack_congr (encode_empty typeName _) outer

/-- A plate whose call has a name with which no component can be made. -/
def plate : Record String := .fields "Plate" [.name "Shape" "2d", .parameter "Size" (.of "3")]

/-- The outer names would do, but the component is met first. -/
def lateNames : List Wrapper :=
  [.named "Named" "", .component "Component", .named "Named" "no good", .named "Named" "tray"]

/-- Where there is a name, a component asks for none. -/
def earlyNames : List Wrapper :=
  [.named "Named" "tray", .component "Component", .named "Named" "lid", .named "Named" ""]

theorem plate_stack :
    plate.encode = .ok ⟨"2d", .insert ∅ "size" "3", [], none⟩ ∧
    (stack plate lateNames).encode = .error (.invalidIdentifier "2d_component") ∧
    (∃ inner w outer text, lateNames = inner ++ w :: outer ∧
      Sound ⟨"2d", .insert ∅ "size" "3", [], none⟩ inner ∧
      Offends ⟨"2d", .insert ∅ "size" "3", [], none⟩ inner w text ∧
      (stack plate lateNames).encode = .error (.invalidIdentifier text)) ∧
    ∃ m, (stack plate earlyNames).encode = .ok ⟨"2d", .insert ∅ "size" "3", [], m⟩ ∧
      m.map Identifier.text = some "lid" := by
  let c : Call String := ⟨"2d", .insert ∅ "size" "3", [], none⟩
  have encodes : plate.encode = .ok c := rfl
  have late : Offends c [.named "Named" ""] (.component "Component") ("2d" ++ componentSuffix) :=
    .component rfl (by decide) (by decide)
  have early : Sound c earlyNames := by
    intro inner w outer text split offends
    cases offends with
    | @named typeName _ nonempty invalid =>
        have among : Wrapper.named typeName text ∈ earlyNames := by
          rw [split]
          exact List.mem_append_right _ List.mem_cons_self
        simp only [earlyNames, List.mem_cons, named.injEq, reduceCtorEq, List.not_mem_nil, or_false,
          false_or] at among
        rcases among with ⟨-, rfl⟩ | ⟨-, rfl⟩ | ⟨-, rfl⟩
        · exact invalid (by decide)
        · exact invalid (by decide)
        · contradiction
    | component _ inline _ =>
        -- The name comes first.
        cases inner with
        | nil => simp [earlyNames] at split
        | cons first inner =>
            obtain rfl : Wrapper.named "Named" "tray" = first := (List.cons.inj split).1
            have set := inline _ List.mem_cons_self
            contradiction
  refine ⟨encodes, rfl, ?_, ?_⟩
  · exact (encode_stack encodes lateNames).1 [.named "Named" ""] _ _ _ rfl late
  · exact (encode_stack encodes earlyNames).2.1 early

end Wrapper

end Scad
