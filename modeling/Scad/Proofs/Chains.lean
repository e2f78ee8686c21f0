import Mathlib.Data.List.Induction
import Scad.Model.Composition
import Scad.Model.Shape
import Scad.Proofs.Fields

/-!
# Chains of transformations

A model is put inside transformations in one pass over them, through wrappers, or by one
call after the other, with or without boxes in between. All these ways come to one call or
to one fault (`Stacked.encode_eq`). The call is a spine: each transformation with the
children it had, and behind them what is inside (`spine`). A fault of the model inside is
reported through all the transformations, each of which adds the number of the children it
had (`reported`).
-/

namespace Scad

variable {V K : Type}

/-! ## One child more -/

namespace Record

theorem encodeItems_concat (typeName : String) (r : Record V) : ∀ (index : Nat)
    (items : List (Record V)), encodeItems typeName index (items ++ [r]) = do
      let calls ← encodeItems typeName index items
      let call ← (encode r).mapError (.child typeName (index + items.length))
      return calls ++ [call]
  | index, [] => by
      rw [List.nil_append, encodeItems, encodeItems, encodeItems]
      rfl
  | index, item :: items => by
      have later := encodeItems_concat typeName r (index + 1) items
      have place : index + 1 + items.length = index + (item :: items).length := by
        rw [List.length_cons]
        omega
      rw [place] at later
      rw [List.cons_append, encodeItems, later, encodeItems]
      simp only [bind_assoc, pure_bind, List.cons_append]

end Record

/-- The call with a further child behind the others. -/
def Call.push (c : Call V) (child : Call V) : Call V := { c with children := c.children ++ [child] }

namespace Record

variable {typeName ident : String} {fs : List (Field V (Record V))} {items : List (Record V)}
  {c : Call V}

/-- The children come last: the fields before them give a draft, and the children complete it. -/
theorem encode_children (typeName ident : String) (fs : List (Field V (Record V)))
    (items : List (Record V)) : encode (.fields typeName (fs ++ [.children ident items])) =
      fs.foldlM (Draft.take typeName) .empty >>= fun d =>
        d.take typeName (.children ident items) >>= Draft.finish typeName := by
  rw [encode_fields, List.foldlM_append, bind_assoc]
  simp only [List.foldlM_cons, List.foldlM_nil, bind_pure]

/-- A further child record becomes a further child of the call, or its fault is reported
under the index behind the others. -/
theorem encode_push (h : encode (.fields typeName (fs ++ [.children ident items])) = .ok c)
    (r : Record V) :
    encode (.fields typeName (fs ++ [.children ident (items ++ [r])])) =
      ((encode r).mapError (.child typeName items.length)).map c.push := by
  rw [encode_children, bind_eq_ok] at h
  obtain ⟨d, hd, h⟩ := h
  obtain ⟨full, taken, finished⟩ := bind_eq_ok.1 h
  rw [encode_children, hd]
  show d.take typeName (.children ident (items ++ [r])) >>= Draft.finish typeName = _
  rw [Field.children, Draft.take] at taken ⊢
  split at taken
  · contradiction
  · next fresh =>
      obtain ⟨calls, hcalls, rfl⟩ := map_eq_ok.1 taken
      obtain ⟨name, nonempty, parameters, children, moduleId⟩ := Draft.finish_ok finished
      change d.name = some c.name at name
      rw [if_neg fresh, encodeItems_concat, hcalls, Nat.zero_add]
      cases encode r with
      | error fault => rfl
      | ok call =>
          show Draft.finish typeName { d with children := some (calls ++ [call]) } =
            .ok (c.push call)
          rw [Draft.finish]
          simp only [name]
          rw [if_neg nonempty, Call.push, parameters, children, moduleId]
          rfl

/-- What stands for the same call or the same fault can take the place of a child. -/
theorem encode_push_congr {r s : Record V} (same : encode r = encode s) (typeName ident : String)
    (fs : List (Field V (Record V))) (items : List (Record V)) :
    encode (.fields typeName (fs ++ [.children ident (items ++ [r])])) =
      encode (.fields typeName (fs ++ [.children ident (items ++ [s])])) := by
  rw [encode_children, encode_children]
  simp only [Field.children, Draft.take, encodeItems_concat, same]

end Record

/-! ## Ways to put a model inside transformations -/

namespace Model

/-- One call after the other. -/
def withinAll : Model K → List (Transformation K) → Model K
  | m, [] => m
  | m, t :: ts => withinAll (m.within t) ts

/-- The model lies inside the transformations, innermost first, with any number of boxes in
between. -/
inductive Stacked (b : Model K) : List (Transformation K) → Model K → Prop where
  | body : Stacked b [] b
  | within {ts : List (Transformation K)} {m : Model K} (inner : Stacked b ts m)
      (t : Transformation K) : Stacked b (ts ++ [t]) (m.within t)
  | boxed {ts : List (Transformation K)} {m : Model K} (inner : Stacked b ts m) :
      Stacked b ts (.reference m)

variable {b m : Model K} {ts : List (Transformation K)}

theorem encode_within_congr {m m' : Model K} (same : Record.encode m = Record.encode m')
    (t : Transformation K) : Record.encode (m.within t) = Record.encode (m'.within t) :=
  Record.encode_push_congr same _ _ _ _

/-- Inside a transformation that has a call of its own, the model gives a further child of it. -/
theorem encode_within {t : Transformation K} {c : Call (Literal K)}
    (h : Record.encode t.model = .ok c) (m : Model K) :
    Record.encode (m.within t) = ((Record.encode m).mapError
      (.child t.operation.typeName t.children.length)).map c.push := Record.encode_push h m

theorem applyAll_concat (b : Model K) (ts : List (Transformation K)) (t : Transformation K) :
    b.applyAll (ts ++ [t]) = (b.applyAll ts).within t := List.foldl_concat _ _ _ _

/-- However a model is put inside transformations, the call or the fault is the same. -/
theorem Stacked.encode_eq (h : Stacked b ts m) :
    Record.encode m = Record.encode (b.applyAll ts) := by
  induction h with
  | body => rfl
  | within inner t ih =>
      rw [applyAll_concat]
      exact encode_within_congr ih t
  | boxed inner ih => rw [Record.encode, ih]

theorem Stacked.trans {m' : Model K} {outer : List (Transformation K)} (h : Stacked b ts m)
    (h' : Stacked m outer m') : Stacked b (ts ++ outer) m' := by
  induction h' with
  | body => rwa [List.append_nil]
  | within inner t ih =>
      rw [← List.append_assoc]
      exact ih.within t
  | boxed inner ih => exact ih.boxed

theorem stacked_applyAll (b : Model K) (ts : List (Transformation K)) :
    Stacked b ts (b.applyAll ts) := by
  induction ts using List.reverseRecOn with
  | nil => exact .body
  | append_singleton ts t ih =>
      rw [applyAll_concat]
      exact ih.within t

theorem stacked_wrapAll (b : Model K) (ts : List (Transformation K)) :
    Stacked b ts (b.wrapAll (ts.map wrapper)) := by
  rw [wrapAll, List.foldl_map]
  exact stacked_applyAll b ts

theorem stacked_withinAll (b : Model K) (ts : List (Transformation K)) :
    Stacked b ts (b.withinAll ts) := by
  induction ts generalizing b with
  | nil => exact .body
  | cons t ts ih =>
      have first : Stacked b [t] (b.within t) := Stacked.body.within t
      exact first.trans (ih (b.within t))

/-! ## The spine -/

/-- Each call with the one before as its last child. -/
def spine (calls : List (Call V)) (c : Call V) : Call V :=
  calls.foldl (fun inner call => call.push inner) c

/-- The fault as it is reported through transformations, innermost first. -/
def reported (ts : List (Transformation K)) (fault : Fault) : Fault :=
  ts.foldl (fun cause t => .child t.operation.typeName t.children.length cause) fault

theorem nodeCountAll_concat (cs : List (Call V)) (c : Call V) :
    Call.nodeCountAll (cs ++ [c]) = Call.nodeCountAll cs + c.nodeCount := by
  induction cs with
  | nil => simp [Call.nodeCountAll]
  | cons first cs ih =>
      rw [List.cons_append, Call.nodeCountAll, Call.nodeCountAll, ih, Nat.add_assoc]

theorem nodeCount_push (c child : Call V) :
    (c.push child).nodeCount = child.nodeCount + c.nodeCount := by
  obtain ⟨name, parameters, children, moduleId⟩ := c
  show 1 + Call.nodeCountAll (children ++ [child]) = _ + (1 + Call.nodeCountAll children)
  rw [nodeCountAll_concat]
  omega

theorem nodeCount_spine (calls : List (Call V)) (c : Call V) :
    (spine calls c).nodeCount = c.nodeCount + Call.nodeCountAll calls := by
  induction calls generalizing c with
  | nil => rfl
  | cons call calls ih =>
      show (spine calls (call.push c)).nodeCount = _
      rw [ih, nodeCount_push, Call.nodeCountAll, Nat.add_assoc]

theorem exists_calls_of_encodes (h : ∀ t ∈ ts, Record.Encodes t.model) : ∃ calls,
    List.Forall₂ (fun (t : Transformation K) c => Record.encode t.model = .ok c) ts calls := by
  induction ts with
  | nil => exact ⟨[], .nil⟩
  | cons t ts ih =>
      obtain ⟨⟨c, hc⟩, others⟩ := List.forall_mem_cons.1 h
      obtain ⟨calls, hcalls⟩ := ih others
      exact ⟨c :: calls, .cons hc hcalls⟩

theorem childPath_reported (ts : List (Transformation K)) (fault : Fault) :
    (reported ts fault).childPath = (ts.map (·.children.length)).reverse ++ fault.childPath := by
  induction ts generalizing fault with
  | nil => rfl
  | cons t ts ih =>
      show (reported ts (.child t.operation.typeName t.children.length fault)).childPath = _
      rw [ih, List.map_cons, List.reverse_cons, List.append_assoc, Fault.childPath]
      rfl

theorem root_reported (ts : List (Transformation K)) (fault : Fault) :
    (reported ts fault).root = fault.root := by
  induction ts generalizing fault with
  | nil => rfl
  | cons t ts ih => exact ih (.child t.operation.typeName t.children.length fault)

/-- Inside transformations that have calls of their own, a call becomes the end of their
spine, and a fault is reported through them. -/
theorem encode_applyAll {calls : List (Call (Literal K))}
    (own : List.Forall₂ (fun (t : Transformation K) c => Record.encode t.model = .ok c) ts calls)
    (b : Model K) : Record.encode (b.applyAll ts) =
      ((Record.encode b).mapError (reported ts)).map (spine calls) := by
  induction own generalizing b with
  | nil => cases hb : Record.encode b <;> exact hb
  | @cons t call ts calls first _ ih =>
      show Record.encode ((b.within t).applyAll ts) = _
      rw [ih, encode_within first]
      cases Record.encode b <;> rfl

/-- The call of a transformation has the calls of its children. -/
theorem children_of_encode {t : Transformation K} {c : Call (Literal K)}
    (h : Record.encode t.model = .ok c) :
    List.Forall₂ (fun r d => Record.encode r = .ok d) t.children c.children := by
  have children := (Record.describes_of_encode h).children
  have own : Field.groups t.operation.ownFields = [] := by cases t.operation <;> rfl
  have groups : (Field.groups (t.operation.ownFields ++
      [.children "Children" t.children])).flatten = t.children := by
    rw [Field.groups_concat, own]
    simp [Field.items?, Field.children]
  rwa [groups] at children

/-- All ways to put a model inside transformations come to the same, at once or in parts.
Where the transformations have calls of their own, the model's call is the end of their spine
and a fault of the model is reported through all of them. -/
theorem encode_chain (b : Model K) (ts : List (Transformation K)) :
    (Record.encode (b.wrapAll (ts.map wrapper)) = Record.encode (b.applyAll ts) ∧
      Record.encode (b.withinAll ts) = Record.encode (b.applyAll ts) ∧
      ∀ m, Stacked b ts m → Record.encode m = Record.encode (b.applyAll ts)) ∧
    (∀ inner outer, ts = inner ++ outer →
      Record.encode ((b.applyAll inner).applyAll outer) = Record.encode (b.applyAll ts) ∧
      ∀ m m', Stacked b inner m → Stacked m outer m' →
        Record.encode m' = Record.encode (b.applyAll ts)) ∧
    ((∀ t ∈ ts, Record.Encodes t.model) → ∃ calls,
      List.Forall₂ (fun (t : Transformation K) c => Record.encode t.model = .ok c) ts calls ∧
      List.Forall₂ (fun (t : Transformation K) c =>
        List.Forall₂ (fun r d => Record.encode r = .ok d) t.children c.children) ts calls ∧
      (∀ c, Record.encode b = .ok c → Record.encode (b.applyAll ts) = .ok (spine calls c) ∧
        (spine calls c).nodeCount = c.nodeCount + Call.nodeCountAll calls) ∧
      ∀ fault, Record.encode b = .error fault →
        Record.encode (b.applyAll ts) = .error (reported ts fault) ∧
        (reported ts fault).childPath =
          (ts.map (·.children.length)).reverse ++ fault.childPath ∧
        (reported ts fault).root = fault.root) := by
  refine ⟨⟨?_, ?_, ?_⟩, ?_, ?_⟩
  · exact (stacked_wrapAll b ts).encode_eq
  · exact (stacked_withinAll b ts).encode_eq
  · exact fun m stacked => stacked.encode_eq
  · rintro inner outer rfl
    have parts := (stacked_applyAll b inner).trans (stacked_applyAll (b.applyAll inner) outer)
    exact ⟨parts.encode_eq, fun m m' first second => (first.trans second).encode_eq⟩
  · intro encodes
    obtain ⟨calls, own⟩ := exists_calls_of_encodes encodes
    have chain := encode_applyAll own b
    refine ⟨calls, own, own.imp fun _ _ => children_of_encode, ?_, ?_⟩
    · intro c hc
      rw [chain, hc]
      exact ⟨rfl, nodeCount_spine calls c⟩
    · intro fault fails
      rw [chain, fails]
      exact ⟨rfl, childPath_reported ts fault, root_reported ts fault⟩

def ring : Model Float := (default : Circle Float).model

/-- A lid whose second child is missing. -/
def brokenLid : Model Float :=
  .fields "Lid" [.autoName "Union", .children "Children" [ring, .absent "Handle"]]

/-- Three transformations that hold one child, none and two. -/
def frames : List (Transformation Float) :=
  [⟨.union, [ring]⟩, ⟨.linearExtrude { (default : LinearExtrude Float) with slices := .of 8 }, []⟩,
    ⟨.difference, [ring, ring]⟩]

theorem frames_chain :
    (∀ t ∈ frames, Record.Encodes t.model) ∧ Record.encode ring = .ok (.bare "circle") ∧
    Record.encode brokenLid = .error (.child "Lid" 1 .absentRecord) ∧
    (∃ calls, spine calls (.bare "circle") =
        ⟨"difference", ∅, [.bare "circle", .bare "circle",
          ⟨"linear_extrude", .insert ∅ "slices" (.int 8),
            [⟨"union", ∅, [.bare "circle", .bare "circle"], none⟩], none⟩], none⟩ ∧
      Record.encode (ring.applyAll frames) = .ok (spine calls (.bare "circle")) ∧
      (spine calls (.bare "circle")).nodeCount = 1 + Call.nodeCountAll calls) ∧
    Record.encode (brokenLid.applyAll frames) =
      .error (reported frames (.child "Lid" 1 .absentRecord)) ∧
    (reported frames (.child "Lid" 1 .absentRecord)).childPath = [2, 0, 1, 1] ∧
    (reported frames (.child "Lid" 1 .absentRecord)).root = .absentRecord := by
  have circle : Record.encode ring = .ok (.bare "circle") := rfl
  have broken : Record.encode brokenLid = .error (.child "Lid" 1 .absentRecord) := rfl
  have own : ∀ t ∈ frames, Record.Encodes t.model := by
    simp only [frames, List.forall_mem_cons]
    exact ⟨⟨_, rfl⟩, ⟨_, rfl⟩, ⟨_, rfl⟩, List.forall_mem_nil _⟩
  obtain ⟨calls, -, -, encodes, -⟩ := (encode_chain ring frames).2.2 own
  obtain ⟨_, -, -, -, reports⟩ := (encode_chain brokenLid frames).2.2 own
  obtain ⟨whole, size⟩ := encodes _ circle
  exact ⟨own, circle, broken, ⟨calls, (Except.ok.inj whole).symm, whole, size⟩, reports _ broken⟩

end Model

end Scad
