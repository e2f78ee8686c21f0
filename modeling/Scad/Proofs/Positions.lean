import Scad.Proofs.Culprits

/-!
# Records in the place of others

A record is found inside another one by the steps that lead to it. If the records at any
number of positions are exchanged for records with the same call or the same fault, the
whole keeps its call or its fault (`encode_rebuild`). So it is not seen from outside whether
a record is reached through references, through records that it takes the place of, or
through names that are empty, at however many positions at once (`encode_covered`): a
reference passes on both things that the encoder asks a record for, its layout and its type
name (`encode_eq_layout`).
-/

namespace Scad

variable {V R : Type}

/-! ## What the encoder asks for -/

/-- How a record presents itself to the encoder. -/
inductive Layout (V : Type) where
  | absent
  | scalar
  | fields (fs : List (Field V (Record V)))
  | custom (inner : Record V)
  | named (name : String) (body : Record V)
  | component (body : Record V)

/-- What the encoder makes of a layout. -/
def Layout.call (typeName : String) : Layout V → Except Fault (Call V)
  | .absent => .error .absentRecord
  | .scalar => .error (.notARecord typeName)
  | .fields fs => Record.encodeFields typeName .empty fs
  | .custom inner => inner.encode
  | .named name body => body.encode >>= Call.nameModule name
  | .component body => body.encode >>= Call.nameComponent

namespace Record

/-- A reference, of whatever kind, has the layout of what it refers to. -/
def layout : Record V → Layout V
  | .absent _ => .absent
  | .scalar _ => .scalar
  | .fields _ fs => .fields fs
  | .custom _ inner => .custom inner
  | .named _ name body => .named name body
  | .component _ body => .component body
  | .reference body => body.layout

/-- The encoder sees nothing of a record but its layout and its type name. -/
theorem encode_eq_layout : ∀ r : Record V, r.encode = r.layout.call r.typeName
  | .absent _ | .scalar _ | .fields _ _ | .custom _ _ | .named _ _ _ | .component _ _ => by
      rw [encode]
      rfl
  | .reference body => by
      rw [encode]
      exact encode_eq_layout body

theorem encode_congr_layout {r s : Record V} (layout : s.layout = r.layout)
    (typeName : s.typeName = r.typeName) : s.encode = r.encode := by
  rw [encode_eq_layout s, encode_eq_layout r, layout, typeName]

/-! ## Positions -/

/-- A step to a record inside another one: to the body that it stands for or around, or to a
child by the places of its field and of the child among the items of the field. -/
inductive Inward where
  | body
  | child (field index : Nat)
deriving DecidableEq

/-- The steps to a record, from the outside in. -/
abbrev Position := List Inward

/-- The item of an index in the children field at a place. -/
def item? (fs : List (Field V R)) (field index : Nat) : Option R :=
  (fs[field]?.bind Field.items?).bind (·[index]?)

def inner? : Record V → Inward → Option (Record V)
  | .custom _ inner, .body => some inner
  | .named _ _ body, .body => some body
  | .component _ body, .body => some body
  | .reference body, .body => some body
  | .fields _ fs, .child field index => item? fs field index
  | _, _ => none

/-- The record at a position. -/
def at? (r : Record V) : Position → Option (Record V)
  | [] => some r
  | step :: p => (r.inner? step).bind (·.at? p)

mutual

/-- The record with each record inside it, and then itself, changed by a function that is
told its position. -/
def rebuild (f : Position → Record V → Record V) : Record V → Record V
  | .absent typeName => f [] (.absent typeName)
  | .scalar typeName => f [] (.scalar typeName)
  | .fields typeName fs =>
      f [] (.fields typeName (rebuildFields (fun field index p => f (.child field index :: p)) fs))
  | .custom typeName inner => f [] (.custom typeName (rebuild (fun p => f (.body :: p)) inner))
  | .named typeName name body =>
      f [] (.named typeName name (rebuild (fun p => f (.body :: p)) body))
  | .component typeName body => f [] (.component typeName (rebuild (fun p => f (.body :: p)) body))
  | .reference body => f [] (.reference (rebuild (fun p => f (.body :: p)) body))

def rebuildFields (f : Nat → Nat → Position → Record V → Record V) :
    List (Field V (Record V)) → List (Field V (Record V))
  | [] => []
  | ⟨ident, rename, .name given⟩ :: rest =>
      ⟨ident, rename, .name given⟩ :: rebuildFields (fun field => f (field + 1)) rest
  | ⟨ident, rename, .parameter setting⟩ :: rest =>
      ⟨ident, rename, .parameter setting⟩ :: rebuildFields (fun field => f (field + 1)) rest
  | ⟨ident, rename, .children items⟩ :: rest =>
      ⟨ident, rename, .children (rebuildItems (f 0) items)⟩ ::
        rebuildFields (fun field => f (field + 1)) rest

def rebuildItems (f : Nat → Position → Record V → Record V) : List (Record V) → List (Record V)
  | [] => []
  | r :: rest => rebuild (f 0) r :: rebuildItems (fun index => f (index + 1)) rest

end

/-! ## Changes that are not seen -/

/-- At each position, the function keeps the call or the fault of the record there, also
where it is handed another record of that call or fault. -/
def Keeps (f : Position → Record V → Record V) (r : Record V) : Prop :=
  ∀ p s s', r.at? p = some s → encode s' = encode s → encode (f p s') = encode s

theorem Keeps.body {f : Position → Record V → Record V} {r body : Record V} (h : Keeps f r)
    (inside : r.inner? .body = some body) : Keeps (fun p => f (.body :: p)) body := by
  intro p s s' found same
  refine h (.body :: p) s s' ?_ same
  rw [at?, inside]
  exact found

theorem Keeps.child {f : Position → Record V → Record V} {typeName : String}
    {fs : List (Field V (Record V))} (h : Keeps f (.fields typeName fs)) {field index : Nat}
    {r : Record V} (inside : item? fs field index = some r) :
    Keeps (fun p => f (.child field index :: p)) r := by
  intro p s s' found same
  refine h (.child field index :: p) s s' ?_ same
  rw [at?, inner?, inside]
  exact found

mutual

/-- What is kept at each position is kept of the whole. -/
theorem encode_rebuild : ∀ {r : Record V} {f : Position → Record V → Record V}, Keeps f r →
    encode (r.rebuild f) = encode r
  | .absent _, _, h => h [] _ _ rfl rfl
  | .scalar _, _, h => h [] _ _ rfl rfl
  | .fields typeName fs, f, h => by
      have inside := encodeFields_rebuild typeName .empty fs fun _ _ _ => h.child
      refine h [] _ _ rfl ?_
      rw [encode, encode, inside]
  | .custom _ inner, f, h => by
      have inside := encode_rebuild (r := inner) (h.body rfl)
      refine h [] _ _ rfl ?_
      rw [encode, encode, inside]
  | .named _ _ body, f, h => by
      have inside := encode_rebuild (r := body) (h.body rfl)
      refine h [] _ _ rfl ?_
      rw [encode, encode, inside]
  | .component _ body, f, h => by
      have inside := encode_rebuild (r := body) (h.body rfl)
      refine h [] _ _ rfl ?_
      rw [encode, encode, inside]
  | .reference body, f, h => by
      have inside := encode_rebuild (r := body) (h.body rfl)
      refine h [] _ _ rfl ?_
      rw [encode, encode, inside]

theorem encodeFields_rebuild (typeName : String) (d : Draft V) :
    ∀ (fs : List (Field V (Record V))) {f : Nat → Nat → Position → Record V → Record V},
      (∀ field index r, item? fs field index = some r → Keeps (f field index) r) →
        encodeFields typeName d (rebuildFields f fs) = encodeFields typeName d fs
  | [], _, _ => rfl
  | ⟨ident, rename, .name given⟩ :: rest, f, h => by
      rw [rebuildFields, encodeFields, encodeFields]
      refine bind_congr fun next => ?_
      exact encodeFields_rebuild typeName next rest fun field => h (field + 1)
  | ⟨ident, rename, .parameter setting⟩ :: rest, f, h => by
      rw [rebuildFields, encodeFields, encodeFields]
      refine bind_congr fun next => ?_
      exact encodeFields_rebuild typeName next rest fun field => h (field + 1)
  | ⟨ident, rename, .children items⟩ :: rest, f, h => by
      rw [rebuildFields, encodeFields, encodeFields, encodeItems_rebuild typeName 0 items (h 0)]
      congr 1
      refine bind_congr fun calls => ?_
      exact encodeFields_rebuild typeName _ rest fun field => h (field + 1)

theorem encodeItems_rebuild (typeName : String) (start : Nat) :
    ∀ (items : List (Record V)) {f : Nat → Position → Record V → Record V},
      (∀ (index : Nat) r, items[index]? = some r → Keeps (f index) r) →
        encodeItems typeName start (rebuildItems f items) = encodeItems typeName start items
  | [], _, _ => rfl
  | item :: rest, f, h => by
      rw [rebuildItems, encodeItems, encodeItems, encode_rebuild (h 0 item rfl),
        encodeItems_rebuild typeName (start + 1) rest fun index => h (index + 1)]

end

/-! ## Covers -/

/-- What a record can be put behind without a trace. -/
inductive Cover where
  | reference
  | custom (typeName : String)
  | unnamed (typeName : String)

namespace Cover

def around : Cover → Record V → Record V
  | .reference, r => .reference r
  | .custom typeName, r => .custom typeName r
  | .unnamed typeName, r => .named typeName "" r

theorem encode_around (c : Cover) (r : Record V) : encode (c.around r) = encode r := by
  cases c with
  | reference => exact encode_congr_layout rfl rfl
  | custom typeName =>
      rw [around, encode]
  | unnamed typeName =>
      rw [around, encode]
      exact bind_pure _

end Cover

/-- The record behind covers, innermost first. -/
def behind (covers : List Cover) (r : Record V) : Record V :=
  covers.foldl (fun inner c => c.around inner) r

theorem encode_behind (covers : List Cover) (r : Record V) :
    encode (r.behind covers) = encode r := by
  induction covers generalizing r with
  | nil => rfl
  | cons c covers ih => exact (ih (c.around r)).trans (c.encode_around r)

/-- The record with the records at all positions behind the covers for them. -/
def coverAt (covers : Position → List Cover) (r : Record V) : Record V :=
  r.rebuild fun p => behind (covers p)

/-! ## Other records at a position -/

/-- The record with another one at a position. -/
def replaceAt (r : Record V) (q : Position) (t : Record V) : Record V :=
  r.rebuild fun p s => if p = q then t else s

theorem getElem?_rebuildItems : ∀ (items : List (Record V))
    {f : Nat → Position → Record V → Record V} (index : Nat),
      (rebuildItems f items)[index]? = items[index]?.map (rebuild (f index))
  | [], _, _ => rfl
  | _ :: _, _, 0 => rfl
  | _ :: rest, _, index + 1 => getElem?_rebuildItems rest index

theorem item?_rebuildFields : ∀ (fs : List (Field V (Record V)))
    {f : Nat → Nat → Position → Record V → Record V} (field index : Nat),
      item? (rebuildFields f fs) field index = (item? fs field index).map (rebuild (f field index))
  | [], _, _, _ => rfl
  | ⟨_, _, .name _⟩ :: _, _, 0, _ => rfl
  | ⟨_, _, .parameter _⟩ :: _, _, 0, _ => rfl
  | ⟨_, _, .children items⟩ :: _, _, 0, index => getElem?_rebuildItems items index
  | ⟨_, _, .name _⟩ :: rest, _, field + 1, index => item?_rebuildFields rest field index
  | ⟨_, _, .parameter _⟩ :: rest, _, field + 1, index => item?_rebuildFields rest field index
  | ⟨_, _, .children _⟩ :: rest, _, field + 1, index => item?_rebuildFields rest field index

/-- What is inside a record is rebuilt as the function says for the positions inside. -/
theorem inner?_rebuild {f : Position → Record V → Record V} (outside : ∀ s, f [] s = s)
    (r : Record V) (step : Inward) :
    (r.rebuild f).inner? step = (r.inner? step).map (rebuild fun p => f (step :: p)) := by
  cases r with
  | fields typeName fs =>
      rw [rebuild, outside]
      cases step with
      | body => rfl
      | child field index => exact item?_rebuildFields fs field index
  | _ =>
      rw [rebuild, outside]
      cases step <;> rfl

theorem at?_replaceAt {r s : Record V} {q : Position} (h : r.at? q = some s) (t : Record V) :
    (r.replaceAt q t).at? q = some t := by
  induction q generalizing r with
  | nil => cases r <;> rfl
  | cons step q ih =>
      rw [at?, Option.bind_eq_some_iff] at h
      obtain ⟨body, inside, found⟩ := h
      have further : (fun (p : Position) (u : Record V) =>
          if step :: p = step :: q then t else u) = fun p u => if p = q then t else u := by
        simp only [List.cons.injEq, true_and]
      rw [at?, replaceAt, inner?_rebuild (fun _ => rfl), inside, further]
      exact ih found

/-- A record keeps its call or its fault when records inside it are put behind covers, at any
positions, and when one of them is exchanged for a record with its call or its fault; for
only the layouts and the type names of records are looked at. -/
theorem encode_covered (r : Record V) :
    (∀ covers : Position → List Cover, encode (r.coverAt covers) = encode r) ∧
    (∀ p s t, r.at? p = some s → encode t = encode s →
      (r.replaceAt p t).at? p = some t ∧ encode (r.replaceAt p t) = encode r) ∧
    ∀ s : Record V, s.layout = r.layout → s.typeName = r.typeName → encode s = encode r := by
  refine ⟨?_, ?_, fun s => encode_congr_layout⟩
  · intro covers
    apply encode_rebuild
    intro p s s' _ same
    exact (encode_behind (covers p) s').trans same
  · intro p s t found same
    refine ⟨at?_replaceAt found t, encode_rebuild ?_⟩
    intro p' u u' found' same'
    dsimp only
    split
    · next here =>
        rw [here, found] at found'
        rw [same, Option.some.inj found']
    · exact same'

/-- The crate with its pair behind a name that is empty and a reference, the faulty child of
the pair in the place of another record, and all of it in a box. -/
def crateCovers : Position → List Cover
  | [] => [.custom "Box"]
  | [.child 1 1] => [.unnamed "Named", .reference]
  | [.child 1 1, .body, .body, .child 1 1] => [.custom "Holder"]
  | _ => []

def coveredCrate : Record String :=
  let ball : Record String := .fields "Ball" [.name "Shape" "sphere", .parameter "R" (.of "1")]
  let broken : Record String :=
    .fields "Broken" [.name "Shape" "sphere", .parameter "R" (.of "1"), .parameter "r" (.of "2")]
  let pair : Record String :=
    .fields "Pair" [.name "Shape" "union",
      .children "Children" [.component "Ball" ball, .custom "Holder" broken]]
  .custom "Box" (.fields "Crate" [.parameter "Size" (.of "3"),
    .children "Children" [ball,
      .reference (.named "Named" "" (.named "Named" "pair" (.reference pair))), .absent "Lid"],
    .name "Crate" ""])

/-- The first child of the crate with its fields the other way round. -/
def turnedBall : Record String :=
  .fields "Ball" [.parameter "R" (.of "1"), .name "Shape" "sphere"]

theorem crate_covered :
    brokenCrate.coverAt crateCovers = coveredCrate ∧
    encode (brokenCrate.coverAt crateCovers) = .error brokenCrateFault ∧
    (∃ ball, brokenCrate.at? [.child 1 0] = some ball ∧ encode turnedBall = encode ball ∧
      (brokenCrate.replaceAt [.child 1 0] turnedBall).at? [.child 1 0] = some turnedBall ∧
      encode (brokenCrate.replaceAt [.child 1 0] turnedBall) = .error brokenCrateFault) ∧
    (reference brokenCrate).layout = brokenCrate.layout ∧
    (reference brokenCrate).typeName = brokenCrate.typeName ∧
    encode (reference brokenCrate) = .error brokenCrateFault := by
  have fails : encode brokenCrate = .error brokenCrateFault := rfl
  obtain ⟨covered, replaced, passed⟩ := encode_covered brokenCrate
  obtain ⟨there, same⟩ := replaced [.child 1 0] _ turnedBall rfl rfl
  exact ⟨rfl, (covered crateCovers).trans fails, ⟨_, rfl, rfl, there, same.trans fails⟩, rfl, rfl,
    (passed (reference brokenCrate) rfl rfl).trans fails⟩

end Record

end Scad
