import Scad.Call.Json
import Scad.Proofs.JsonReaders

/-!
# Calls read back from JSON

What a call is written as is read as that call, provided that the reader has room for
its levels (`readCall_toJson`). What is empty is left out when it is written; reading
starts from the same empty parts, so each of the four members either sets its part or
has nothing to set (`readMembers_jsonMembers`). A call that has been read had room for
its levels (`levels_of_readCall`). So it can be written, and then is read again
(`json_lossless`).
-/

namespace Scad

namespace Json

/-! ## Levels -/

mutual

/-- The number of arrays and objects that are open at once. -/
def levels : Json → Nat
  | .string _ => 0
  | .array items => 1 + levelsOfItems items
  | .object members => 1 + levelsOfMembers members

def levelsOfItems : List Json → Nat
  | [] => 0
  | item :: items => max (levels item) (levelsOfItems items)

def levelsOfMembers : List (String × Json) → Nat
  | [] => 0
  | (_, value) :: members => max (levels value) (levelsOfMembers members)

end

theorem levelsOfItems_le {n : Nat} {items : List Json} :
    levelsOfItems items ≤ n ↔ ∀ v ∈ items, v.levels ≤ n := by
  induction items with
  | nil => simp [levelsOfItems]
  | cons item items ih => rw [levelsOfItems, Nat.max_le, ih, List.forall_mem_cons]

theorem levelsOfMembers_le {n : Nat} {members : List (String × Json)} :
    levelsOfMembers members ≤ n ↔ ∀ e ∈ members, e.2.levels ≤ n := by
  induction members with
  | nil => simp [levelsOfMembers]
  | cons e members ih => rw [levelsOfMembers, Nat.max_le, ih, List.forall_mem_cons]

end Json

namespace Call

open Json (ReadFault Reader ReadsAs Takes levelsOfItems)

variable {room : Nat} {children : Reader (List (Call String))} {d : Members}

/-! ## The members of a written call -/

def parametersMember (m : SortedMap String String) : List (String × Json) :=
  if m.isEmpty then [] else [("parameters", parametersJson m)]

def childrenMember (cs : List (Call String)) : List (String × Json) :=
  if cs.isEmpty then [] else [("children", .array (toJsonAll cs))]

def moduleMember : Option Identifier → List (String × Json)
  | none => []
  | some m => [("module", .string m.text)]

/-- The members of a written call. -/
def jsonMembers (f : Call String) : List (String × Json) :=
  [("name", .string f.name)] ++ parametersMember f.parameters ++ childrenMember f.children ++
    moduleMember f.moduleId

theorem toJson_eq (f : Call String) : f.toJson = .object f.jsonMembers := by
  obtain ⟨name, parameters, children, moduleId⟩ := f
  cases moduleId <;> rfl

theorem forall_mem_toJsonAll {P : Json → Prop} {cs : List (Call String)} :
    (∀ v ∈ toJsonAll cs, P v) ↔ ∀ c ∈ cs, P c.toJson := by
  induction cs with
  | nil => simp [toJsonAll]
  | cons c cs ih => rw [toJsonAll, List.forall_mem_cons, List.forall_mem_cons, ih]

/-! ## Levels of a call -/

/-- There is room for the parameters of a call. -/
def ParametersFit (room : Nat) (m : SortedMap String String) : Prop :=
  m.isEmpty = false → 1 ≤ room

/-- There is room for the child calls of a call and all their levels. -/
def ChildrenFit (room : Nat) (cs : List (Call String)) : Prop :=
  cs ≠ [] → 1 ≤ room ∧ ∀ c ∈ cs, c.toJson.levels ≤ room - 1

theorem levels_parametersJson (m : SortedMap String String) : (parametersJson m).levels = 1 := by
  have inner : Json.levelsOfMembers (m.entries.map fun e => (e.1, Json.string e.2)) ≤ 0 := by
    rw [Json.levelsOfMembers_le]
    intro e he
    obtain ⟨entry, -, rfl⟩ := List.mem_map.1 he
    exact Nat.le_refl 0
  rw [parametersJson, Json.levels, Nat.le_zero.1 inner]

theorem levels_parametersMember {m : SortedMap String String} :
    (∀ e ∈ parametersMember m, e.2.levels ≤ room) ↔ ParametersFit room m := by
  unfold parametersMember ParametersFit
  cases m.isEmpty <;> simp [levels_parametersJson]

theorem levels_childrenMember {cs : List (Call String)} :
    (∀ e ∈ childrenMember cs, e.2.levels ≤ room) ↔ ChildrenFit room cs := by
  unfold childrenMember ChildrenFit
  cases cs with
  | nil => simp
  | cons c cs =>
      have items : 1 + levelsOfItems (toJsonAll (c :: cs)) ≤ room ↔
          1 ≤ room ∧ levelsOfItems (toJsonAll (c :: cs)) ≤ room - 1 := by omega
      simp [Json.levels, items, Json.levelsOfItems_le, forall_mem_toJsonAll]

theorem levels_moduleMember (m : Option Identifier) : ∀ e ∈ moduleMember m, e.2.levels = 0 := by
  cases m with
  | none => exact List.forall_mem_nil _
  | some m => exact List.forall_mem_singleton.2 rfl

/-- The brace of a call is one level, and what it holds has to fit behind it. -/
theorem levels_toJson_le {f : Call String} : f.toJson.levels ≤ room + 1 ↔
    ParametersFit room f.parameters ∧ ChildrenFit room f.children := by
  rw [toJson_eq, Json.levels, Nat.add_comm, Nat.add_le_add_iff_right, Json.levelsOfMembers_le,
    jsonMembers, List.forall_mem_append, List.forall_mem_append, List.forall_mem_append,
    levels_parametersMember, levels_childrenMember]
  constructor
  · rintro ⟨⟨⟨-, parameters⟩, children⟩, -⟩
    exact ⟨parameters, children⟩
  · rintro ⟨parameters, children⟩
    have name : ∀ e ∈ [("name", Json.string f.name)], e.2.levels ≤ room :=
      List.forall_mem_singleton.2 (Nat.zero_le room)
    refine ⟨⟨⟨name, parameters⟩, children⟩, fun e he => ?_⟩
    rw [levels_moduleMember f.moduleId e he]
    exact Nat.zero_le room

/-! ## Reading what was written -/

theorem takes_parameters (entries : List (String × String)) (m : SortedMap String String) :
    Takes readParameter m (entries.map fun e => (e.1, .string e.2))
      (entries.foldl (fun m e => m.insert e.1 e.2) m) := by
  induction entries generalizing m with
  | nil => exact .nil
  | cons e entries ih => exact .cons (fun _ => rfl) (ih (m.insert e.1 e.2))

theorem readParameters_parametersJson (m : SortedMap String String) (h : 1 ≤ room) :
    ReadsAs (readParameters room) (parametersJson m) m := by
  intro rest
  have taken := Json.members_of_takes (takes_parameters m.entries ∅) rest
  have whole : m.entries.foldl (fun m e => m.insert e.1 e.2) ∅ = m := m.ofList_entries
  rw [whole] at taken
  rw [parametersJson, Json.tokensOf, List.cons_append, List.append_assoc, readParameters,
    if_neg (Nat.ne_of_gt h)]
  exact taken

section Members

variable {name : Option String} {parameters : Option (SortedMap String String)}
variable {cs : Option (List (Call String))} {moduleId : Option (Option Identifier)}

theorem takes_name (name : String) :
    Takes (readMember room children) .none [("name", .string name)]
      ⟨some name, none, none, none⟩ :=
  .cons (fun _ => rfl) .nil

theorem takes_parametersMember (m : SortedMap String String) (fits : ParametersFit room m) :
    Takes (readMember room children) ⟨name, none, cs, moduleId⟩ (parametersMember m)
      ⟨name, if m.isEmpty then none else some m, cs, moduleId⟩ := by
  unfold parametersMember
  cases empty : m.isEmpty with
  | true => exact .nil
  | false =>
      refine .cons (fun rest => ?_) .nil
      have read := readParameters_parametersJson m (fits empty) rest
      simp [readMember, Json.behindColon, read, bind, Except.bind, pure, Except.pure]

theorem takes_childrenMember (fs : List (Call String))
    (reads : fs ≠ [] → ReadsAs children (.array (toJsonAll fs)) fs) :
    Takes (readMember room children) ⟨name, parameters, none, moduleId⟩ (childrenMember fs)
      ⟨name, parameters, if fs.isEmpty then none else some fs, moduleId⟩ := by
  unfold childrenMember
  cases fs with
  | nil => exact .nil
  | cons f fs =>
      refine .cons (fun rest => ?_) .nil
      have read := reads (List.cons_ne_nil f fs) rest
      simp [readMember, Json.behindColon, read, bind, Except.bind, pure, Except.pure]

theorem takes_moduleMember (m : Option Identifier) :
    Takes (readMember room children) ⟨name, parameters, cs, none⟩ (moduleMember m)
      ⟨name, parameters, cs, m.map some⟩ := by
  unfold moduleMember
  cases m with
  | none => exact .nil
  | some m =>
      refine .cons (fun rest => ?_) .nil
      have valid : Identifier.ofString? m.text = .ok m := dif_pos m.isIdentifier
      have read : readModule ((Json.string m.text).tokensOf ++ rest) = .ok (some m, rest) := by
        simp [Json.tokensOf, readModule, readIdentifier, Json.readString, valid, bind,
          Except.bind, pure, Except.pure]
      simp [readMember, Json.behindColon, read, bind, Except.bind, pure, Except.pure]

end Members

theorem call_of_members (f : Call String) :
    Members.call ⟨some f.name, if f.parameters.isEmpty then none else some f.parameters,
      if f.children.isEmpty then none else some f.children, f.moduleId.map some⟩ = .ok f := by
  obtain ⟨name, parameters, children, moduleId⟩ := f
  have emptyParameters : parameters.isEmpty = true → ∅ = parameters := by
    intro empty
    exact SortedMap.eq_of_entries_perm (.of_eq (List.isEmpty_iff.1 empty).symm)
  have noChildren : children.isEmpty = true → [] = children :=
    fun empty => (List.isEmpty_iff.1 empty).symm
  unfold Members.call
  cases hp : parameters.isEmpty <;> cases hc : children.isEmpty <;> cases moduleId <;> simp_all

/-- The members of a call give back the call, whichever of them are left out. -/
theorem readMembers_jsonMembers (f : Call String) (fits : ParametersFit room f.parameters)
    (reads : f.children ≠ [] → ReadsAs children (.array (toJsonAll f.children)) f.children)
    (rest : List Json.Token) :
    readMembers room children
      (Json.separated (Json.tokensOfMembers f.jsonMembers) ++ .closeBrace :: rest) =
        .ok (f, rest) := by
  have taken := (((takes_name f.name).append (takes_parametersMember f.parameters fits)).append
    (takes_childrenMember f.children reads)).append (takes_moduleMember f.moduleId)
  exact bind_eq_ok.2 ⟨_, Json.members_of_takes taken rest,
    bind_eq_ok.2 ⟨f, call_of_members f, rfl⟩⟩

theorem readChildren_toJsonAll {cs : List (Call String)}
    (reads : ∀ c ∈ cs, ReadsAs (readCall room) c.toJson c) :
    ReadsAs (readChildren (room + 1)) (.array (toJsonAll cs)) cs := by
  have each : List.Forall₂ (ReadsAs (readCall room)) (toJsonAll cs) cs := by
    induction cs with
    | nil => exact .nil
    | cons c cs ih =>
        obtain ⟨first, later⟩ := List.forall_mem_cons.1 reads
        exact .cons first (ih later)
  intro rest
  rw [Json.tokensOf, List.cons_append, List.append_assoc]
  exact Json.items_of_readsAs each rest

/-- A written call is read as that call by a reader with room for its levels. -/
theorem readCall_toJson (f : Call String) (h : f.toJson.levels ≤ room) :
    ReadsAs (readCall room) f.toJson f := by
  induction room using Nat.strongRecOn generalizing f with
  | ind room ih =>
      cases room with
      | zero =>
          rw [toJson_eq, Json.levels] at h
          omega
      | succ room =>
          obtain ⟨parametersFit, childrenFit⟩ := levels_toJson_le.1 h
          -- A child is two levels deeper, behind the brace of the call and a bracket.
          have reads (some : f.children ≠ []) :
              ReadsAs (readChildren room) (.array (toJsonAll f.children)) f.children := by
            obtain ⟨positive, below⟩ := childrenFit some
            obtain ⟨room, rfl⟩ := Nat.exists_eq_add_one_of_ne_zero (Nat.ne_of_gt positive)
            exact readChildren_toJsonAll fun c hc => ih room (by omega) c (below c hc)
          intro rest
          rw [toJson_eq, Json.tokensOf, List.cons_append, List.append_assoc]
          exact readMembers_jsonMembers f parametersFit reads rest

/-! ## What has been read -/

/-- What has been read of a call has room. -/
structure Members.Fit (room : Nat) (d : Members) : Prop where
  parameters : ∀ m, d.parameters = some m → ParametersFit room m
  children : ∀ cs, d.children = some cs → ChildrenFit room cs

section Fit

variable {d d' : Members} {f : Call String} {tokens rest : List Json.Token}

theorem Members.Fit.none : Members.none.Fit room := ⟨by simp [Members.none], by simp [Members.none]⟩

theorem Members.Fit.withParameters (h : d.Fit room) {m : SortedMap String String}
    (fits : ParametersFit room m) : Fit room { d with parameters := some m } :=
  ⟨fun _ same => Option.some.inj same ▸ fits, h.children⟩

theorem Members.Fit.withChildren (h : d.Fit room) {cs : List (Call String)}
    (fits : ChildrenFit room cs) : Fit room { d with children := some cs } :=
  ⟨h.parameters, fun _ same => Option.some.inj same ▸ fits⟩

theorem Members.Fit.levels (h : d.Fit room) (called : d.call = .ok f) :
    f.toJson.levels ≤ room + 1 := by
  unfold Members.call at called
  cases name : d.name with
  | none => simp [name] at called
  | some name' =>
      simp only [name] at called
      cases called
      refine levels_toJson_le.2 ⟨?_, ?_⟩
      · cases given : d.parameters with
        | none => exact fun filled => by contradiction
        | some m => exact h.parameters m given
      · cases given : d.children with
        | none => exact fun filled => absurd rfl filled
        | some cs => exact h.children cs given

theorem parametersFit_of_readParameters {m : SortedMap String String}
    (h : readParameters room tokens = .ok (m, rest)) : ParametersFit room m := by
  unfold readParameters at h
  split at h
  · by_cases full : room = 0
    · simp [full] at h
    · exact fun _ => Nat.pos_of_ne_zero full
  · contradiction

theorem exists_of_behindColon {α : Type} {value : Reader α} {r : α × List Json.Token}
    (h : Json.behindColon value tokens = .ok r) : ∃ behind, value behind = .ok r := by
  unfold Json.behindColon at h
  split at h
  · exact ⟨_, h⟩
  · contradiction

/-- The next value of an array of values is there and has been read, or there is none. -/
theorem readNext_eq_ok {α : Type} {value : Reader α} {add : α → Members}
    {go : Members → Reader Members} (h : readNext value d add go tokens = .ok (d', rest)) :
    d' = d ∨ ∃ v before behind, value before = .ok (v, behind) ∧
      go (add v) behind = .ok (d', rest) := by
  obtain ⟨⟨more, before⟩, -, h⟩ := bind_eq_ok.1 h
  cases more with
  | false =>
      cases h
      exact .inl rfl
  | true =>
      obtain ⟨⟨v, behind⟩, read, h⟩ := bind_eq_ok.1 h
      exact .inr ⟨v, before, behind, read, h⟩

variable (childrenFit : ∀ {tokens cs rest}, children tokens = .ok (cs, rest) → ChildrenFit room cs)
include childrenFit

theorem fit_of_readMember {key : Option String} (fit : d.Fit room)
    (h : readMember room children key d tokens = .ok (d', rest)) : d'.Fit room := by
  unfold readMember at h
  split at h
  · split at h
    · contradiction
    · obtain ⟨⟨name, behind⟩, -, h⟩ := bind_eq_ok.1 h
      cases h
      exact ⟨fit.parameters, fit.children⟩
  · split at h
    · contradiction
    · obtain ⟨⟨m, behind⟩, read, h⟩ := bind_eq_ok.1 h
      cases h
      obtain ⟨_, read⟩ := exists_of_behindColon read
      exact fit.withParameters (parametersFit_of_readParameters read)
  · split at h
    · contradiction
    · obtain ⟨⟨cs, behind⟩, read, h⟩ := bind_eq_ok.1 h
      cases h
      obtain ⟨_, read⟩ := exists_of_behindColon read
      exact fit.withChildren (childrenFit read)
  · split at h
    · contradiction
    · obtain ⟨⟨m, behind⟩, -, h⟩ := bind_eq_ok.1 h
      cases h
      exact ⟨fit.parameters, fit.children⟩
  · obtain ⟨⟨_, behind⟩, -, h⟩ := bind_eq_ok.1 h
    cases h
    exact fit
  · contradiction

theorem levels_of_readMembers (h : readMembers room children tokens = .ok (f, rest)) :
    f.toJson.levels ≤ room + 1 := by
  obtain ⟨⟨d, behind⟩, taken, h⟩ := bind_eq_ok.1 h
  obtain ⟨f, called, h⟩ := bind_eq_ok.1 h
  cases h
  have fit := Json.members_invariant (P := Members.Fit room) (fit_of_readMember childrenFit)
    .none taken
  exact fit.levels called

theorem levels_of_readPositions (h : readPositions room children tokens = .ok (f, rest)) :
    f.toJson.levels ≤ room + 1 := by
  obtain ⟨⟨more, before⟩, -, h⟩ := bind_eq_ok.1 h
  cases more with
  | false => contradiction
  | true =>
      obtain ⟨⟨name, behind⟩, -, h⟩ := bind_eq_ok.1 h
      obtain ⟨⟨d, last⟩, read, h⟩ := bind_eq_ok.1 h
      obtain ⟨f, called, h⟩ := bind_eq_ok.1 h
      cases h
      suffices fit : Members.Fit room d from fit.levels called
      have named : Members.Fit room { Members.none with name := some name } :=
        ⟨Members.Fit.none.parameters, Members.Fit.none.children⟩
      -- The array may end after each value behind the name.
      rcases readNext_eq_ok read with rfl | ⟨m, _, _, parameters, read⟩
      · exact named
      have fit := named.withParameters (parametersFit_of_readParameters parameters)
      rcases readNext_eq_ok read with rfl | ⟨cs, _, _, read', read⟩
      · exact fit
      have fit := fit.withChildren (childrenFit read')
      rcases readNext_eq_ok read with rfl | ⟨moduleId, _, _, -, read⟩
      · exact fit
      · dsimp only at read
        split at read
        · cases read
          exact ⟨fit.parameters, fit.children⟩
        · contradiction

end Fit

theorem childrenFit_of_readChildren {cs : List (Call String)} {tokens rest : List Json.Token}
    (each : ∀ below < room, ∀ {c : Call String} {tokens rest},
      readCall below tokens = .ok (c, rest) → c.toJson.levels ≤ below)
    (h : readChildren room tokens = .ok (cs, rest)) : ChildrenFit room cs := by
  unfold readChildren at h
  split at h
  · next below _ =>
      exact fun _ => ⟨Nat.succ_pos below, Json.forall_of_items (each below (Nat.lt_succ_self _)) h⟩
  · contradiction
  · contradiction

/-- A call that has been read had room for its levels. -/
theorem levels_of_readCall {f : Call String} {tokens rest : List Json.Token}
    (h : readCall room tokens = .ok (f, rest)) : f.toJson.levels ≤ room := by
  induction room using Nat.strongRecOn generalizing f tokens rest with
  | ind room ih =>
      unfold readCall at h
      split at h
      · next room _ =>
          exact levels_of_readMembers
            (childrenFit_of_readChildren fun n less => ih n (Nat.lt_succ_of_lt less)) h
      · next room _ =>
          exact levels_of_readPositions
            (childrenFit_of_readChildren fun n less => ih n (Nat.lt_succ_of_lt less)) h
      · contradiction
      · contradiction
      · contradiction

/-! ## Whole texts -/

theorem readAll_of_tokens {f : Call String} {s : String} (cut : Json.tokens s = f.toJson.tokensOf)
    (h : f.toJson.levels ≤ room) : Json.readAll (readCall room) s = .ok f := by
  have read := readCall_toJson f h []
  rw [List.append_nil] at read
  unfold Json.readAll
  rw [cut, read]
  rfl

/-- Both texts of a call are read as that call by a reader with room for its levels. -/
theorem readAll_text {f : Call String} (h : f.toJson.levels ≤ room) :
    Json.readAll (readCall room) f.toJson.compact = .ok f ∧
      Json.readAll (readCall room) f.toJson.pretty = .ok f :=
  ⟨readAll_of_tokens (Json.tokens_compact _) h, readAll_of_tokens (Json.tokens_pretty _) h⟩

theorem levels_of_readAll {f : Call String} {s : String}
    (h : Json.readAll (readCall room) s = .ok f) : f.toJson.levels ≤ room := by
  obtain ⟨⟨f', rest⟩, read, h⟩ := bind_eq_ok.1 h
  cases rest with
  | nil =>
      cases h
      exact levels_of_readCall read
  | cons t rest => contradiction

/-- The text of a call loses nothing. -/
theorem json_lossless :
    (∀ (f : Call String) (room : Nat), f.toJson.levels ≤ room →
      Json.readAll (readCall room) f.toJson.compact = .ok f ∧
      Json.readAll (readCall room) f.toJson.pretty = .ok f) ∧
    (∀ f g : Call String, f.toJson.compact = g.toJson.compact → f = g) ∧
    (∀ f g : Call String, f.toJson.pretty = g.toJson.pretty → f = g) ∧
    (∀ (s : String) (f : Call String) (room : Nat), Json.readAll (readCall room) s = .ok f →
      Json.readAll (readCall room) f.toJson.compact = .ok f ∧
      Json.readAll (readCall room) f.toJson.pretty = .ok f) := by
  -- One reader has room for both trees, and reads one tree from their common text.
  have enough (f g : Call String) : f.toJson.levels ≤ max f.toJson.levels g.toJson.levels ∧
      g.toJson.levels ≤ max f.toJson.levels g.toJson.levels := by omega
  refine ⟨fun f room => readAll_text, ?_, ?_, fun s f room h => readAll_text (levels_of_readAll h)⟩
  · intro f g same
    have first := (readAll_text (enough f g).1).1
    rw [same, (readAll_text (enough f g).2).1] at first
    exact (Except.ok.inj first).symm
  · intro f g same
    have first := (readAll_text (enough f g).1).2
    rw [same, (readAll_text (enough f g).2).2] at first
    exact (Except.ok.inj first).symm

/-- A module around a call without a name, with characters that have to be escaped. -/
def controlTree : Call String :=
  ⟨"a\"\\\n\x01é", .insert ∅ "\x1f" "😀/\t", [⟨"", ∅, [], none⟩, ⟨"b", ∅, [.bare "c"], none⟩],
    some ⟨"lid", by decide +kernel⟩⟩

theorem controlTree_lossless :
    controlTree.toJson.levels ≤ maxLevels ∧
    controlTree.toJson.compact =
      "\x7b\"name\":\"a\\\"\\\\\\n\\u0001é\",\"parameters\":\x7b\"\\u001f\":\"😀/\\t\"\x7d," ++
      "\"children\":[\x7b\"name\":\"\"\x7d," ++
      "\x7b\"name\":\"b\",\"children\":[\x7b\"name\":\"c\"\x7d]\x7d]," ++
      "\"module\":\"lid\"\x7d" ∧
    ofJson? controlTree.toJson.compact = .ok controlTree ∧
    ofJson? controlTree.toJson.pretty = .ok controlTree ∧
    ofJson? "[\"c\", \x7b\x7d, [ ], null]" = .ok (.bare "c") ∧
    ofJson? (Call.bare "c").toJson.pretty = .ok (.bare "c") := by
  have room : controlTree.toJson.levels ≤ maxLevels := by decide +kernel
  have text := json_lossless.1 controlTree maxLevels room
  have array : ofJson? "[\"c\", \x7b\x7d, [ ], null]" = .ok (.bare "c") := by decide +kernel
  exact ⟨room, by decide +kernel, text.1, text.2, array,
    (json_lossless.2.2.2 _ _ maxLevels array).2⟩

end Call

end Scad
