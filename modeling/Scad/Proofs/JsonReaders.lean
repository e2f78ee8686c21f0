import Scad.Json.Reader
import Scad.Proofs.JsonTokens
import Scad.Proofs.Passes

/-!
# Readers of objects and arrays

The members of an object are taken one by one into a state. So an object that is
written is read by what each of its members adds to the state (`members_of_takes`),
and an array by what each of its items is read as (`items_of_readsAs`). The other way
round, what every member keeps of the state holds of the whole object
(`members_invariant`), and what holds of every item that is read holds of all items of
an array (`forall_of_items`).
-/

namespace Scad

namespace Json

variable {α σ : Type}

/-! ## Reading written values -/

/-- The reader reads the written value as `a`, whatever tokens come after it. -/
def ReadsAs (reader : Reader α) (v : Json) (a : α) : Prop :=
  ∀ rest, reader (v.tokensOf ++ rest) = .ok (a, rest)

/-- The reader of members takes written members one by one, from state to state. -/
inductive Takes (member : Option String → σ → Reader σ) : σ → List (String × Json) → σ → Prop
  | nil {s : σ} : Takes member s [] s
  | cons {s s' s'' : σ} {key : String} {value : Json} {members : List (String × Json)} :
      (∀ rest, member (some key) s (.colon :: (value.tokensOf ++ rest)) = .ok (s', rest)) →
        Takes member s' members s'' → Takes member s ((key, value) :: members) s''

theorem Takes.append {member : Option String → σ → Reader σ} {s s' s'' : σ}
    {ms ms' : List (String × Json)} (h : Takes member s ms s') (h' : Takes member s' ms' s'') :
    Takes member s (ms ++ ms') s'' := by
  induction h with
  | nil => exact h'
  | cons first _ ih => exact .cons first (ih h')

/-! ## Objects -/

section Objects

variable {member : Option String → σ → Reader σ} {s s' : σ} {ms : List (String × Json)}

theorem membersFrom_first {fuel : Nat} {key : Option String} {rest rest' rest'' : List Token}
    {s'' : σ} (first : member key s rest = .ok (s', rest'))
    (later : membersFrom member fuel false s' rest' = .ok (s'', rest'')) :
    membersFrom member (fuel + 1) true s (.string key :: rest) = .ok (s'', rest'') := by
  simp [membersFrom, first, later, bind, Except.bind]

theorem membersFrom_later {fuel : Nat} {key : Option String} {rest rest' rest'' : List Token}
    {s'' : σ} (first : member key s rest = .ok (s', rest'))
    (later : membersFrom member fuel false s' rest' = .ok (s'', rest'')) :
    membersFrom member (fuel + 1) false s (.comma :: .string key :: rest) = .ok (s'', rest'') := by
  simp [membersFrom, first, later, bind, Except.bind]

theorem membersFrom_of_takes (h : Takes member s ms s') {fuel : Nat} (enough : ms.length < fuel)
    (rest : List Token) :
    membersFrom member fuel false s
        ((tokensOfMembers ms).flatMap (.comma :: ·) ++ .closeBrace :: rest) = .ok (s', rest) := by
  induction h generalizing fuel with
  | nil =>
      obtain ⟨fuel, rfl⟩ := Nat.exists_eq_add_one_of_ne_zero (Nat.ne_zero_of_lt enough)
      rfl
  | cons first _ ih =>
      obtain ⟨fuel, rfl⟩ := Nat.exists_eq_add_one_of_ne_zero (Nat.ne_zero_of_lt enough)
      have later := ih (Nat.lt_of_succ_lt_succ enough)
      simpa [tokensOfMembers] using membersFrom_later (first _) later

/-- An object is read by taking its members. -/
theorem members_of_takes (h : Takes member s ms s') (rest : List Token) :
    members member s (separated (tokensOfMembers ms) ++ .closeBrace :: rest) = .ok (s', rest) := by
  have size := length_le_separated (tokensOfMembers ms)
  rw [length_tokensOfMembers] at size
  cases h with
  | nil => rfl
  | @cons _ _ _ key value ms first later =>
      -- The fuel is the number of tokens, of which each member but the first has a comma.
      unfold members
      have enough : ms.length <
          (separated (tokensOfMembers ((key, value) :: ms)) ++ .closeBrace :: rest).length := by
        rw [List.length_append, List.length_cons]
        rw [List.length_cons] at size
        omega
      have later := membersFrom_of_takes later enough rest
      simpa [tokensOfMembers, separated] using membersFrom_first (first _) later

theorem membersFrom_invariant {P : σ → Prop}
    (step : ∀ {key s tokens s' rest}, P s → member key s tokens = .ok (s', rest) → P s')
    {fuel : Nat} {isFirst : Bool} {tokens rest : List Token} (start : P s)
    (h : membersFrom member fuel isFirst s tokens = .ok (s', rest)) : P s' := by
  induction fuel generalizing isFirst s tokens with
  | zero => contradiction
  | succ fuel ih =>
      unfold membersFrom at h
      split at h
      · cases h
        exact start
      · obtain ⟨⟨between, more⟩, taken, h⟩ := bind_eq_ok.1 h
        exact ih (step start taken) h
      · obtain ⟨⟨between, more⟩, taken, h⟩ := bind_eq_ok.1 h
        exact ih (step start taken) h
      · contradiction

/-- What every member keeps, an object keeps. -/
theorem members_invariant {P : σ → Prop}
    (step : ∀ {key s tokens s' rest}, P s → member key s tokens = .ok (s', rest) → P s')
    {tokens rest : List Token} (start : P s) (h : members member s tokens = .ok (s', rest)) :
    P s' :=
  membersFrom_invariant step start h

end Objects

/-! ## Arrays -/

section Arrays

variable {item : Reader α} {vs : List Json} {as : List α}

theorem nextItem_first (v : Json) (rest : List Token) :
    nextItem true (v.tokensOf ++ rest) = .ok (true, v.tokensOf ++ rest) := by
  cases v <;> rfl

theorem nextItem_later (v : Json) (rest : List Token) :
    nextItem false (.comma :: (v.tokensOf ++ rest)) = .ok (true, v.tokensOf ++ rest) := by
  cases v <;> rfl

theorem itemsFrom_more {fuel : Nat} {isFirst : Bool} {tokens rest rest' rest'' : List Token}
    {a : α} (next : nextItem isFirst tokens = .ok (true, rest))
    (first : item rest = .ok (a, rest'))
    (later : itemsFrom item fuel false rest' = .ok (as, rest'')) :
    itemsFrom item (fuel + 1) isFirst tokens = .ok (a :: as, rest'') := by
  simp [itemsFrom, next, first, later, bind, Except.bind, pure, Except.pure]

theorem itemsFrom_of_readsAs (h : List.Forall₂ (ReadsAs item) vs as) {fuel : Nat}
    (enough : vs.length < fuel) (rest : List Token) :
    itemsFrom item fuel false
        ((tokensOfItems vs).flatMap (.comma :: ·) ++ .closeBracket :: rest) = .ok (as, rest) := by
  induction h generalizing fuel with
  | nil =>
      obtain ⟨fuel, rfl⟩ := Nat.exists_eq_add_one_of_ne_zero (Nat.ne_zero_of_lt enough)
      rfl
  | cons first _ ih =>
      obtain ⟨fuel, rfl⟩ := Nat.exists_eq_add_one_of_ne_zero (Nat.ne_zero_of_lt enough)
      have later := ih (Nat.lt_of_succ_lt_succ enough)
      simpa [tokensOfItems] using itemsFrom_more (nextItem_later _ _) (first _) later

/-- An array is read by reading its items. -/
theorem items_of_readsAs (h : List.Forall₂ (ReadsAs item) vs as) (rest : List Token) :
    items item (separated (tokensOfItems vs) ++ .closeBracket :: rest) = .ok (as, rest) := by
  have size := length_le_separated (tokensOfItems vs)
  rw [length_tokensOfItems] at size
  cases h with
  | nil => rfl
  | @cons v a vs as first later =>
      unfold items
      have enough : vs.length <
          (separated (tokensOfItems (v :: vs)) ++ .closeBracket :: rest).length := by
        rw [List.length_append, List.length_cons]
        rw [List.length_cons] at size
        omega
      have later := itemsFrom_of_readsAs later enough rest
      simpa [tokensOfItems, separated] using itemsFrom_more (nextItem_first _ _) (first _) later

theorem forall_of_itemsFrom {P : α → Prop}
    (each : ∀ {tokens a rest}, item tokens = .ok (a, rest) → P a) {fuel : Nat} {isFirst : Bool}
    {tokens rest : List Token} (h : itemsFrom item fuel isFirst tokens = .ok (as, rest)) :
    ∀ a ∈ as, P a := by
  induction fuel generalizing isFirst tokens as rest with
  | zero => contradiction
  | succ fuel ih =>
      unfold itemsFrom at h
      obtain ⟨⟨more, next⟩, -, h⟩ := bind_eq_ok.1 h
      cases more with
      | false =>
          cases h
          exact List.forall_mem_nil P
      | true =>
          obtain ⟨⟨a, behind⟩, first, h⟩ := bind_eq_ok.1 h
          obtain ⟨⟨others, last⟩, later, h⟩ := bind_eq_ok.1 h
          cases h
          exact List.forall_mem_cons.2 ⟨each first, ih later⟩

/-- What holds of every item that is read holds of the items of an array. -/
theorem forall_of_items {P : α → Prop}
    (each : ∀ {tokens a rest}, item tokens = .ok (a, rest) → P a) {tokens rest : List Token}
    (h : items item tokens = .ok (as, rest)) : ∀ a ∈ as, P a :=
  forall_of_itemsFrom each h

end Arrays

end Json

end Scad
