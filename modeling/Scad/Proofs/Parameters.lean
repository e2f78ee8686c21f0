import Mathlib.Data.List.Induction
import Scad.Call

/-!
# Parameters set one after the other

The parameters of a call are a sorted map, in which a key that is set again loses its
earlier value. So after any sequence of settings they are a listing of it: each key
that occurs stands there once, in the order of bytes, with the value that it was set to
last (`Listing`). The listing is fixed by the last values, whatever the order of the
settings and however often a key was set (`setAll_listing`). The order of bytes is the
order of code points that the map has (`utf8_lt_utf8`).
-/

namespace Scad

variable {V : Type}

/-! ## The order of bytes -/

namespace Text

/-- The bytes of a text. -/
def utf8 (s : String) : List UInt8 := s.toUTF8.data.toList

theorem utf8_eq (s : String) : utf8 s = s.toList.flatMap String.utf8EncodeChar := by
  have bytes : s.toUTF8 = (s.toList.flatMap String.utf8EncodeChar).toByteArray := by
    conv_lhs => rw [← String.ofList_toList (s := s)]
    rfl
  rw [utf8, bytes, List.toList_data_toByteArray]

theorem ofNat_lt_ofNat {m n : Nat} (hm : m < 256) (hn : n < 256) :
    UInt8.ofNat m < UInt8.ofNat n ↔ m < n := by
  rw [UInt8.lt_iff_toNat_lt, UInt8.toNat_ofNat', UInt8.toNat_ofNat', Nat.mod_eq_of_lt hm,
    Nat.mod_eq_of_lt hn]

theorem ofNat_eq_ofNat {m n : Nat} (hm : m < 256) (hn : n < 256) :
    UInt8.ofNat m = UInt8.ofNat n ↔ m = n := by
  rw [← UInt8.toNat_inj, UInt8.toNat_ofNat', UInt8.toNat_ofNat', Nat.mod_eq_of_lt hm,
    Nat.mod_eq_of_lt hn]

/-- The bytes of a character are less than those of a greater one, whatever follows. -/
theorem utf8EncodeChar_append_lt {c d : Char} (h : c < d) (x y : List UInt8) :
    String.utf8EncodeChar c ++ x < String.utf8EncodeChar d ++ y := by
  have less : c.val.toNat < d.val.toNat := h
  have valid : Nat.isValidChar d.val.toNat := d.valid
  rw [Nat.isValidChar] at valid
  -- The bytes hold the digits of the code point in base 64, the first also their number.
  have second : ∀ n : Nat, n / 4096 = n / 64 / 64 := fun n => by omega
  have third : ∀ n : Nat, n / 262144 = n / 64 / 64 / 64 := fun n => by omega
  simp only [String.utf8EncodeChar, second, third]
  generalize c.val.toNat = m at *
  generalize d.val.toNat = n at *
  split_ifs <;> simp (disch := omega) only [List.cons_append, List.nil_append,
    List.cons_lt_cons_iff, ofNat_lt_ofNat, ofNat_eq_ofNat]
  all_goals omega

theorem flatMap_utf8EncodeChar_lt {l l' : List Char} (h : l < l') :
    l.flatMap String.utf8EncodeChar < l'.flatMap String.utf8EncodeChar := by
  induction l generalizing l' with
  | nil =>
      cases l' with
      | nil => exact absurd h (List.lt_irrefl _)
      | cons d ds =>
          rw [List.flatMap_nil, List.flatMap_cons]
          obtain ⟨b, bs, first⟩ := List.exists_cons_of_ne_nil (String.utf8EncodeChar_ne_nil (c := d))
          rw [first]
          exact List.nil_lt_cons _ _
  | cons c cs ih =>
      cases l' with
      | nil => exact absurd h (List.not_lt_nil _)
      | cons d ds =>
          rw [List.flatMap_cons, List.flatMap_cons]
          rcases List.cons_lt_cons_iff.1 h with less | ⟨rfl, less⟩
          · exact utf8EncodeChar_append_lt less _ _
          · exact List.append_left_lt (ih less)

theorem utf8_lt_utf8 {s t : String} (h : compare s t = .lt) : utf8 s < utf8 t := by
  have less : s < t := compareOfLessAndEq_eq_lt.1 h
  rw [utf8_eq, utf8_eq]
  exact flatMap_utf8EncodeChar_lt less

end Text

/-! ## Sequences of settings -/

/-- The value that a key was set to last, if it was set at all. -/
def lastValue? (steps : List (String × V)) (key : String) : Option V :=
  ((steps.filter (·.1 = key)).getLast?).map (·.2)

theorem lastValue?_concat (steps : List (String × V)) (key key' : String) (value : V) :
    lastValue? (steps ++ [(key, value)]) key' =
      if key' = key then some value else lastValue? steps key' := by
  rw [lastValue?, List.filter_append]
  by_cases h : key = key'
  · simp [h]
  · simp [h, Ne.symm h, lastValue?]

theorem isSome_lastValue?_iff {steps : List (String × V)} {key : String} :
    (lastValue? steps key).isSome ↔ key ∈ steps.map (·.1) := by
  simp [lastValue?]

namespace Call

/-- Sets parameters one after the other. -/
def setAll (c : Call V) (steps : List (String × V)) : Call V :=
  steps.foldl (fun c s => c.setParameter s.1 s.2) c

/-- What each of the settings answers: whether its key had a value already. -/
def answers (c : Call V) : List (String × V) → List Bool
  | [] => []
  | (key, value) :: rest => c.hasParameter key :: (c.setParameter key value).answers rest

theorem setAll_concat (c : Call V) (steps : List (String × V)) (key : String) (value : V) :
    c.setAll (steps ++ [(key, value)]) = (c.setAll steps).setParameter key value := by
  rw [setAll, List.foldl_append]
  rfl

theorem setAll_bare (name : String) (steps : List (String × V)) :
    (bare name).setAll steps = ⟨name, ((bare name).setAll steps).parameters, [], none⟩ := by
  induction steps using List.reverseRecOn with
  | nil => rfl
  | append_singleton steps s ih =>
      rw [setAll_concat, ih]
      rfl

theorem get?_setAll_bare (name : String) (steps : List (String × V)) (key : String) :
    ((bare name).setAll steps).parameters.get? key = lastValue? steps key := by
  induction steps using List.reverseRecOn with
  | nil => rfl
  | append_singleton steps s ih =>
      rw [setAll_concat, lastValue?_concat, ← ih]
      exact SortedMap.get?_insert _ _ _ _

theorem hasParameter_setAll_bare (name : String) (steps : List (String × V)) (key : String) :
    ((bare name).setAll steps).hasParameter key = decide (key ∈ steps.map (·.1)) := by
  rw [hasParameter, SortedMap.contains, get?_setAll_bare, Bool.eq_iff_iff, decide_eq_true_iff]
  exact isSome_lastValue?_iff

theorem getElem?_answers (c : Call V) (steps : List (String × V)) (i : Nat) :
    (c.answers steps)[i]? = steps[i]?.map fun s => (c.setAll (steps.take i)).hasParameter s.1 := by
  induction steps generalizing c i with
  | nil => rfl
  | cons s rest ih =>
      rw [answers]
      cases i with
      | zero => rfl
      | succ i => exact ih (c.setParameter s.1 s.2) i

end Call

/-- A list in the order of bytes that holds each key that occurs in the settings once,
with the value of its last occurrence. -/
structure Listing (steps l : List (String × V)) : Prop where
  ascending : l.Pairwise fun a b => Text.utf8 a.1 < Text.utf8 b.1
  mem_iff : ∀ key value, (key, value) ∈ l ↔ lastValue? steps key = some value

namespace Call

theorem listing_setAll_bare (name : String) (steps : List (String × V)) :
    Listing steps ((bare name).setAll steps).parameters.entries where
  ascending := ((bare name).setAll steps).parameters.ascending.imp Text.utf8_lt_utf8
  mem_iff key value := by rw [← SortedMap.get?_eq_some_iff, get?_setAll_bare]

theorem setAll_bare_congr (name : String) {steps steps' : List (String × V)}
    (h : ∀ key, lastValue? steps key = lastValue? steps' key) :
    (bare name).setAll steps = (bare name).setAll steps' := by
  have parameters : ((bare name).setAll steps).parameters =
      ((bare name).setAll steps').parameters := by
    apply SortedMap.ext_get?
    intro key
    rw [get?_setAll_bare, get?_setAll_bare, h]
  rw [setAll_bare, setAll_bare name steps', parameters]

/-- The arguments of a call are a listing of the settings that it has gone through. A
setting answers that it replaces a value exactly if its key was set before. Settings
with the same last values make the same call. -/
theorem setAll_listing (name : String) (steps : List (String × String)) :
    (∃ l, Listing steps l ∧
      ((bare name).setAll steps).argumentText =
        ", ".intercalate (l.map fun e => e.1 ++ "=" ++ e.2)) ∧
    (∀ i, ((bare name).answers steps)[i]? =
      steps[i]?.map fun s => decide (s.1 ∈ (steps.take i).map (·.1))) ∧
    ∀ steps', (∀ key, lastValue? steps key = lastValue? steps' key) →
      (bare name).setAll steps = (bare name).setAll steps' := by
  refine ⟨⟨_, listing_setAll_bare name steps, rfl⟩, ?_, ?_⟩
  · intro i
    rw [getElem?_answers]
    congr 1
    funext s
    exact hasParameter_setAll_bare name _ s.1
  · intro steps' same
    exact setAll_bare_congr name same

/-- Settings with a key that is set again, and with keys beyond ASCII. -/
def knobSteps : List (String × String) :=
  [("r", "1"), ("😀", "3"), ("r", "2"), ("\uFB00", "4")]

/-- Settings with the same last values in another order. -/
def knobSteps' : List (String × String) := [("\uFB00", "4"), ("😀", "3"), ("r", "2")]

theorem knob_listing :
    (∀ key, lastValue? knobSteps key = lastValue? knobSteps' key) ∧
    (bare "sphere").setAll knobSteps = (bare "sphere").setAll knobSteps' ∧
    ((bare "sphere").setAll knobSteps).argumentText = "r=2, \uFB00=4, 😀=3" ∧
    (bare "sphere").answers knobSteps = [false, false, true, false] := by
  have same : ∀ key, lastValue? knobSteps key = lastValue? knobSteps' key := by
    intro key
    by_cases r : key = "r"
    · subst r
      decide
    · by_cases ligature : key = "\uFB00"
      · subst ligature
        decide
      · simp [knobSteps, knobSteps', lastValue?, List.filter_cons, Ne.symm r, Ne.symm ligature]
  obtain ⟨-, -, congr⟩ := setAll_listing "sphere" knobSteps
  exact ⟨same, congr knobSteps' same, by decide +kernel, by decide +kernel⟩

end Call

end Scad
