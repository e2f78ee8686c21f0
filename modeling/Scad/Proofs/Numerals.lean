import Mathlib.Data.List.TakeDrop
import Scad.Literal

/-!
# The shape of numbers

However a number is written, its text is a decimal: a sign if it is negative, digits,
and a point with more digits where there are places. What has no decimal is one of
three divisions. Floating-point numbers are written in this way
(`isNumeral_float`), whichever of the decimals that read back is taken.
-/

namespace Scad

open Decimal (isDigit)

variable {K : Type}

/-! ## Decimals -/

def IsDecimal (s : List Char) : Prop :=
  ∃ (negative : Bool) (whole places : List Char),
    whole ≠ [] ∧ (∀ c ∈ whole ++ places, isDigit c = true) ∧
      s = (if negative then ['-'] else []) ++ whole ++
        (if places = [] then [] else '.' :: places)

/-- A decimal, or the division that stands for a number without one. -/
def IsNumeral (s : String) : Prop := s ∈ ["0/0", "1/0", "-1/0"] ∨ IsDecimal s.toList

theorem IsDecimal.mem {s : List Char} (h : IsDecimal s) {c : Char} (hc : c ∈ s) :
    c = '-' ∨ c = '.' ∨ isDigit c = true := by
  obtain ⟨negative, whole, places, -, digits, rfl⟩ := h
  rw [List.mem_append, List.mem_append] at hc
  rcases hc with (hc | hc) | hc
  · split at hc
    · exact .inl (List.mem_singleton.1 hc)
    · contradiction
  · exact .inr (.inr (digits c (List.mem_append_left _ hc)))
  · split at hc
    · contradiction
    · rcases List.mem_cons.1 hc with rfl | hc
      · exact .inr (.inl rfl)
      · exact .inr (.inr (digits c (List.mem_append_right _ hc)))

/-- Nothing but digits and the three signs of decimals and divisions stands in a numeral. -/
theorem IsNumeral.mem {s : String} (h : IsNumeral s) {c : Char} (hc : c ∈ s.toList) :
    c = '-' ∨ c = '.' ∨ c = '/' ∨ isDigit c = true := by
  rcases h with h | h
  · simp only [List.mem_cons, List.not_mem_nil, or_false] at h
    have all : s.toList.all (fun c => c == '-' || c == '/' || isDigit c) = true := by
      rcases h with rfl | rfl | rfl <;> rfl
    have sign := List.all_eq_true.1 all c hc
    simp only [Bool.or_eq_true, beq_iff_eq] at sign
    rcases sign with (h | h) | h
    · exact .inl h
    · exact .inr (.inr (.inl h))
    · exact .inr (.inr (.inr h))
  · rcases h.mem hc with h | h | h
    · exact .inl h
    · exact .inr (.inl h)
    · exact .inr (.inr (.inr h))

/-! ## Digits -/

theorem isDigit_of_mem_toDigits {n : Nat} {c : Char} (h : c ∈ Nat.toDigits 10 n) :
    isDigit c = true := by
  have digit := Nat.isDigit_of_mem_toDigits (by decide) (by decide) h
  simpa [isDigit, Char.isDigit, Char.le_def] using digit

theorem isDecimal_of_digits (negative : Bool) {digits : List Char} (nonempty : digits ≠ [])
    (all : ∀ c ∈ digits, isDigit c = true) :
    IsDecimal ((if negative then ['-'] else []) ++ digits) := by
  refine ⟨negative, digits, [], nonempty, ?_, ?_⟩
  · rwa [List.append_nil]
  · rw [if_pos rfl, List.append_nil]

theorem toList_toString (n : Int) : (toString n).toList =
    (if decide (n < 0) then ['-'] else []) ++ Nat.toDigits 10 n.natAbs := by
  cases n with
  | ofNat k => exact String.toList_ofList
  | negSucc k =>
      show ("-" ++ String.ofList (Nat.toDigits 10 (k + 1))).toList = _
      simp

theorem isDecimal_int (n : Int) : IsDecimal (toString n).toList := by
  rw [toList_toString]
  exact isDecimal_of_digits _ Nat.toDigits_ne_nil fun _ => isDigit_of_mem_toDigits

/-- Digits with a point among them, neither before the first nor behind the last. -/
theorem isDecimal_of_places (negative : Bool) {digits : List Char} {whole : Nat}
    (before : 0 < whole) (behind : whole < digits.length)
    (all : ∀ c ∈ digits, isDigit c = true) :
    IsDecimal ((if negative then ['-'] else []) ++
      (digits.take whole ++ '.' :: digits.drop whole)) := by
  refine ⟨negative, digits.take whole, digits.drop whole, ?_, ?_, ?_⟩
  · intro none
    have size := congrArg List.length none
    rw [List.length_take, List.length_nil] at size
    omega
  · rwa [List.take_append_drop]
  · have places : digits.drop whole ≠ [] := by
      intro none
      have size := congrArg List.length none
      rw [List.length_drop, List.length_nil] at size
      omega
    rw [if_neg places, List.append_assoc]

namespace Decimal

theorem Digits.isDecimal_positional (d : Digits) (negative : Bool) :
    IsDecimal ((if negative then ['-'] else []) ++ d.positional.toList) := by
  have zero : isDigit '0' = true := by decide
  unfold Digits.positional
  by_cases integral : (-d.exponent).toNat = 0
  · simp only [integral, if_true, String.toList_ofList]
    apply isDecimal_of_digits negative
    · simp [Nat.toDigits_ne_nil]
    · intro c hc
      rcases List.mem_append.1 hc with hc | hc
      · exact isDigit_of_mem_toDigits hc
      · rw [List.eq_of_mem_replicate hc]
        exact zero
  · simp only [integral, if_false, String.toList_ofList]
    -- Zeros are filled in until one digit stands in front of the point.
    have nonempty : 0 < (Nat.toDigits 10 d.number).length := Nat.length_toDigits_pos
    apply isDecimal_of_places negative
    · simp only [List.length_append, List.length_replicate]
      omega
    · simp only [List.length_append, List.length_replicate]
      omega
    · intro c hc
      rcases List.mem_append.1 hc with hc | hc
      · rw [List.eq_of_mem_replicate hc]
        exact zero
      · exact isDigit_of_mem_toDigits hc

theorem Magnitude.isDecimal_text (m : Magnitude) (negative : Bool) :
    IsDecimal ((if negative then ['-'] else []) ++ m.text.toList) := by
  unfold Magnitude.text
  by_cases zero : m.mantissa = 0
  · rw [if_pos zero]
    exact isDecimal_of_digits negative (List.cons_ne_nil _ _) (List.forall_mem_singleton.2 rfl)
  · rw [if_neg zero]
    exact m.span.shortest.isDecimal_positional negative

theorem Binary.isNumeral_write (x : Binary) : IsNumeral x.write := by
  cases x with
  | nan => exact .inl (by decide)
  | infinite negative => exact .inl (by cases negative <;> decide)
  | finite negative magnitude =>
      right
      rw [Binary.write, String.toList_append]
      have sign : (if negative then "-" else "").toList = if negative then ['-'] else [] := by
        cases negative <;> rfl
      rw [sign]
      exact magnitude.isDecimal_text negative

end Decimal

theorem isNumeral_float (x : Float) : IsNumeral (Numeral.numeral x) :=
  (Decimal.Binary.ofFloat x).isNumeral_write

end Scad
