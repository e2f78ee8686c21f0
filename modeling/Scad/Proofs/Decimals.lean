import Scad.Proofs.Bits
import Scad.Proofs.Numerals

/-!
# Reading numbers

A number is read as a decimal, rounded to the nearest number of 64 bits, or as the quotient
of two decimals. The sign is read apart from the digits, so that a zero keeps it. Positional
notation keeps the value of the digits, though not their exponent, and a written number
lies in the rounding interval: it is read back (`number?_numeral`).
-/

namespace Scad.Decimal

/-! ## Readers -/

def natural? (s : List Char) : Option Nat :=
  if s ≠ [] ∧ s.all isDigit = true then some (Nat.ofDigitChars 10 s 0) else none

/-- What stands before the first such mark, and behind it where there is one. -/
def cutAt (mark : Char) : List Char → List Char × Option (List Char)
  | [] => ([], none)
  | c :: s =>
      if c = mark then ([], some s)
      else (c :: (cutAt mark s).1, (cutAt mark s).2)

/-- Digits, and more digits behind a point if there is one. -/
def decimal? (s : List Char) : Option Digits :=
  match cutAt '.' s with
  | (whole, none) => (natural? whole).map fun n => ⟨n, 0⟩
  | (whole, some places) =>
      if whole = [] ∨ places = [] then none
      else (natural? (whole ++ places)).map fun n => ⟨n, -places.length⟩

def signText (negative : Bool) : List Char := if negative then ['-'] else []

/-- What is read behind a minus sign or without one. -/
def signed? {α : Type} (read : List Char → Option α) : List Char → Option (Bool × α)
  | '-' :: s => (read s).map fun x => (true, x)
  | s => (read s).map fun x => (false, x)

def int? (s : List Char) : Option Int :=
  (signed? natural? s).map fun (negative, n) => if negative then -n else n

def float? (s : List Char) : Option Float :=
  (signed? decimal? s).map fun (negative, d) => signed negative (nearest d.value)

/-- A decimal, or a quotient of two as floating-point division has it. -/
def number? (s : List Char) : Option Float :=
  match cutAt '/' s with
  | (dividend, none) => float? dividend
  | (dividend, some divisor) => do return (← float? dividend) / (← float? divisor)

/-! ## Digits -/

theorem not_mem_of_isDigit {s : List Char} (digits : ∀ c ∈ s, isDigit c = true) {mark : Char}
    (other : isDigit mark = false) : mark ∉ s := fun hc => by
  rw [digits mark hc] at other
  contradiction

theorem cutAt_of_not_mem {mark : Char} {s : List Char} (h : mark ∉ s) :
    cutAt mark s = (s, none) := by
  induction s with
  | nil => rfl
  | cons c s ih =>
      obtain ⟨first, others⟩ := not_or.1 (mt List.mem_cons.2 h)
      rw [cutAt, if_neg (Ne.symm first), ih others]

theorem cutAt_append {mark : Char} {s : List Char} (h : mark ∉ s) (t : List Char) :
    cutAt mark (s ++ mark :: t) = (s, some t) := by
  induction s with
  | nil => exact if_pos rfl
  | cons c s ih =>
      obtain ⟨first, others⟩ := not_or.1 (mt List.mem_cons.2 h)
      rw [List.cons_append, cutAt, if_neg (Ne.symm first), ih others]

theorem signed?_signText {α : Type} (read : List Char → Option α) (negative : Bool) {s : List Char}
    (unsigned : s.head? ≠ some '-') :
    signed? read (signText negative ++ s) = (read s).map fun x => (negative, x) := by
  cases negative with
  | true => rfl
  | false =>
      show signed? read s = _
      unfold signed?
      split
      · exact absurd rfl unsigned
      · rfl

theorem natural?_of_digits {s : List Char} (nonempty : s ≠ [])
    (digits : ∀ c ∈ s, isDigit c = true) : natural? s = some (Nat.ofDigitChars 10 s 0) :=
  if_pos ⟨nonempty, List.all_eq_true.2 digits⟩

theorem isDigit_of_natural? {s : List Char} {n : Nat} (h : natural? s = some n) :
    ∀ c ∈ s, isDigit c = true := by
  unfold natural? at h
  split at h
  · next digits => exact List.all_eq_true.1 digits.2
  · contradiction

theorem natural?_toDigits (n : Nat) : natural? (Nat.toDigits 10 n) = some n := by
  rw [natural?_of_digits Nat.toDigits_ne_nil fun _ => isDigit_of_mem_toDigits,
    Nat.ofDigitChars_ten_toDigits]

theorem head?_toDigits (n : Nat) : (Nat.toDigits 10 n).head? ≠ some '-' := fun head =>
  not_mem_of_isDigit (fun _ => isDigit_of_mem_toDigits) (by decide) (List.mem_of_mem_head? head)

theorem int?_toString (n : Int) : int? (toString n).toList = some n := by
  have text : (toString n).toList = signText (decide (n < 0)) ++ Nat.toDigits 10 n.natAbs :=
    toList_toString n
  rw [int?, text, signed?_signText natural? _ (head?_toDigits _), natural?_toDigits]
  show some (if decide (n < 0) = true then -(n.natAbs : Int) else n.natAbs) = some n
  congr 1
  split
  · next negative =>
      rw [decide_eq_true_eq] at negative
      omega
  · next positive =>
      rw [decide_eq_true_eq] at positive
      omega

/-! ## Decimals -/

theorem decimal?_whole {whole : List Char} (nonempty : whole ≠ [])
    (digits : ∀ c ∈ whole, isDigit c = true) :
    decimal? whole = some ⟨Nat.ofDigitChars 10 whole 0, 0⟩ := by
  rw [decimal?, cutAt_of_not_mem (not_mem_of_isDigit digits (by decide))]
  simp only
  rw [natural?_of_digits nonempty digits]
  rfl

/-- The digits behind the point are the places. -/
theorem decimal?_places {padded : List Char} {whole : Nat} (before : 0 < whole)
    (behind : whole < padded.length) (digits : ∀ c ∈ padded, isDigit c = true) :
    decimal? (padded.take whole ++ '.' :: padded.drop whole) =
      some ⟨Nat.ofDigitChars 10 padded 0, -(padded.length - whole : Nat)⟩ := by
  have plain : '.' ∉ padded.take whole := fun hc =>
    not_mem_of_isDigit digits (by decide) (List.mem_of_mem_take hc)
  have front : padded.take whole ≠ [] := by
    rw [← List.length_pos_iff, List.length_take]
    omega
  have back : padded.drop whole ≠ [] := by
    rw [← List.length_pos_iff, List.length_drop]
    omega
  have nonempty : padded ≠ [] := List.length_pos_iff.1 (by omega)
  rw [decimal?, cutAt_append plain]
  simp only
  rw [if_neg (not_or.2 ⟨front, back⟩), List.take_append_drop, natural?_of_digits nonempty digits,
    List.length_drop]
  rfl

theorem isDigit_of_mem_zeros {k : Nat} {c : Char} (h : c ∈ List.replicate k '0') :
    isDigit c = true := by
  rw [List.eq_of_mem_replicate h]
  decide

/-- Positional notation has the value of the digits. -/
theorem decimal?_positional (d : Digits) :
    ∃ d', decimal? d.positional.toList = some d' ∧ d'.value = d.value := by
  unfold Digits.positional
  by_cases integral : (-d.exponent).toNat = 0
  · obtain ⟨e, exponent⟩ : ∃ e : Nat, d.exponent = e := ⟨d.exponent.toNat, by omega⟩
    have shift : d.exponent.toNat = e := by omega
    simp only [integral, if_true, String.toList_ofList, shift]
    refine ⟨_, decimal?_whole (by simp [Nat.toDigits_ne_nil]) fun c hc => ?_, ?_⟩
    · exact (List.mem_append.1 hc).elim isDigit_of_mem_toDigits isDigit_of_mem_zeros
    · rw [Nat.ofDigitChars_append, Nat.ofDigitChars_ten_toDigits, Nat.ofDigitChars_replicate_zero,
        Digits.value, Digits.value, exponent, zpow_natCast, zpow_zero]
      push_cast
      ring
  · obtain ⟨e, exponent⟩ : ∃ e : Nat, d.exponent = -e := ⟨(-d.exponent).toNat, by omega⟩
    have places : (-d.exponent).toNat = e := by omega
    rw [places] at integral
    simp only [places, integral, if_false, String.toList_ofList]
    -- The zeros that are filled in leave a digit before the point, and do not count.
    have filled : e < (List.replicate (e + 1 - (Nat.toDigits 10 d.number).length) '0' ++
        Nat.toDigits 10 d.number).length := by
      rw [List.length_append, List.length_replicate]
      omega
    refine ⟨_, decimal?_places (by omega) (by omega) fun c hc => ?_, ?_⟩
    · exact (List.mem_append.1 hc).elim isDigit_of_mem_zeros isDigit_of_mem_toDigits
    · rw [Nat.sub_sub_self filled.le, Nat.ofDigitChars_append, Nat.ofDigitChars_replicate_zero,
        Nat.mul_zero, Nat.ofDigitChars_ten_toDigits, Digits.value, Digits.value, exponent]

theorem cutAt_eq (mark : Char) (s : List Char) :
    s = (cutAt mark s).1 ++ ((cutAt mark s).2.map (mark :: ·)).getD [] := by
  induction s with
  | nil => rfl
  | cons c s ih =>
      rw [cutAt]
      split
      · next h => rw [h]; rfl
      · next => exact congrArg (c :: ·) ih

/-- Neither a sign nor a division is part of a decimal. -/
theorem mem_of_decimal? {s : List Char} {d : Digits} (h : decimal? s = some d) {c : Char}
    (hc : c ∈ s) : c = '.' ∨ isDigit c = true := by
  have parts := cutAt_eq '.' s
  unfold decimal? at h
  split at h
  · next whole cut =>
      obtain ⟨n, read, -⟩ := Option.map_eq_some_iff.1 h
      rw [cut] at parts
      rw [parts, Option.map_none, Option.getD_none, List.append_nil] at hc
      exact .inr (isDigit_of_natural? read c hc)
  · next whole places cut =>
      split at h
      · contradiction
      · obtain ⟨n, read, -⟩ := Option.map_eq_some_iff.1 h
        rw [cut] at parts
        rw [parts, Option.map_some, Option.getD_some, List.mem_append, List.mem_cons] at hc
        have digits := isDigit_of_natural? read
        rcases hc with hc | rfl | hc
        · exact .inr (digits c (List.mem_append_left _ hc))
        · exact .inl rfl
        · exact .inr (digits c (List.mem_append_right _ hc))

/-- A decimal is rounded with its sign. -/
theorem number?_decimal {s : List Char} {d : Digits} (h : decimal? s = some d) (negative : Bool) :
    number? (signText negative ++ s) = some (signed negative (nearest d.value)) := by
  have unsigned : s.head? ≠ some '-' := fun head =>
    absurd (mem_of_decimal? h (List.mem_of_mem_head? head)) (by decide)
  have undivided : '/' ∉ signText negative ++ s := fun slash => by
    rcases List.mem_append.1 slash with sign | slash
    · cases negative <;> simp [signText] at sign
    · exact absurd (mem_of_decimal? h slash) (by decide)
  rw [number?, cutAt_of_not_mem undivided]
  simp only
  rw [float?, signed?_signText decimal? negative unsigned, h]
  rfl

/-! ## Numerals -/

theorem nearest_zero : nearest 0 = 0 :=
  nearest_eq trivial fun reached => absurd reached (by decide +kernel)

/-- The text of a finite number is a decimal that is rounded to the number. -/
theorem decimal?_text {n : Nat} (finite : n < outOfRange) :
    ∃ d, decimal? (Magnitude.ofRank n).text.toList = some d ∧ nearest d.value = n := by
  unfold Magnitude.text
  rcases Nat.eq_zero_or_pos n with rfl | positive
  · refine ⟨⟨0, 0⟩, rfl, ?_⟩
    rw [Digits.value, Nat.cast_zero, zero_mul, nearest_zero]
  · rw [if_neg (Magnitude.ofRank_mantissa_pos positive).ne']
    obtain ⟨d, read, value⟩ := decimal?_positional (Magnitude.ofRank n).span.shortest
    exact ⟨d, read, by rw [value, nearest_shortest positive finite]⟩

theorem number?_numeral (x : Float) : number? (Numeral.numeral x).toList = some x := by
  show number? (Binary.ofFloat x).write.toList = some x
  rcases exists_signed x with rfl | ⟨negative, n, bound, rfl⟩
  · rw [ofFloat_undefined]
    decide +kernel
  · rw [ofFloat_signed bound]
    split
    · next finite =>
        obtain ⟨d, read, rounded⟩ := decimal?_text finite
        have sign : (if negative then "-" else "").toList = signText negative := by
          cases negative <;> rfl
        rw [Binary.write, String.toList_append, sign, number?_decimal read, rounded]
    · next infinite =>
        obtain rfl : n = outOfRange := by omega
        cases negative <;> decide +kernel

end Scad.Decimal
