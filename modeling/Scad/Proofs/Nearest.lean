import Mathlib.Algebra.Order.Field.Rat
import Mathlib.Order.Monotone.Basic
import Mathlib.Tactic.FieldSimp
import Mathlib.Tactic.Linarith
import Mathlib.Tactic.LinearCombination
import Mathlib.Tactic.Ring
import Scad.Decimal.Shortest

/-!
# The nearest number

The numbers of 64 bits that are not negative stand in the order of their bits, so that
the bits of a number are its rank. A rational number is rounded to the rank whose two
halfway points it lies between, and on a halfway point to the even one of the two ranks.
The numbers end at `outOfRange`, the rank of infinity, which is rounded to as if the power
of two that would stand there were a number.

The interval in which shortest decimals are looked for has just these ends, so that the
decimal that is found is rounded back to the number (`nearest_shortest`).
-/

namespace Scad.Decimal

def Magnitude.value (m : Magnitude) : ℚ := m.mantissa * 2 ^ m.exponent

def Digits.value (d : Digits) : ℚ := d.number * 10 ^ d.exponent

/-! ## The numbers in order -/

/-- The number above so many others, of those that are not negative. -/
def Magnitude.ofRank (n : Nat) : Magnitude :=
  let scale : Nat := n / 2 ^ 52
  let fraction : Nat := n % 2 ^ 52
  if scale = 0 then ⟨fraction, -1074, false⟩
  else ⟨2 ^ 52 + fraction, (scale : Int) - 1075, fraction == 0 && scale > 1⟩

/-- The rank behind that of the greatest finite number. -/
def outOfRange : Nat := 2047 * 2 ^ 52

namespace Magnitude

theorem ofRank_mantissa_mod (n : Nat) : (ofRank n).mantissa % 2 = n % 2 := by
  unfold ofRank
  simp only
  split
  · show n % 2 ^ 52 % 2 = n % 2
    omega
  · show (2 ^ 52 + n % 2 ^ 52) % 2 = n % 2
    omega

theorem ofRank_mantissa_pos {n : Nat} (h : 0 < n) : 0 < (ofRank n).mantissa := by
  unfold ofRank
  simp only
  split
  · show 0 < n % 2 ^ 52
    omega
  · show 0 < 2 ^ 52 + n % 2 ^ 52
    omega

/-- From one number to the next either the mantissa grows by one, or it starts again
at its least value with twice the last place. -/
theorem ofRank_succ (n : Nat) :
    (ofRank (n + 1)).exponent = (ofRank n).exponent ∧
        (ofRank (n + 1)).narrowBelow = false ∧
        (ofRank (n + 1)).mantissa = (ofRank n).mantissa + 1 ∨
      (ofRank (n + 1)).exponent = (ofRank n).exponent + 1 ∧
        (ofRank (n + 1)).narrowBelow = true ∧
        2 * (ofRank (n + 1)).mantissa = (ofRank n).mantissa + 1 := by
  unfold ofRank
  by_cases small : (n + 1) / 2 ^ 52 = 0
  · have before : n / 2 ^ 52 = 0 := by omega
    simp only [small, before, if_true]
    exact .inl ⟨trivial, trivial, by omega⟩
  · simp only [small, if_false]
    by_cases before : n / 2 ^ 52 = 0
    · have first : (n + 1) / 2 ^ 52 = 1 := by omega
      simp only [before, first, if_true]
      exact .inl ⟨by decide, by simp, by omega⟩
    · simp only [before, if_false, Bool.and_eq_false_iff, Bool.and_eq_true, beq_iff_eq,
        beq_eq_false_iff_ne, decide_eq_true_eq]
      by_cases carried : (n + 1) % 2 ^ 52 = 0
      · exact .inr ⟨by omega, ⟨carried, by omega⟩, by omega⟩
      · exact .inl ⟨by omega, .inl carried, by omega⟩

theorem value_ofRank_succ (n : Nat) :
    (ofRank (n + 1)).value = (ofRank n).value + 2 ^ (ofRank n).exponent := by
  unfold value
  rcases ofRank_succ n with ⟨exponent, -, mantissa⟩ | ⟨exponent, -, mantissa⟩
  · rw [exponent, mantissa]
    push_cast
    ring
  · have doubled : (2 : ℚ) * (ofRank (n + 1)).mantissa = (ofRank n).mantissa + 1 := by
      exact_mod_cast mantissa
    calc ((ofRank (n + 1)).mantissa : ℚ) * 2 ^ (ofRank (n + 1)).exponent
        = 2 * (ofRank (n + 1)).mantissa * 2 ^ (ofRank n).exponent := by
          rw [exponent, zpow_add_one₀ two_ne_zero]
          ring
      _ = _ := by
          rw [doubled]
          ring

theorem strictMono_value_ofRank : StrictMono fun n => (ofRank n).value :=
  strictMono_nat_of_lt_succ fun n => by
    rw [value_ofRank_succ]
    exact lt_add_of_pos_right _ (zpow_pos two_pos _)

end Magnitude

/-! ## Halfway points -/

/-- Halfway from the number of rank `n` to the next. -/
def halfway (n : Nat) : ℚ := ((Magnitude.ofRank n).value + (Magnitude.ofRank (n + 1)).value) / 2

theorem strictMono_halfway : StrictMono halfway :=
  strictMono_nat_of_lt_succ fun n => by
    have here := Magnitude.strictMono_value_ofRank (Nat.lt_add_one n)
    have next := Magnitude.strictMono_value_ofRank (Nat.lt_add_one (n + 1))
    simp only [halfway] at here next ⊢
    linarith

/-- The point halfway up, in quarters of the last place. -/
theorem halfway_eq (n : Nat) :
    halfway n =
      (4 * (Magnitude.ofRank n).mantissa + 2) * 2 ^ ((Magnitude.ofRank n).exponent - 2) := by
  rw [halfway, Magnitude.value_ofRank_succ, Magnitude.value, zpow_sub₀ two_ne_zero]
  field_simp
  ring

/-- The point halfway down, in quarters of the last place. -/
theorem halfway_below (n : Nat) :
    halfway n = (4 * (Magnitude.ofRank (n + 1)).mantissa -
        if (Magnitude.ofRank (n + 1)).narrowBelow then 1 else 2) *
      2 ^ ((Magnitude.ofRank (n + 1)).exponent - 2) := by
  rw [halfway_eq]
  rcases Magnitude.ofRank_succ n with ⟨exponent, narrow, mantissa⟩ | ⟨exponent, narrow, mantissa⟩
  · rw [exponent, narrow, mantissa, if_neg Bool.false_ne_true]
    push_cast
    ring
  · have doubled : (2 : ℚ) * (Magnitude.ofRank (n + 1)).mantissa =
        (Magnitude.ofRank n).mantissa + 1 := by
      exact_mod_cast mantissa
    have scaled : (2 : ℚ) ^ ((Magnitude.ofRank (n + 1)).exponent - 2) =
        2 * 2 ^ ((Magnitude.ofRank n).exponent - 2) := by
      rw [exponent, add_sub_right_comm, zpow_add_one₀ two_ne_zero, mul_comm]
    rw [scaled, narrow, if_pos rfl]
    linear_combination (-4) * 2 ^ ((Magnitude.ofRank n).exponent - 2) * doubled

/-! ## Rounding -/

/-- The rational lies above the point halfway up to that rank, or on it when the rank is even. -/
def Reaches (q : ℚ) : Nat → Prop
  | 0 => True
  | n + 1 => n < outOfRange ∧ (halfway n < q ∨ halfway n = q ∧ n % 2 = 1)

instance (q : ℚ) : DecidablePred (Reaches q)
  | 0 => .isTrue trivial
  | n + 1 =>
      inferInstanceAs (Decidable (n < outOfRange ∧ (halfway n < q ∨ halfway n = q ∧ n % 2 = 1)))

/-- The last number from `n` on to satisfy a property, one bit after the other. -/
def climb (P : Nat → Prop) [DecidablePred P] : Nat → Nat → Nat
  | 0, n => n
  | k + 1, n => if P (n + 2 ^ k) then climb P k (n + 2 ^ k) else climb P k n

/-- The rank to which a rational is rounded. Nothing below zero is told from zero. -/
def nearest (q : ℚ) : Nat := climb (Reaches q) 63 0

theorem climb_spec {P : Nat → Prop} [DecidablePred P] {k n : Nat} (holds : P n)
    (fails : ¬P (n + 2 ^ k)) : P (climb P k n) ∧ ¬P (climb P k n + 1) := by
  induction k generalizing n with
  | zero => exact ⟨holds, fails⟩
  | succ k ih =>
      rw [climb]
      split
      · next higher =>
          apply ih higher
          rwa [Nat.add_assoc, ← Nat.two_mul, ← Nat.pow_succ']
      · next lower => exact ih holds lower

variable {q : ℚ}

theorem Reaches.pred {n : Nat} (h : Reaches q (n + 1)) : Reaches q n := by
  cases n with
  | zero => trivial
  | succ n =>
      have below := strictMono_halfway (Nat.lt_add_one n)
      refine ⟨Nat.lt_of_succ_lt h.1, .inl ?_⟩
      rcases h.2 with above | ⟨tie, -⟩
      · exact below.trans above
      · rwa [tie] at below

theorem Reaches.mono {m n : Nat} (h : Reaches q n) (le : m ≤ n) : Reaches q m := by
  induction le with
  | refl => exact h
  | step _ ih => exact ih h.pred

theorem nearest_spec (q : ℚ) : Reaches q (nearest q) ∧ ¬Reaches q (nearest q + 1) :=
  climb_spec trivial fun h => absurd h.1 (by decide)

theorem nearest_eq {n : Nat} (here : Reaches q n) (above : ¬Reaches q (n + 1)) : nearest q = n := by
  obtain ⟨reached, unreached⟩ := nearest_spec q
  exact le_antisymm (Nat.le_of_not_lt fun lt => above (reached.mono lt))
    (Nat.le_of_not_lt fun lt => unreached (here.mono lt))

theorem nearest_le (q : ℚ) : nearest q ≤ outOfRange := by
  have reached := (nearest_spec q).1
  cases h : nearest q with
  | zero => exact Nat.zero_le _
  | succ n =>
      rw [h] at reached
      exact reached.1

/-- The rational lies between the halfway points of its rank, and on one of them only if the
rank is even. -/
theorem nearest_between (finite : nearest q < outOfRange) :
    (∀ n, nearest q = n + 1 → halfway n ≤ q ∧ (halfway n = q → nearest q % 2 = 0)) ∧
      q ≤ halfway (nearest q) ∧ (q = halfway (nearest q) → nearest q % 2 = 0) := by
  obtain ⟨reached, unreached⟩ := nearest_spec q
  refine ⟨fun n rank => ?_, ?_, fun tie => ?_⟩
  · rw [rank] at reached ⊢
    rcases reached.2 with above | ⟨tie, odd⟩
    · exact ⟨above.le, fun tie => absurd tie above.ne⟩
    · exact ⟨tie.le, fun _ => by omega⟩
  · by_contra above
    exact unreached ⟨finite, .inl (not_le.1 above)⟩
  · by_contra odd
    exact unreached ⟨finite, .inr ⟨tie.symm, by omega⟩⟩

/-- A rank is known by its halfway points. -/
theorem nearest_of_between {n : Nat} (finite : n < outOfRange) (low : halfway n ≤ q)
    (high : q ≤ halfway (n + 1)) (ties : q = halfway n ∨ q = halfway (n + 1) → n % 2 = 1) :
    nearest q = n + 1 := by
  refine nearest_eq ⟨finite, ?_⟩ fun reached => ?_
  · exact low.lt_or_eq.imp_right fun tie => ⟨tie, ties (.inl tie.symm)⟩
  · rcases reached.2 with beyond | ⟨tie, odd⟩
    · exact absurd beyond (not_lt.2 high)
    · have even := ties (.inr tie.symm)
      omega

/-- No number is nearer than the one of the rank, and one as near only if the rank is even. -/
theorem nearest_le_dist (finite : nearest q < outOfRange) (m : Nat) :
    |q - (Magnitude.ofRank (nearest q)).value| ≤ |q - (Magnitude.ofRank m).value| ∧
      (|q - (Magnitude.ofRank (nearest q)).value| = |q - (Magnitude.ofRank m).value| →
        m = nearest q ∨ nearest q % 2 = 0) := by
  obtain ⟨below, above, aboveTie⟩ := nearest_between finite
  have monotone := Magnitude.strictMono_value_ofRank.monotone
  have increasing := Magnitude.strictMono_value_ofRank
  rcases lt_trichotomy m (nearest q) with lt | rfl | gt
  · obtain ⟨n, rank⟩ : ∃ n, nearest q = n + 1 := ⟨nearest q - 1, by omega⟩
    obtain ⟨low, lowTie⟩ := below n rank
    rw [rank] at lt lowTie ⊢
    have far := monotone (Nat.le_of_lt_succ lt)
    have step := increasing (Nat.lt_add_one n)
    simp only [halfway] at far step low lowTie
    have outside : (Magnitude.ofRank m).value ≤ q := by linarith
    rw [abs_of_nonneg (sub_nonneg.2 outside)]
    refine ⟨abs_le.2 ⟨by linarith, by linarith⟩, fun tie => .inr (lowTie ?_)⟩
    rcases abs_cases (q - (Magnitude.ofRank (n + 1)).value) with ⟨size, -⟩ | ⟨size, -⟩ <;>
      linarith
  · exact ⟨le_rfl, fun _ => .inl rfl⟩
  · have far := monotone (Nat.succ_le_of_lt gt)
    have step := increasing (Nat.lt_add_one (nearest q))
    simp only [halfway, Nat.succ_eq_add_one] at far step above aboveTie
    have outside : q ≤ (Magnitude.ofRank m).value := by linarith
    rw [abs_of_nonpos (sub_nonpos.2 outside)]
    refine ⟨abs_le.2 ⟨by linarith, by linarith⟩, fun tie => .inr (aboveTie ?_)⟩
    rcases abs_cases (q - (Magnitude.ofRank (nearest q)).value) with ⟨size, -⟩ | ⟨size, -⟩ <;>
      linarith

/-! ## Shortest decimals -/

namespace Span

/-- A place of the search either has a hit, or leaves the search to the next place. -/
theorem search_step (s : Span) (place : Nat) :
    (∃ n, s.search place = ⟨n, s.exponent + place⟩ ∧ s.Holds (n * 10 ^ place)) ∨
      s.search place =
        match place with
        | 0 => ⟨s.value, s.exponent⟩
        | place + 1 => s.search place := by
  rw [search.eq_def]
  simp only [Nat.pow_eq]
  split
  · next below =>
      left
      split
      · next above =>
          refine ⟨_, rfl, ?_⟩
          unfold nearer
          split
          · exact below
          · exact above
      · exact ⟨_, rfl, below⟩
  · split
    · next above => exact .inl ⟨_, rfl, above⟩
    · exact .inr rfl

/-- Whatever the search answers with, written in units of the span, is a hit. -/
theorem search_holds (s : Span) (value : s.Holds s.value) (place : Nat) :
    ∃ p : Nat, (s.search place).exponent = s.exponent + p ∧
      s.Holds ((s.search place).number * 10 ^ p) := by
  induction place with
  | zero =>
      rcases s.search_step 0 with ⟨n, found, hit⟩ | found
      · exact ⟨0, by rw [found], by rwa [found]⟩
      · exact ⟨0, by simp [found], by simpa [found] using value⟩
  | succ place ih =>
      rcases s.search_step (place + 1) with ⟨n, found, hit⟩ | found
      · exact ⟨place + 1, by rw [found], by rwa [found]⟩
      · rwa [found]

/-- The shortest decimal of a span is one of its hits. -/
theorem shortest_hit (s : Span) (value : s.Holds s.value) :
    ∃ n : Nat, s.Holds n ∧ s.shortest.value = n * 10 ^ s.exponent := by
  obtain ⟨p, exponent, hit⟩ := s.search_holds value (Nat.toDigits 10 s.value).length
  refine ⟨_, hit, ?_⟩
  rw [Digits.value, shortest, exponent, zpow_add₀ (by norm_num), zpow_natCast]
  push_cast
  ring

end Span

/-- A power of two is a power of five over a power of ten, where it is not whole. -/
theorem unit_scaled (k : Int) :
    ((if 0 ≤ k then Nat.pow 2 k.toNat else Nat.pow 5 (-k).toNat : Nat) : ℚ) * 10 ^ min k 0 =
      2 ^ k := by
  by_cases whole : 0 ≤ k
  · obtain ⟨n, rfl⟩ := Int.eq_ofNat_of_zero_le whole
    simp
  · obtain ⟨n, rfl⟩ : ∃ n : Nat, k = -n := ⟨(-k).toNat, by omega⟩
    have tens : (10 : ℚ) ^ n = 2 ^ n * 5 ^ n := by
      rw [← mul_pow]
      norm_num
    rw [if_neg whole, min_eq_left (by omega), zpow_neg, zpow_neg, zpow_natCast, zpow_natCast, tens]
    simp only [Nat.pow_eq, neg_neg, Int.toNat_natCast, Nat.cast_pow, Nat.cast_ofNat]
    field_simp

namespace Magnitude

variable (m : Magnitude)

theorem span_upper :
    (m.span.upper : ℚ) * 10 ^ m.span.exponent = (4 * m.mantissa + 2) * 2 ^ (m.exponent - 2) := by
  rw [← unit_scaled (m.exponent - 2), ← mul_assoc]
  simp only [span]
  push_cast
  rfl

theorem span_lower (positive : 0 < m.mantissa) :
    (m.span.lower : ℚ) * 10 ^ m.span.exponent =
      (4 * m.mantissa - if m.narrowBelow then 1 else 2) * 2 ^ (m.exponent - 2) := by
  have whole : (if m.narrowBelow then 1 else 2) ≤ 4 * m.mantissa := by split <;> omega
  rw [← unit_scaled (m.exponent - 2), ← mul_assoc]
  simp only [span]
  push_cast [Nat.cast_sub whole]
  rfl

theorem span_holds_value (positive : 0 < m.mantissa) : m.span.Holds m.span.value := by
  have unit : 0 < if 0 ≤ m.exponent - 2 then Nat.pow 2 (m.exponent - 2).toNat
      else Nat.pow 5 (-(m.exponent - 2)).toNat := by
    split
    · exact Nat.pow_pos (by decide)
    · exact Nat.pow_pos (by decide)
  have below : m.span.lower < m.span.value :=
    Nat.mul_lt_mul_of_pos_right (by split <;> omega) unit
  have above : m.span.value < m.span.upper := Nat.mul_lt_mul_of_pos_right (by omega) unit
  unfold Span.Holds
  split
  · exact ⟨below.le, above.le⟩
  · exact ⟨below, above⟩

end Magnitude

/-- The shortest decimal of a number is rounded back to it. -/
theorem nearest_shortest {n : Nat} (positive : 0 < n) (finite : n < outOfRange) :
    nearest (Magnitude.ofRank n).span.shortest.value = n := by
  have mantissa := Magnitude.ofRank_mantissa_pos positive
  have parity := Magnitude.ofRank_mantissa_mod n
  obtain ⟨n, rfl⟩ : ∃ k, n = k + 1 := ⟨n - 1, by omega⟩
  have low := (Magnitude.ofRank (n + 1)).span_lower mantissa
  have high := (Magnitude.ofRank (n + 1)).span_upper
  rw [← halfway_below] at low
  rw [← halfway_eq] at high
  have closed : (Magnitude.ofRank (n + 1)).span.closed =
      ((Magnitude.ofRank (n + 1)).mantissa % 2 == 0) := rfl
  obtain ⟨hit, holds, value⟩ := (Magnitude.ofRank (n + 1)).span.shortest_hit
    ((Magnitude.ofRank (n + 1)).span_holds_value mantissa)
  rw [value]
  generalize (Magnitude.ofRank (n + 1)).span = s at *
  have scale : (0 : ℚ) < 10 ^ s.exponent := zpow_pos (by norm_num) _
  unfold Span.Holds at holds
  split at holds
  · next even =>
      rw [closed, beq_iff_eq, parity] at even
      refine nearest_of_between (Nat.lt_of_succ_lt finite) ?_ ?_ fun _ => by omega
      · rw [← low]
        exact mul_le_mul_of_nonneg_right (Nat.cast_le.2 holds.1) scale.le
      · rw [← high]
        exact mul_le_mul_of_nonneg_right (Nat.cast_le.2 holds.2) scale.le
  · have above : halfway n < hit * 10 ^ s.exponent := by
      rw [← low]
      exact mul_lt_mul_of_pos_right (Nat.cast_lt.2 holds.1) scale
    have below : hit * 10 ^ s.exponent < halfway (n + 1) := by
      rw [← high]
      exact mul_lt_mul_of_pos_right (Nat.cast_lt.2 holds.2) scale
    refine nearest_of_between (Nat.lt_of_succ_lt finite) above.le below.le fun tie => ?_
    rcases tie with tie | tie
    · exact absurd tie above.ne'
    · exact absurd tie below.ne

example : nearest (Digits.value ⟨1, -1⟩) = 0x3fb999999999999a := by decide +kernel

end Scad.Decimal
