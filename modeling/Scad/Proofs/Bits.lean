import Mathlib
import Scad.Literal
import Scad.Proofs.Nearest

/-!
# The bits of numbers

A floating-point number is given back by its bits, of which the undefined number has only
one choice (`pack_unpack`). Every other number is a sign and a rank: taken apart, it is the
number of its rank, or infinite when there is no number of that rank (`ofFloat_signed`). So
it can be said of floating-point numbers themselves which of them is the nearest to a
rational (`rounded_nearest`).
-/

namespace Scad.Decimal

open Float.Model (Format)
open Float.Model.UnpackedFloat

/-! ## Taking apart and putting together -/

section

variable (b : BitVec Format.binary64.numBits)

theorem toNat_unpackMantissa : (unpackMantissa b).toNat = b.toNat % 2 ^ 52 := by
  simp [unpackMantissa]

theorem toNat_unpackExponent : (unpackExponent b).toNat = b.toNat / 2 ^ 52 % 2 ^ 11 := by
  simp [unpackExponent, Nat.shiftRight_eq_div_pow]

theorem toNat_unpackSign : (unpackSign b).toNat = b.toNat / 2 ^ 63 := by
  have bound : b.toNat < 2 ^ 64 := b.isLt
  simp [unpackSign, Nat.shiftRight_eq_div_pow]
  omega

theorem toBitVec_ofBitVec (v : BitVec 1) : (Sign.ofBitVec v).toBitVec = v := by
  revert v
  decide

theorem toNat_packComponents (sign : Sign) (exponent : BitVec 11) (mantissa : BitVec 52) :
    (packComponents Format.binary64 sign exponent mantissa).toNat =
      sign.toBitVec.toNat * 2 ^ 63 + exponent.toNat * 2 ^ 52 + mantissa.toNat := by
  unfold packComponents
  rw [BitVec.toNat_append, ← Nat.shiftLeft_add_eq_or_of_lt mantissa.isLt, BitVec.toNat_append,
    ← Nat.shiftLeft_add_eq_or_of_lt exponent.isLt, Nat.shiftLeft_eq, Nat.shiftLeft_eq]
  omega

theorem packComponents_unpack :
    packComponents Format.binary64 (Sign.ofBitVec (unpackSign b)) (unpackExponent b)
      (unpackMantissa b) = b := by
  apply BitVec.eq_of_toNat_eq
  rw [toNat_packComponents, toBitVec_ofBitVec, toNat_unpackMantissa, toNat_unpackExponent,
    toNat_unpackSign]
  omega

theorem mantissaBits_eq : Format.binary64.mantissaBits = 53 := rfl

/-- A mantissa has all its bits exactly if it has the leading one. -/
theorem log2_mantissa {m : Nat} (bound : m < 2 ^ 53) :
    m.log2 + 1 = Format.binary64.mantissaBits ↔ 2 ^ 52 ≤ m := by
  rw [mantissaBits_eq]
  rcases Nat.eq_zero_or_pos m with rfl | positive
  · decide
  · rw [← Nat.le_log2 positive.ne']
    have top : m.log2 < 53 := (Nat.log2_lt positive.ne').2 bound
    omega

/-- Only bits of an undefined number other than the one in use are lost. -/
theorem pack_unpack (valid : Format.binary64.Valid b) :
    pack Format.binary64 (Float.Model.UnpackedFloat.unpack Format.binary64 b) = b := by
  have whole := packComponents_unpack b
  have bias : (Format.binary64.exponentBias : Int) = 1023 := rfl
  have short : (unpackMantissa b).toNat < 2 ^ 52 := (unpackMantissa b).isLt
  unfold Float.Model.UnpackedFloat.unpack
  simp only
  split
  · next last =>
      split
      · next m =>
          rw [last, m] at whole
          exact whole
      · next m => exact (valid.eq_packedNaN last m).symm
  · next notLast =>
      split
      · next first =>
          split
          · next m =>
              rw [first, m] at whole
              exact whole
          · next m =>
              -- The first two exponents share their last place.
              rw [pack]
              simp only [first, bias]
              rw [if_neg (by decide), if_neg, BitVec.ofNat_toNat, BitVec.setWidth_eq]
              · rwa [first] at whole
              · rw [log2_mantissa (by omega)]
                omega
      · next notFirst =>
          have leading : (1#1 ++ unpackMantissa b).toNat = 2 ^ 52 + (unpackMantissa b).toNat := by
            rw [BitVec.toNat_append, ← Nat.shiftLeft_add_eq_or_of_lt short, Nat.shiftLeft_eq]
            rfl
          have inRange : (unpackExponent b).toNat ≠ 2047 := fun top =>
            notLast (BitVec.eq_of_toNat_eq top)
          have bound : (unpackExponent b).toNat < 2048 := (unpackExponent b).isLt
          have biased : (((unpackExponent b).toNat : Int) - (1023 + 52) + 1023 + 52).toNat =
              (unpackExponent b).toNat := by
            omega
          have fraction : BitVec.ofNat 52 (2 ^ 52 + (unpackMantissa b).toNat) =
              unpackMantissa b := by
            apply BitVec.eq_of_toNat_eq
            rw [BitVec.toNat_ofNat, Nat.add_mod_left, Nat.mod_eq_of_lt short]
          rw [pack]
          simp only [bias, leading, Nat.cast_ofNat, biased]
          rw [if_neg (by omega), if_pos ((log2_mantissa (by omega)).2 (by omega)), fraction,
            BitVec.ofNat_toNat, BitVec.setWidth_eq]
          exact whole

theorem exponent_eq_last : unpackExponent b = -1#_ ↔ b.toNat / 2 ^ 52 % 2 ^ 11 = 2047 := by
  rw [← toNat_unpackExponent, ← BitVec.toNat_inj]
  rfl

theorem mantissa_eq_zero : unpackMantissa b = 0#_ ↔ b.toNat % 2 ^ 52 = 0 := by
  rw [← toNat_unpackMantissa, ← BitVec.toNat_inj]
  rfl

end

/-! ## Signs and ranks -/

def bits (negative : Bool) (n : Nat) : UInt64 :=
  UInt64.ofNat ((if negative then 2 ^ 63 else 0) + n)

/-- The number of a sign and a rank, infinite at the rank out of range. -/
def signed (negative : Bool) (n : Nat) : Float := Float.ofBits (bits negative n)

theorem ofBits_toBits (x : Float) : Float.ofBits x.toBits = x := by
  obtain ⟨bits, valid⟩ := x
  show Float.ofModel (Float.Model.pack _) = _
  unfold Float.Model.pack
  congr 2
  exact UInt64.toBitVec_inj.1 (pack_unpack _ valid)

variable {negative : Bool} {n : Nat}

theorem toNat_bits (bound : n ≤ outOfRange) :
    (bits negative n).toNat = (if negative then 2 ^ 63 else 0) + n := by
  rw [outOfRange] at bound
  rw [bits, UInt64.toNat_ofNat', Nat.mod_eq_of_lt]
  split <;> omega

theorem sign_bits (bound : n ≤ outOfRange) :
    ((bits negative n).toNat / 2 ^ 63 % 2 == 1) = negative := by
  rw [toNat_bits bound]
  rw [outOfRange] at bound
  cases negative with
  | false =>
      rw [beq_eq_false_iff_ne, if_neg Bool.false_ne_true]
      omega
  | true =>
      rw [beq_iff_eq, if_pos rfl]
      omega

theorem scale_bits (bound : n ≤ outOfRange) :
    (bits negative n).toNat / 2 ^ 52 % 2 ^ 11 = n / 2 ^ 52 := by
  rw [toNat_bits bound]
  rw [outOfRange] at bound
  split <;> omega

theorem fraction_bits (bound : n ≤ outOfRange) :
    (bits negative n).toNat % 2 ^ 52 = n % 2 ^ 52 := by
  rw [toNat_bits bound]
  split <;> omega

theorem toBits_signed (bound : n ≤ outOfRange) : (signed negative n).toBits = bits negative n := by
  refine UInt64.toBitVec_inj.1 (pack_unpack _ ⟨fun last nonzero => absurd ?_ nonzero⟩)
  rw [exponent_eq_last, UInt64.toNat_toBitVec, scale_bits bound] at last
  rw [mantissa_eq_zero, UInt64.toNat_toBitVec, fraction_bits bound]
  rw [outOfRange] at bound
  omega

theorem ofFloat_signed (bound : n ≤ outOfRange) :
    Binary.ofFloat (signed negative n) =
      if n < outOfRange then .finite negative (Magnitude.ofRank n) else .infinite negative := by
  rw [Binary.ofFloat, toBits_signed bound]
  simp only [Binary.ofBits, Magnitude.ofRank, Nat.pow_eq, sign_bits bound, scale_bits bound,
    fraction_bits bound]
  rw [outOfRange] at *
  split
  · next last => rw [if_pos (by omega), if_neg (by omega)]
  · next notLast =>
      rw [if_pos (by omega : n < 2047 * 2 ^ 52)]
      split <;> rfl

theorem undefined_eq : (0 / 0 : Float) = Float.ofBits 0x7ff8000000000000 := by
  decide +kernel

/-- Every number but the undefined one has a sign and a rank. -/
theorem exists_signed (x : Float) :
    x = 0 / 0 ∨ ∃ negative n, n ≤ outOfRange ∧ x = signed negative n := by
  have size : x.toBits.toNat < 2 ^ 64 := x.toBits.toBitVec.isLt
  by_cases bound : x.toBits.toNat % 2 ^ 63 ≤ outOfRange
  · refine .inr ⟨2 ^ 63 ≤ x.toBits.toNat, _, bound, ?_⟩
    have same : x.toBits = bits (2 ^ 63 ≤ x.toBits.toNat) (x.toBits.toNat % 2 ^ 63) := by
      apply UInt64.toNat_inj.1
      rw [toNat_bits bound]
      split
      · next large =>
          rw [decide_eq_true_eq] at large
          omega
      · next small =>
          rw [decide_eq_true_eq] at small
          omega
    rw [signed, ← same, ofBits_toBits]
  · left
    rw [outOfRange] at bound
    rw [undefined_eq, ← ofBits_toBits x]
    congr 1
    apply UInt64.toBitVec_inj.1
    refine x.toModel.valid.eq_packedNaN ?_ ?_
    · rw [exponent_eq_last]
      show x.toBits.toNat / 2 ^ 52 % 2 ^ 11 = 2047
      omega
    · rw [Ne, mantissa_eq_zero]
      show x.toBits.toNat % 2 ^ 52 ≠ 0
      omega

theorem ofFloat_undefined : Binary.ofFloat (0 / 0) = .nan := by
  decide +kernel

theorem exists_rank_of_finite {x : Float} {m : Magnitude}
    (finite : Binary.ofFloat x = .finite negative m) :
    ∃ n < outOfRange, x = signed negative n ∧ m = Magnitude.ofRank n := by
  rcases exists_signed x with rfl | ⟨negative, n, bound, rfl⟩
  · rw [ofFloat_undefined] at finite
    contradiction
  · rw [ofFloat_signed bound] at finite
    split at finite
    · next inRange =>
        obtain ⟨rfl, rfl⟩ := Binary.finite.inj finite
        exact ⟨n, inRange, rfl, rfl⟩
    · contradiction

/-! ## Rounding -/

/-- What the rational is rounded to with the sign: the nearest number, and on a tie the one
with an even mantissa, but infinity from the least number on that is rounded to it. -/
structure Rounded (negative : Bool) (q : ℚ) (x : Float) : Prop where
  nearest (below : q < Digits.overflow) :
    ∃ m, Binary.ofFloat x = .finite negative m ∧
      ∀ y sign m', Binary.ofFloat y = .finite sign m' →
        |q - m.value| ≤ |q - m'.value| ∧
          (|q - m.value| = |q - m'.value| → m' = m ∨ m.mantissa % 2 = 0)
  infinite (beyond : Digits.overflow ≤ q) : Binary.ofFloat x = .infinite negative

theorem halfway_overflow : halfway (outOfRange - 1) = Digits.overflow := by
  have greatest : Magnitude.ofRank (outOfRange - 1) = ⟨2 ^ 53 - 1, 971, false⟩ := by decide +kernel
  have units : Digits.overflow = (4 * (2 ^ 53 - 1) + 2) * 2 ^ 969 := by decide +kernel
  have place : (2 : ℚ) ^ ((971 : Int) - 2) = (2 ^ 969 : Nat) := by
    rw [show (971 : Int) - 2 = (969 : Nat) from rfl, zpow_natCast, Nat.cast_pow, Nat.cast_ofNat]
  rw [halfway_eq, greatest, units, place, Nat.cast_mul]
  norm_num only

theorem reaches_outOfRange {q : ℚ} : Reaches q outOfRange ↔ Digits.overflow ≤ q := by
  obtain ⟨top, last⟩ : ∃ top, outOfRange = top + 1 := ⟨outOfRange - 1, by decide +kernel⟩
  have odd : top % 2 = 1 := by
    rw [outOfRange] at last
    omega
  rw [← halfway_overflow, last, Reaches, Nat.add_sub_cancel, le_iff_lt_or_eq]
  exact ⟨fun reached => reached.2.imp_right And.left,
    fun beyond => ⟨by omega, beyond.imp_right fun tie => ⟨tie, odd⟩⟩⟩

theorem nearest_lt_iff {q : ℚ} : nearest q < outOfRange ↔ q < Digits.overflow := by
  obtain ⟨reached, unreached⟩ := nearest_spec q
  rw [← not_le, ← not_le, ← reaches_outOfRange, not_iff_not]
  exact ⟨reached.mono, fun beyond => Nat.le_of_not_lt fun finite => unreached (beyond.mono finite)⟩

theorem rounded_nearest (negative : Bool) (q : ℚ) :
    Rounded negative q (signed negative (nearest q)) where
  nearest below := by
    have finite := nearest_lt_iff.2 below
    refine ⟨Magnitude.ofRank (nearest q), ?_, fun y sign m' other => ?_⟩
    · rw [ofFloat_signed finite.le, if_pos finite]
    · obtain ⟨n, -, -, rfl⟩ := exists_rank_of_finite other
      obtain ⟨near, tie⟩ := nearest_le_dist finite n
      refine ⟨near, fun same => (tie same).imp (congrArg _) fun even => ?_⟩
      rwa [Magnitude.ofRank_mantissa_mod]
  infinite beyond := by
    rw [ofFloat_signed (nearest_le q),
      if_neg fun finite => not_lt.2 beyond (nearest_lt_iff.1 finite)]

end Scad.Decimal
