/-
Module: LogReplay.Proofs.Number.Whole
Purpose: Which whole number has the double of the number one.
Main exports:
  Double.fittingScale_one, Double.le_magnitudeOfRatio_one, Double.equals_one_ofInt
-/
import LogReplay.Number.Double

/-!
Beyond fifty-three bits a whole number shares its double with others.  The number one
does not: the double of a greater number has a greater exponent, however it is rounded.
-/

namespace LogReplay.Number.Double

theorem le_divideToEven (numerator denominator : Nat) :
    numerator / denominator ≤ divideToEven numerator denominator := by
  unfold divideToEven
  dsimp only
  split
  · exact Nat.le_refl _
  split
  · exact Nat.le_succ _
  · exact Nat.le_add_right _ _

/-- At the scale of its leading bit a number has fifty-three significant bits. -/
theorem le_scaled {n : Nat} (positive : n ≠ 0) :
    1 * 2 ^ ((n.log2 : Int) - 52).toNat * 2 ^ 52 ≤ n * 2 ^ (-((n.log2 : Int) - 52)).toNat := by
  calc 1 * 2 ^ ((n.log2 : Int) - 52).toNat * 2 ^ 52
      = 2 ^ n.log2 * 2 ^ (-((n.log2 : Int) - 52)).toNat := by
        rw [Nat.one_mul, ← Nat.pow_add, ← Nat.pow_add]
        congr 1
        omega
    _ ≤ n * 2 ^ (-((n.log2 : Int) - 52)).toNat :=
        Nat.mul_le_mul_right _ (Nat.log2_self_le positive)

theorem fittingScale_one {n : Nat} (positive : n ≠ 0) :
    fittingScale n 1 = (n.log2 : Int) - 52 := by
  have guess : (n.log2 : Int) - (1 : Nat).log2 - 52 = (n.log2 : Int) - 52 := by
    rw [show (1 : Nat).log2 = 0 from by decide]
    omega
  simp only [fittingScale, guess, Nat.not_lt.mpr (le_scaled positive), if_false]
  omega

/-- The bits of a number are at least those of its leading bit, unless it is beyond all
doubles. -/
theorem le_magnitudeOfRatio_one {n : Nat} (positive : n ≠ 0) :
    min ((n.log2 + 1023) * 2 ^ 52) infiniteMagnitude ≤ magnitudeOfRatio n 1 := by
  have rounded : 2 ^ 52 ≤ divideToEven (n * 2 ^ (-((n.log2 : Int) - 52)).toNat)
      (1 * 2 ^ ((n.log2 : Int) - 52).toNat) := by
    have divisor : 0 < 1 * 2 ^ ((n.log2 : Int) - 52).toNat :=
      Nat.mul_pos Nat.one_pos (Nat.two_pow_pos _)
    refine Nat.le_trans ((Nat.le_div_iff_mul_le divisor).mpr ?_) (le_divideToEven _ _)
    rw [Nat.mul_comm]
    exact le_scaled positive
  have exponent : ((n.log2 : Int) - 52 + 1074).toNat = n.log2 + 1022 := by omega
  rw [magnitudeOfRatio, if_neg positive, fittingScale_one positive]
  dsimp only
  rw [exponent]
  omega

theorem magnitudeOfRatio_le (numerator denominator : Nat) :
    magnitudeOfRatio numerator denominator ≤ infiniteMagnitude := by
  unfold magnitudeOfRatio
  split
  · exact Nat.zero_le _
  · exact Nat.min_le_right _ _

/-- A whole number greater than one has more bits than one. -/
theorem one_lt_magnitudeOfRatio {n : Nat} (greater : 1 < n) :
    one.bits.toNat < magnitudeOfRatio n 1 := by
  have leading : 1 ≤ n.log2 := (Nat.le_log2 (by omega)).mpr (by omega)
  have bits := le_magnitudeOfRatio_one (n := n) (by omega)
  have known : one.bits.toNat = 1023 * 2 ^ 52 := by decide
  simp only [infiniteMagnitude] at bits
  omega

theorem toNat_bits_ofMagnitude (negative : Bool) {magnitude : Nat}
    (bounded : magnitude ≤ infiniteMagnitude) :
    (ofMagnitude negative magnitude).bits.toNat =
      if negative then 2 ^ 63 + magnitude else magnitude := by
  have small : infiniteMagnitude < 2 ^ 63 := by decide
  refine UInt64.toNat_ofNat_of_lt' ?_
  split <;> simp only [UInt64.size] <;> omega

theorem ofInt_eq_one_iff (n : Int) : ofInt n = one ↔ n = 1 := by
  constructor
  · intro same
    have bits := congrArg (fun x : Double => x.bits.toNat) same
    simp only [ofInt, ofRatio, toNat_bits_ofMagnitude _ (magnitudeOfRatio_le _ _)] at bits
    have known : one.bits.toNat = 1023 * 2 ^ 52 := by decide
    split at bits
    · omega
    · next natural =>
      rw [decide_eq_true_eq] at natural
      rcases Nat.lt_or_ge 1 n.natAbs with greater | small
      · have := one_lt_magnitudeOfRatio greater
        omega
      · have nonzero : n ≠ 0 := by
          rintro rfl
          rw [known] at bits
          exact absurd bits (by decide)
        omega
  · rintro rfl
    decide

/-- An integer compares equal to one as a double only if it is one. -/
theorem equals_one_ofInt (n : Int) : (ofInt n).equals one = decide (n = 1) := by
  have equals : (ofInt n).equals one = true ↔ ofInt n = one := by
    have number : one.isNaN = false := by decide
    have nonzero : one.isZero = false := by decide
    simp only [Double.equals, number, nonzero, Bool.and_false, Bool.or_false, Bool.not_false,
      Bool.and_true, Bool.and_eq_true, beq_iff_eq, and_iff_right_iff_imp]
    intro same
    rw [same, number]
    rfl
  rw [Bool.eq_iff_iff, equals, ofInt_eq_one_iff, decide_eq_true_eq]

end LogReplay.Number.Double
