/-
Module: LogReplay.Number.Double
Purpose: Binary64 numbers as bit patterns, with exact readings of their value.
Main exports:
  Double, Double.isNaN, Double.isZero, Double.equals, Double.toInt?,
  Double.ofRatio, Double.ofInt
-/
import LogReplay.Number.Basic

/-!
A double is its 64 bits: one sign bit, eleven exponent bits and fifty-two
fraction bits.  Keeping the bits makes a stored double exact (a payload, a
negative zero and two spellings of the same number stay apart), and every
arithmetical question is answered by natural number arithmetic on the decoded
significand and scale.

`Double.equals` is the comparison of the arithmetic, not of the storage: it
holds of `0.0` and `-0.0`, and never of a NaN.
-/

namespace LogReplay.Number

/-- A binary64 number, given by its bits. -/
structure Double where
  bits : UInt64
deriving DecidableEq, Repr, Inhabited

namespace Double

/-- The sign bit is set.  Zeros and NaNs have a sign as well. -/
def isNegative (x : Double) : Bool :=
  2 ^ 63 ≤ x.bits.toNat

/-- The eleven exponent bits. -/
def exponentField (x : Double) : Nat :=
  x.bits.toNat / 2 ^ 52 % 2 ^ 11

/-- The fifty-two fraction bits. -/
def fraction (x : Double) : Nat :=
  x.bits.toNat % 2 ^ 52

def isNaN (x : Double) : Bool :=
  x.exponentField == 2047 && x.fraction != 0

def isInfinite (x : Double) : Bool :=
  x.exponentField == 2047 && x.fraction == 0

def isZero (x : Double) : Bool :=
  x.exponentField == 0 && x.fraction == 0

/-- A finite double is `significand · 2 ^ scale` up to its sign. -/
def significand (x : Double) : Nat :=
  if x.exponentField = 0 then x.fraction else 2 ^ 52 + x.fraction

def scale (x : Double) : Int :=
  (max x.exponentField 1 : Nat) - 1075

/-- Equality of the numbers: a NaN equals nothing, and the two zeros are equal. -/
def equals (x y : Double) : Bool :=
  !x.isNaN && !y.isNaN && (x == y || x.isZero && y.isZero)

/-- The magnitude of a finite double as a ratio with a positive denominator. -/
def ratio (x : Double) : Nat × Nat :=
  (x.significand * 2 ^ x.scale.toNat, 2 ^ (-x.scale).toNat)

/-- The number as an integer, if it is finite and has no fractional part. -/
def toInt? (x : Double) : Option Int :=
  let (numerator, denominator) := x.ratio
  if x.exponentField = 2047 ∨ numerator % denominator ≠ 0 then none
  else if x.isNegative then some (-((numerator / denominator : Nat) : Int))
  else some ((numerator / denominator : Nat) : Int)

/-- Puts a sign in front of the bits of a magnitude. -/
def ofMagnitude (negative : Bool) (magnitude : Nat) : Double :=
  ⟨UInt64.ofNat (if negative then 2 ^ 63 + magnitude else magnitude)⟩

/-- The bits of positive infinity. -/
def infiniteMagnitude : Nat :=
  2047 * 2 ^ 52

/-- The quotient rounded to a whole number, a half going to the even neighbour. -/
def divideToEven (numerator denominator : Nat) : Nat :=
  let quotient := numerator / denominator
  let remainder := numerator % denominator
  if 2 * remainder < denominator then quotient
  else if denominator < 2 * remainder then quotient + 1
  else quotient + quotient % 2

/-- The scale at which `numerator / denominator` has fifty-three significant
bits, or the least scale there is when that would lie below it. -/
def fittingScale (numerator denominator : Nat) : Int :=
  let guess : Int := (Nat.log2 numerator : Int) - Nat.log2 denominator - 52
  let short :=
    numerator * 2 ^ (-guess).toNat < denominator * 2 ^ guess.toNat * 2 ^ 52
  max (if short then guess - 1 else guess) (-1074)

/-- The bits of the double nearest to a non-negative ratio; a tie goes to the
even significand, and what exceeds every finite double becomes infinite.  A
significand that rounds up to the next power of two carries into the exponent
by the sum alone. -/
def magnitudeOfRatio (numerator denominator : Nat) : Nat :=
  if numerator = 0 then 0
  else
    let scale := fittingScale numerator denominator
    let rounded :=
      divideToEven (numerator * 2 ^ (-scale).toNat) (denominator * 2 ^ scale.toNat)
    min ((scale + 1074).toNat * 2 ^ 52 + rounded) infiniteMagnitude

/-- The double nearest to `± numerator / denominator`. -/
def ofRatio (negative : Bool) (numerator denominator : Nat) : Double :=
  ofMagnitude negative (magnitudeOfRatio numerator denominator)

/-- The double nearest to an integer. -/
def ofInt (n : Int) : Double :=
  ofRatio (n < 0) n.natAbs 1

def one : Double :=
  ⟨0x3ff0000000000000⟩

def zero : Double :=
  ⟨0⟩

def infinity (negative : Bool) : Double :=
  ofMagnitude negative infiniteMagnitude

/-- The NaN that stands for all of them where bits are compared. -/
def nan : Double :=
  ⟨0x7ff8000000000000⟩

/-- There are two zeros. -/
theorem isZero_iff (x : Double) : x.isZero = true ↔ x.bits = 0 ∨ x.bits = 0x8000000000000000 := by
  have bounded := x.bits.toNat_lt
  simp only [isZero, exponentField, fraction, Bool.and_eq_true, beq_iff_eq, ← UInt64.toNat_inj,
    UInt64.reduceToNat]
  omega

theorem equals_comm (x y : Double) : x.equals y = y.equals x := by
  simp only [equals, Bool.and_comm, Bool.beq_comm (a := x)]

theorem equals_self (x : Double) : x.equals x = !x.isNaN := by
  cases h : x.isNaN <;> simp [equals, h]

theorem equals_trans {x y z : Double} (first : x.equals y = true) (second : y.equals z = true) :
    x.equals z = true := by
  simp only [equals, Bool.and_eq_true, Bool.or_eq_true, beq_iff_eq] at first second ⊢
  refine ⟨⟨first.1.1, second.1.2⟩, ?_⟩
  rcases first.2 with rfl | zeros
  · exact second.2
  · rcases second.2 with rfl | zeros'
    · exact .inr zeros
    · exact .inr ⟨zeros.1, zeros'.2⟩

example : ofInt 1 = one := by decide
example : ofInt 0 = zero := by decide
example : (ofInt 9007199254740993).toInt? = some 9007199254740992 := by decide
example : ofRatio false 1 10 = ⟨0x3fb999999999999a⟩ := by decide
example : ofRatio false 1 (2 ^ 1074) = ⟨1⟩ := by decide +kernel
example : ofRatio true (2 ^ 1024) 1 = infinity true := by decide +kernel

end Double

end LogReplay.Number
