/-
Module: LogReplay.Number.Basic
Purpose: Powers as bounds, natural numbers as bytes, and whole numbers in decimal
  digits.
Main exports:
  littleEndian, fromLittleEndian, fromLittleEndian_littleEndian, whole?, int32?,
  int64?
-/

/-!
A bound such as `2 ^ 63` is raised by repeated multiplication of natural numbers
or of integers.  The algebraic hierarchy has a power of every monoid, which has
the same values but is another term, and it would be the one meant wherever that
hierarchy happens to be in scope.  The preference below lets a bound be the same
term in a program that runs without the hierarchy and in a proof that uses it.

A number is written as bytes of a fixed width, so what does not fit is lost; reading
the bytes back gives the number modulo the numbers of that width.
-/

attribute [instance (high), default_instance (high + 1)] instPowNat

namespace LogReplay.Number

/-! ## Bytes -/

/-- The low `width` bytes of a number, least significant first. -/
def littleEndian : (width : Nat) → Nat → List UInt8
  | 0, _ => []
  | width + 1, n => UInt8.ofNat (n % 256) :: littleEndian width (n / 256)

/-- The number that little-endian bytes stand for. -/
def fromLittleEndian : List UInt8 → Nat
  | [] => 0
  | b :: rest => b.toNat + 256 * fromLittleEndian rest

@[simp] theorem length_littleEndian (width n : Nat) : (littleEndian width n).length = width := by
  induction width generalizing n with
  | zero => rfl
  | succ width ih => simp [littleEndian, ih]

theorem fromLittleEndian_littleEndian (width n : Nat) :
    fromLittleEndian (littleEndian width n) = n % 256 ^ width := by
  induction width generalizing n with
  | zero => simp [littleEndian, fromLittleEndian, Nat.mod_one]
  | succ width ih =>
      have low : (UInt8.ofNat (n % 256)).toNat = n % 256 := by simp
      simp only [littleEndian, fromLittleEndian, ih, low]
      rw [Nat.pow_succ, Nat.mul_comm (256 ^ width) 256, Nat.mod_mul]

/-! ## Digits -/

/-- The value of a list of decimal digits. -/
def digitsValue (digits : List Char) : Nat :=
  digits.foldl (fun n c => 10 * n + (c.toNat - '0'.toNat)) 0

/-- Splits off the sign: whether it is a minus, and what follows. -/
def splitSign : List Char → Bool × List Char
  | '-' :: rest => (true, rest)
  | '+' :: rest => (false, rest)
  | rest => (false, rest)

/-- Decimal digits, one at least, after an optional sign. -/
def whole? (letters : List Char) : Option Int :=
  let (negative, digits) := splitSign letters
  if digits.isEmpty ∨ !digits.all Char.isDigit then none
  else
    let magnitude : Int := digitsValue digits
    some (if negative then -magnitude else magnitude)

/-- The number in 32 bits, if it fits. -/
def int32? (n : Int) : Option Int32 :=
  if -2 ^ 31 ≤ n ∧ n < 2 ^ 31 then some (Int32.ofInt n) else none

/-- The number in 64 bits, if it fits. -/
def int64? (n : Int) : Option Int64 :=
  if -2 ^ 63 ≤ n ∧ n < 2 ^ 63 then some (Int64.ofInt n) else none

end LogReplay.Number
