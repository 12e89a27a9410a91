/-
Module: LogReplay.Number.Decimal
Purpose: Decimal numbers of 128 bits: what their bits say, their normal bits,
  their text, and the bits of a text.
Main exports:
  Decimal, Decimal.ofBits, Decimal.toBits, Decimal.text, Decimal.ofBytes,
  Decimal.toBytes, Decimal.ofBytes_toBytes, Decimal.bytesOfText?
-/
import LogReplay.Number.Basic

/-!
A decimal is a whole coefficient of at most thirty-four digits times a power of
ten, or an infinity, or not a number.  Different powers are kept apart, so `1.0`
and `1.00` are two decimals, and a zero has a sign.

The bits hold more than that.  A NaN may carry a sign and a payload, an infinity
may carry trailing bits, and a coefficient may be too large.  `ofBits` reads all
of these: the extra bits say nothing, and a coefficient that is too large counts
as zero.  `toBits` writes the one normal pattern of each decimal, and
`ofBits_toBits` says that nothing is lost by it.
-/

namespace LogReplay.Number

/-- A decimal number.  The power of ten is `exponent - 6176`. -/
inductive Decimal where
  | nan
  | infinity (negative : Bool)
  | finite (negative : Bool) (coefficient : Fin (10 ^ 34)) (exponent : Fin (3 * 2 ^ 12))
deriving DecidableEq, Repr

namespace Decimal

/-! ## Bits -/

/-- The coefficient that 113 bits stand for: zero if it has too many digits. -/
def boundedCoefficient (n : Nat) : Fin (10 ^ 34) :=
  if fits : n < 10 ^ 34 then ⟨n, fits⟩ else 0

theorem boundedCoefficient_val (coefficient : Fin (10 ^ 34)) :
    boundedCoefficient coefficient.val = coefficient :=
  dif_pos coefficient.isLt

/-- Reads 128 bits: the sign, and then five bits that tell the kinds apart.  Where
the first two of the five are set and the number is finite, the coefficient lies
above 2^113 and so has too many digits. -/
def ofBits (bits : Nat) : Decimal :=
  let negative := bits / 2 ^ 127 % 2 == 1
  let magnitude := bits % 2 ^ 127
  let leading := magnitude / 2 ^ 122
  if leading = 31 then nan
  else if leading = 30 then infinity negative
  else if 24 ≤ leading then
    finite negative 0 (Fin.ofNat (3 * 2 ^ 12) (magnitude / 2 ^ 111 % 2 ^ 14))
  else
    finite negative (boundedCoefficient (magnitude % 2 ^ 113))
      (Fin.ofNat (3 * 2 ^ 12) (magnitude / 2 ^ 113))

/-- The sign; a NaN has none. -/
def isNegative : Decimal → Bool
  | nan => false
  | infinity negative => negative
  | finite negative _ _ => negative

/-- The normal bits after the sign. -/
def magnitude : Decimal → Nat
  | nan => 31 * 2 ^ 122
  | infinity _ => 30 * 2 ^ 122
  | finite _ coefficient exponent => exponent.val * 2 ^ 113 + coefficient.val

/-- The normal bits. -/
def toBits (d : Decimal) : Nat :=
  d.isNegative.toNat * 2 ^ 127 + d.magnitude

theorem magnitude_lt (d : Decimal) : d.magnitude < 2 ^ 127 := by
  cases d with
  | nan => simp [magnitude]
  | infinity => simp [magnitude]
  | finite negative coefficient exponent =>
      have := coefficient.isLt
      have := exponent.isLt
      simp only [magnitude]
      omega

theorem toBits_lt (d : Decimal) : d.toBits < 2 ^ 128 := by
  have := d.magnitude_lt
  have := d.isNegative.toNat_le
  simp only [toBits]
  omega

theorem toBits_div (d : Decimal) : d.toBits / 2 ^ 127 = d.isNegative.toNat := by
  have := d.magnitude_lt
  simp only [toBits]
  omega

theorem toBits_mod (d : Decimal) : d.toBits % 2 ^ 127 = d.magnitude := by
  have := d.magnitude_lt
  simp only [toBits]
  omega

/-- Normal bits are read as the decimal that they were written for. -/
theorem ofBits_toBits (d : Decimal) : ofBits d.toBits = d := by
  have sign : (d.isNegative.toNat % 2 == 1) = d.isNegative := by
    cases d.isNegative <;> rfl
  simp only [ofBits, toBits_div, toBits_mod, sign]
  cases d with
  | nan => simp [magnitude]
  | infinity negative => simp [magnitude, isNegative]
  | finite negative coefficient exponent =>
      have digits := coefficient.isLt
      have powers := exponent.isLt
      have whole : (finite negative coefficient exponent).magnitude =
          exponent.val * 2 ^ 113 + coefficient.val := rfl
      generalize (finite negative coefficient exponent).magnitude = m at whole ⊢
      have leading : m / 2 ^ 122 < 24 := by omega
      have high : m / 2 ^ 113 = exponent.val := by omega
      have low : m % 2 ^ 113 = coefficient.val := by omega
      rw [if_neg (by omega), if_neg (by omega), if_neg (by omega), high, low]
      simp [boundedCoefficient_val, isNegative]

/-! ## Bytes -/

/-- Reads the sixteen bytes, least significant first. -/
def ofBytes (bytes : Vector UInt8 16) : Decimal :=
  ofBits (fromLittleEndian bytes.toList)

/-- The sixteen normal bytes, least significant first. -/
def toBytes (d : Decimal) : Vector UInt8 16 :=
  ⟨(littleEndian 16 d.toBits).toArray, by simp⟩

theorem ofBytes_toBytes (d : Decimal) : ofBytes d.toBytes = d := by
  have bound : d.toBits % 256 ^ 16 = d.toBits := Nat.mod_eq_of_lt d.toBits_lt
  simp only [ofBytes, toBytes, Vector.toList_mk, fromLittleEndian_littleEndian, bound]
  exact d.ofBits_toBits

/-! ## Text -/

/-- Digits with a point in front of the last `places` of them. -/
def positional (digits : List Char) (places : Nat) : List Char :=
  if places = 0 then digits
  else if digits.length ≤ places then
    ['0', '.'] ++ List.replicate (places - digits.length) '0' ++ digits
  else
    digits.take (digits.length - places) ++ ['.'] ++ digits.drop (digits.length - places)

/-- Digits with a point after the first, and the power of ten of the first. -/
def scientific (digits : List Char) (power : Int) : List Char :=
  digits.take 1 ++ (if digits.length ≤ 1 then [] else '.' :: digits.drop 1) ++
    'E' :: (if 0 < power then ['+'] else []) ++ (toString power).toList

/-- A coefficient times a power of ten, with all digits of the coefficient.  It is
written positionally unless that would take zeros at the end, or more than five
zeros after the point. -/
def numeral (coefficient : Nat) (power : Int) : String :=
  let digits := (toString coefficient).toList
  let leading := power + digits.length - 1
  String.ofList
    (if power ≤ 0 ∧ -6 ≤ leading then positional digits (-power).toNat
    else scientific digits leading)

def text : Decimal → String
  | nan => "NaN"
  | infinity negative => (if negative then "-" else "") ++ "Infinity"
  | finite negative coefficient exponent =>
      (if negative then "-" else "") ++ numeral coefficient.val (exponent.val - 6176)

example : numeral 0 (-2) = "0.00" := by decide +kernel
example : numeral 123 (-8) = "0.00000123" := by decide +kernel
example : numeral 123 (-9) = "1.23E-7" := by decide +kernel
example : numeral 120 3 = "1.20E+5" := by decide +kernel

/-! ## The bits of a text -/

/-- The leading digits, if nothing but zeros follows them. -/
def leading? (count : Nat) (digits : List Char) : Option (List Char) :=
  if (digits.drop count).all (· = '0') then some (digits.take count) else none

/-- The same number in at most thirty-four digits, with a power of ten in the range of
the exponents.  Only zeros are cut off or appended for that. -/
def fitted? (digits : List Char) (power : Int) : Option (List Char × Int) := do
  let kept ← leading? 34 digits
  let power := power + (digits.length - kept.length : Nat)
  if power < -6176 then
    let excess := (-6176 - power).toNat
    if kept = ['0'] then some (kept, -6176)
    else if kept.length < excess then none
    else (leading? (kept.length - excess) kept).map (·, -6176)
  else if 6111 < power then
    let missing := (power - 6111).toNat
    if kept = ['0'] then some (kept, 6111)
    else if 34 < kept.length + missing then none
    else some (kept ++ List.replicate missing '0', 6111)
  else some (kept, power)

/-- Reads digits, a point and an exponent.  Exponents are kept in sixteen bits. -/
def ofNumeral? (letters : List Char) : Option Decimal := do
  let mantissa := letters.takeWhile (· ≠ 'e')
  let exponent ←
    match letters.drop mantissa.length with
    | [] => some 0
    | _ :: rest => whole? rest
  let fraction := (mantissa.dropWhile (· ≠ '.')).drop 1
  let power := exponent - fraction.length
  if exponent < -2 ^ 15 ∨ 2 ^ 15 ≤ exponent ∨ power < -2 ^ 15 then none
  else
    let digits := (mantissa.takeWhile (· ≠ '.') ++ fraction).dropWhile (· = '0')
    let (digits, power) ← fitted? (if digits.isEmpty then ['0'] else digits) power
    if digits.contains '-' then none
    else
      let coefficient ← whole? digits
      some (finite false (boundedCoefficient coefficient.toNat)
        (Fin.ofNat (3 * 2 ^ 12) (power + 6176).toNat))

/-- The bits of a text after its sign.  A NaN may be one that signals. -/
def magnitudeOf? (letters : List Char) : Option Nat :=
  if letters = "nan".toList then some nan.magnitude
  else if letters = "snan".toList then some (nan.magnitude + 2 ^ 121)
  else if letters = "inf".toList ∨ letters = "infinity".toList then
    some (infinity false).magnitude
  else (ofNumeral? letters).map magnitude

/-- The sixteen bytes that a text stands for.  A text without digits is a zero. -/
def bytesOfText? (text : String) : Option (Vector UInt8 16) :=
  let (negative, letters) := splitSign text.toList
  (magnitudeOf? (letters.map Char.toLower)).map fun magnitude =>
    ⟨(littleEndian 16 (negative.toNat * 2 ^ 127 + magnitude)).toArray, by simp⟩

example : (bytesOfText? "-1.20E+5").map ofBytes = some (finite true 120 6179) := by
  decide +kernel
example : (bytesOfText? "1E6145").isNone = true := by decide +kernel

end Decimal

end LogReplay.Number
