/-
Module: LogReplay.Number.Reading
Purpose: Reading a double from decimal text.
Main exports:
  Double.ofText?
-/
import LogReplay.Number.Double

/-!
The grammar is an optional sign followed by `inf`, `infinity` or `nan` in any
letter case, or by decimal digits with an optional point and an optional
exponent.  At least one digit stands before the exponent, on either side of the
point; blanks, other radices and digit separators are refused.

The text denotes a rational number, and the result is the double nearest to it.
A number of more than four hundred integral digits exceeds every double, and
one whose first digit stands more than four hundred places after the point
rounds to zero; both are settled before any power of ten is computed.
-/

namespace LogReplay.Number.Double

/-- The exponent after a number: nothing, or `e` with a signed digit sequence. -/
def exponent? : List Char → Option Int
  | [] => some 0
  | c :: rest =>
      if c = 'e' ∨ c = 'E' then whole? rest else none

/-- The double nearest to `± digits · 10 ^ exponent`. -/
def ofDecimal (negative : Bool) (digits : List Char) (exponent : Int) : Double :=
  let digits := digits.dropWhile (· == '0')
  let size : Int := digits.length + exponent
  if digits.isEmpty ∨ size < -400 then ofMagnitude negative 0
  else if 400 < size then infinity negative
  else
    ofRatio negative (digitsValue digits * 10 ^ exponent.toNat) (10 ^ (-exponent).toNat)

/-- Reads digits, a point and an exponent. -/
def ofNumeral? (negative : Bool) (numeral : List Char) : Option Double :=
  let whole := numeral.takeWhile Char.isDigit
  let afterWhole := numeral.dropWhile Char.isDigit
  let (fraction, afterFraction) :=
    match afterWhole with
    | '.' :: rest => (rest.takeWhile Char.isDigit, rest.dropWhile Char.isDigit)
    | rest => ([], rest)
  if whole.isEmpty ∧ fraction.isEmpty then none
  else
    (exponent? afterFraction).map fun exponent =>
      ofDecimal negative (whole ++ fraction) (exponent - fraction.length)

/-- Reads a whole text as a double. -/
def ofText? (text : String) : Option Double :=
  let (negative, body) := splitSign text.toList
  let word := String.ofList (body.map Char.toLower)
  if word = "inf" ∨ word = "infinity" then some (infinity negative)
  else if word = "nan" then some nan
  else ofNumeral? negative body

end LogReplay.Number.Double
