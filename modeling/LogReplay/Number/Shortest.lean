/-
Module: LogReplay.Number.Shortest
Purpose: The fewest decimal digits that read back as a given double, written
  positionally.
Main exports:
  Double.shortest, Double.text
-/
import LogReplay.Number.Double

/-!
The reals that round to a finite double form an interval around it, closed
exactly when its significand is even.  For one digit, two digits, and so on up
to seventeen, the decimal grid of that many significant digits offers two
neighbours of the value; the first grid with a neighbour inside the interval
gives the shortest decimal.  If both neighbours lie inside, the nearer one is
taken, and the upper one when they are equally near.

Everything is decided by comparing natural numbers: with one quarter of a unit
in the last place as the unit, the value is `4 · significand`, and a decimal is
compared with a number of quarters by cross multiplication.
-/

namespace LogReplay.Number.Double

/-- `digits · 10 ^ exponent`. -/
structure Decimal where
  digits : Nat
  exponent : Int
deriving DecidableEq, Repr

/-- Orders `d` against `quarters` quarter units in the last place of `x`. -/
def compareQuarters (x : Double) (d : Decimal) (quarters : Nat) : Ordering :=
  let scale := x.scale - 2
  compare (d.digits * 10 ^ d.exponent.toNat * 2 ^ (-scale).toNat)
    (quarters * 2 ^ scale.toNat * 10 ^ (-d.exponent).toNat)

/-- `d` rounds to `x`.  Below a power of two the spacing halves, and with it the
lower half of the interval. -/
def isReadBackFrom (x : Double) (d : Decimal) : Bool :=
  let centre := 4 * x.significand
  let below := if x.fraction = 0 ∧ 1 < x.exponentField then 1 else 2
  let closed := x.significand % 2 == 0
  (match x.compareQuarters d (centre - below) with
    | .lt => false
    | .eq => closed
    | .gt => true) &&
  (match x.compareQuarters d (centre + 2) with
    | .lt => true
    | .eq => closed
    | .gt => false)

/-- The `e` with `10 ^ e ≤ numerator / denominator < 10 ^ (e + 1)`. -/
def decimalExponent (numerator denominator : Nat) : Int :=
  if denominator ≤ numerator then
    ((toString (numerator / denominator)).length : Int) - 1
  else
    let width := (toString (denominator / numerator)).length
    if denominator ≤ numerator * 10 ^ (width - 1) then 1 - (width : Int)
    else -(width : Int)

/-- The decimal of `count` significant digits just below the magnitude of `x`, or
equal to it. -/
def lowerNeighbour (x : Double) (count : Nat) : Decimal :=
  let (numerator, denominator) := x.ratio
  let exponent := decimalExponent numerator denominator - count + 1
  ⟨numerator * 10 ^ (-exponent).toNat / (denominator * 10 ^ exponent.toNat), exponent⟩

/-- The nearer of the two neighbours on the grid of `count` digits, among those
that read back as `x`. -/
def neighbour? (x : Double) (count : Nat) : Option Decimal :=
  let lower := x.lowerNeighbour count
  let upper : Decimal := ⟨lower.digits + 1, lower.exponent⟩
  match x.isReadBackFrom lower, x.isReadBackFrom upper with
  | false, false => none
  | true, false => some lower
  | false, true => some upper
  | true, true =>
      let middle : Decimal := ⟨10 * lower.digits + 5, lower.exponent - 1⟩
      if x.compareQuarters middle (4 * x.significand) = .gt then some lower
      else some upper

/-- The shortest decimal that reads back as the magnitude of `x`. -/
def shortest (x : Double) : Decimal :=
  ((List.range 17).findSome? fun n => x.neighbour? (n + 1)).getD
    (x.lowerNeighbour 17)

/-- Digits with a point put in by the exponent, without superfluous zeros at
either end. -/
def Decimal.positional (d : Decimal) : String :=
  let digits := (toString d.digits).toList
  let kept := (digits.reverse.dropWhile (· == '0')).reverse
  let exponent := d.exponent + (digits.length - kept.length : Nat)
  let places := (-exponent).toNat
  String.ofList <|
    if kept.isEmpty then ['0']
    else if 0 ≤ exponent then kept ++ List.replicate exponent.toNat '0'
    else if places < kept.length then
      kept.take (kept.length - places) ++ '.' :: kept.drop (kept.length - places)
    else '0' :: '.' :: (List.replicate (places - kept.length) '0' ++ kept)

/-- A double as text: never an exponent, and no fraction where there is none. -/
def text (x : Double) : String :=
  if x.isNaN then "NaN"
  else
    let magnitude :=
      if x.isInfinite then "inf"
      else if x.isZero then "0"
      else x.shortest.positional
    if x.isNegative then "-" ++ magnitude else magnitude

end LogReplay.Number.Double
