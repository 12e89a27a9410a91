/-
Module: LogReplay.Span
Purpose: Lengths of time, their text, and their number of seconds as a double.
Main exports:
  Span, Span.text, Span.seconds
-/
import LogReplay.Number.Double

/-!
A span is a whole number of nanoseconds.  Its text uses the largest of the units
s, ms, µs and ns that is not longer than the span, with as many decimal places
as the nanoseconds need.
-/

namespace LogReplay

open Number (Double)

/-- A length of time in nanoseconds. -/
abbrev Span :=
  Nat

namespace Span

def perMicrosecond : Nat :=
  1000

def perMillisecond : Nat :=
  1000000

def perSecond : Nat :=
  1000000000

def ofSeconds (n : Nat) : Span :=
  n * perSecond

def ofMilliseconds (n : Nat) : Span :=
  n * perMillisecond

/-- The next whole number of milliseconds. -/
def roundUpToMillisecond (span : Span) : Span :=
  (span + (perMillisecond - 1)) / perMillisecond * perMillisecond

/-- `n` in exactly `places` digits, without the zeros at the end. -/
def decimalPlaces (places n : Nat) : List Char :=
  let digits := (toString n).toList
  let padded := List.replicate (places - digits.length) '0' ++ digits
  (padded.reverse.dropWhile (· == '0')).reverse

/-- A number of units of `10 ^ places` nanoseconds each. -/
def inUnit (places : Nat) (name : String) (span : Span) : String :=
  let fraction := decimalPlaces places (span % 10 ^ places)
  toString (span / 10 ^ places) ++
    (if fraction.isEmpty then "" else "." ++ String.ofList fraction) ++ name

def text (span : Span) : String :=
  if perSecond ≤ span then inUnit 9 "s" span
  else if perMillisecond ≤ span then inUnit 6 "ms" span
  else if perMicrosecond ≤ span then inUnit 3 "µs" span
  else toString span ++ "ns"

/-- The number of seconds: the whole seconds and the rest are each rounded to a
double, and then so is their sum. -/
def seconds (span : Span) : Double :=
  let whole := (Double.ofInt (span / perSecond : Nat)).ratio
  let rest := (Double.ofRatio false (span % perSecond) perSecond).ratio
  Double.ofRatio false (whole.1 * rest.2 + rest.1 * whole.2) (whole.2 * rest.2)

end Span

end LogReplay
