/-
Module: LogReplay.Span.Reading
Purpose: Reading spans written in words, such as `1h 30m` or `2.5 sec`.
Main exports:
  Span.ofText?
-/
import LogReplay.Number.Basic
import LogReplay.Span

/-!
A span is written as a sequence of terms that are added up; a bare `0` is the
empty span.  A term is a number and a unit.  Blanks may stand before a term,
between number and unit, and between the digits of a number.  A number may have
a point with a digit on either side, and a unit ends at a blank, at a digit, or
at the end of the text.

All quantities have sixty-four bits.  Whole numbers count nanoseconds for the
units below a second and seconds for the others; a fraction counts nanoseconds
for the units up to a minute and seconds for the longer ones.  What overflows,
and a fraction that does not come out even, is refused.
-/

namespace LogReplay.Span

/-! ## Blanks -/

/-- The code points with the property White_Space. -/
def blankRanges : List (Nat × Nat) :=
  [(0x9, 0xd), (0x20, 0x20), (0x85, 0x85), (0xa0, 0xa0), (0x1680, 0x1680),
   (0x2000, 0x200a), (0x2028, 0x2029), (0x202f, 0x202f), (0x205f, 0x205f),
   (0x3000, 0x3000)]

/-- A blank of any script, not only of ASCII. -/
def isBlank (c : Char) : Bool :=
  blankRanges.any fun (first, last) => first ≤ c.toNat && c.toNat ≤ last

/-! ## Units -/

/-- Numbers are kept below this bound. -/
def wordBound : Nat :=
  2 ^ 64

/-- What a quantity counts. -/
inductive Grain where
  | nanoseconds
  | seconds
deriving DecidableEq, Repr

/-- How a unit is counted, and how a fraction of it is. -/
structure TimeUnit where
  grain : Grain
  size : Nat
  fraction : Option (Grain × Nat)
deriving DecidableEq, Repr

def TimeUnit.nanosecond : TimeUnit :=
  ⟨.nanoseconds, 1, none⟩

/-- A unit whose fractions are counted in nanoseconds. -/
def TimeUnit.fine (grain : Grain) (size fractionSize : Nat) : TimeUnit :=
  ⟨grain, size, some (.nanoseconds, fractionSize)⟩

/-- A unit of whole seconds whose fractions are whole seconds as well. -/
def TimeUnit.coarse (size : Nat) : TimeUnit :=
  ⟨.seconds, size, some (.seconds, size)⟩

/-- The units by their names. -/
def unit? (name : String) : Option TimeUnit :=
  if ["nanos", "nsec", "ns"].contains name then some .nanosecond
  else if ["usec", "us", "µs"].contains name then
    some (.fine .nanoseconds perMicrosecond perMicrosecond)
  else if ["millis", "msec", "ms"].contains name then
    some (.fine .nanoseconds perMillisecond perMillisecond)
  else if ["seconds", "second", "secs", "sec", "s"].contains name then
    some (.fine .seconds 1 perSecond)
  else if ["minutes", "minute", "min", "mins", "m"].contains name then
    some (.fine .seconds 60 (60 * perSecond))
  else if ["hours", "hour", "hr", "hrs", "h"].contains name then some (.coarse 3600)
  else if ["days", "day", "d"].contains name then some (.coarse 86400)
  else if ["weeks", "week", "wk", "wks", "w"].contains name then some (.coarse 604800)
  else if ["months", "month", "M"].contains name then some (.coarse 2630016)
  else if ["years", "year", "yr", "yrs", "y"].contains name then some (.coarse 31557600)
  else none

/-- A number as written: its whole part, and its fraction as a ratio. -/
structure Quantity where
  whole : Nat
  fraction : Option (Nat × Nat)
deriving DecidableEq, Repr

/-- The value of digits, if it is below the bound. -/
def wordOfDigits? (digits : List Char) : Option Nat :=
  let value := Number.digitsValue digits
  if value < wordBound then some value else none

def isUnitLetter (c : Char) : Bool :=
  c.isAlpha || c == 'µ'

def isDigitOrBlank (c : Char) : Bool :=
  c.isDigit || isBlank c

/-- Adds nanoseconds to a span, as long as neither the nanoseconds beyond the
whole seconds nor the whole seconds reach the bound. -/
def addNanoseconds (span : Span) (n : Nat) : Option Span :=
  if span % perSecond + n < wordBound ∧ (span + n) / perSecond < wordBound then some (span + n)
  else none

/-- Adds `n` of a grain to a span, if `n` is below the bound. -/
def add (span : Span) (grain : Grain) (n : Nat) : Option Span :=
  if n < wordBound then
    match grain with
    | .nanoseconds => addNanoseconds span n
    | .seconds => if (span + ofSeconds n) / perSecond < wordBound then some (span + ofSeconds n)
        else none
  else none

/-- Adds a number of units to a span. -/
def addQuantity (span : Span) (quantity : Quantity) (unit : TimeUnit) : Option Span := do
  let span ← add span unit.grain (quantity.whole * unit.size)
  match quantity.fraction with
  | none => some span
  | some (numerator, denominator) =>
      let (grain, size) ← unit.fraction
      let scaled := numerator * size
      if scaled < wordBound ∧ scaled % denominator = 0 then
        add span grain (scaled / denominator)
      else none

/-- The digits after a point: at least one, with a denominator below the bound. -/
def fraction? (letters : List Char) : Option (Nat × Nat) := do
  let digits := letters.filter Char.isDigit
  let numerator ← wordOfDigits? digits
  let denominator := 10 ^ digits.length
  if digits.isEmpty ∨ wordBound ≤ denominator then none else some (numerator, denominator)

/-- The number at the front, and what follows it. -/
def takeQuantity (letters : List Char) : Option (Quantity × List Char) := do
  let whole ← wordOfDigits? ((letters.takeWhile isDigitOrBlank).filter Char.isDigit)
  match letters.dropWhile isDigitOrBlank with
  | '.' :: rest =>
      let fraction ← fraction? (rest.takeWhile isDigitOrBlank)
      some (⟨whole, some fraction⟩, rest.dropWhile isDigitOrBlank)
  | rest => some (⟨whole, none⟩, rest)

/-- Adds up the terms, of which each takes at least two letters. -/
def addTerms : (fuel : Nat) → Span → List Char → Option Span
  | 0, _, _ => none
  | fuel + 1, span, letters =>
      match letters.dropWhile isBlank with
      | [] => some span
      | c :: rest =>
          if c.isDigit then do
            let (quantity, rest) ← takeQuantity (c :: rest)
            let unit ← unit? (String.ofList (rest.takeWhile isUnitLetter))
            let span ← addQuantity span quantity unit
            addTerms fuel span (rest.dropWhile isUnitLetter)
          else none

/-- Reads a span; the text must hold at least one term. -/
def ofText? (text : String) : Option Span :=
  if text = "0" then some 0
  else if text.toList.all isBlank then none
  else addTerms (text.toList.length + 1) 0 text.toList

end LogReplay.Span
