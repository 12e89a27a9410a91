/-
Module: LogReplay.Text.Calendar
Purpose: Moments as a date and a time of day, and read from these.
Main exports:
  Calendar.Date, Calendar.Date.ofDays, Calendar.Date.toDays, Calendar.moment,
  Calendar.millisecondsOf?
-/
import LogReplay.Number.Basic

/-!
Moments are counted from the start of 1970 in universal time, and shown in the
Gregorian calendar, extended to all years.  Four hundred years have 146097 days;
within them a year is counted from the first of March, so that the leap day is the
last day of its year.

Dates have years of at most six digits.  A moment before or after all of these is
shown as the first or the last moment of them.

A moment is read from a date with a year of four digits, a time of day, and how far
that is ahead of universal time.  A minute may have a leap second, if it is the last
one of a month in universal time; it counts as the last nanosecond before it.
-/

namespace LogReplay.Text.Calendar

structure Date where
  year : Int
  month : Nat
  day : Nat
deriving DecidableEq, Repr

/-- The date of a day, counted from the first of January 1970. -/
def Date.ofDays (days : Int) : Date :=
  let shifted := days + 719468
  let dayOfEra := (shifted % 146097).toNat
  let yearOfEra :=
    (dayOfEra - dayOfEra / 1460 + dayOfEra / 36524 - dayOfEra / 146096) / 365
  let dayOfYear := dayOfEra - (365 * yearOfEra + yearOfEra / 4 - yearOfEra / 100)
  let monthFromMarch := (5 * dayOfYear + 2) / 153
  let month := if monthFromMarch < 10 then monthFromMarch + 3 else monthFromMarch - 9
  { year := shifted / 146097 * 400 + yearOfEra + (if month ≤ 2 then 1 else 0)
    month
    day := dayOfYear - (153 * monthFromMarch + 2) / 5 + 1 }

/-- A number in at least `width` digits. -/
def padded (width n : Nat) : List Char :=
  let digits := (toString n).toList
  List.replicate (width - digits.length) '0' ++ digits

/-- A year of more than four digits has a sign, whichever it is. -/
def yearText (year : Int) : List Char :=
  (if year < 0 then ['-'] else if 10000 ≤ year then ['+'] else []) ++ padded 4 year.natAbs

def Date.text (d : Date) : List Char :=
  yearText d.year ++ '-' :: padded 2 d.month ++ '-' :: padded 2 d.day

/-- Digits without the zeros at their end, but with one digit at least. -/
def trimmed (digits : List Char) : List Char :=
  digits.take 1 ++ ((digits.drop 1).reverse.dropWhile (· = '0')).reverse

/-- Hours, minutes, seconds and a fraction, from the nanoseconds of the day. -/
def timeOfDay (nanoseconds : Nat) : List Char :=
  let seconds := nanoseconds / 10 ^ 9
  (toString (seconds / 3600)).toList ++ ':' :: padded 2 (seconds / 60 % 60) ++
    ':' :: padded 2 (seconds % 60) ++ '.' :: trimmed (padded 9 (nanoseconds % 10 ^ 9))

def nanosecondsOfDay : Int :=
  86400 * 10 ^ 9

/-- The first of January of the year -999999. -/
def firstDay : Int :=
  -365961662

/-- The last of December of the year 999999. -/
def lastDay : Int :=
  364522971

/-- The moment that is a number of milliseconds after the start of 1970. -/
def moment (milliseconds : Int) : String :=
  let nanoseconds :=
    max (firstDay * nanosecondsOfDay)
      (min (milliseconds * 10 ^ 6) ((lastDay + 1) * nanosecondsOfDay - 1))
  String.ofList
    ((Date.ofDays (nanoseconds / nanosecondsOfDay)).text ++
      ' ' :: timeOfDay (nanoseconds % nanosecondsOfDay).toNat ++ " +00:00:00".toList)

example : Date.ofDays 0 = ⟨1970, 1, 1⟩ := by decide
example : Date.ofDays firstDay = ⟨-999999, 1, 1⟩ := by decide
example : Date.ofDays lastDay = ⟨999999, 12, 31⟩ := by decide
example : Date.ofDays 11016 = ⟨2000, 2, 29⟩ := by decide
example : moment 5 = "1970-01-01 0:00:00.005 +00:00:00" := by decide +kernel
example : moment (-1000) = "1969-12-31 23:59:59.0 +00:00:00" := by decide +kernel

/-! ## Reading -/

/-- The day of a date, counted from the first of January 1970. -/
def Date.toDays (d : Date) : Int :=
  let year := if d.month ≤ 2 then d.year - 1 else d.year
  let yearOfEra := (year % 400).toNat
  let dayOfYear := (153 * ((d.month + 9) % 12) + 2) / 5 + d.day
  let dayOfEra := yearOfEra * 365 + yearOfEra / 4 - yearOfEra / 100 + dayOfYear
  year / 400 * 146097 + dayOfEra - 1 - 719468

/-- A date that the calendar has is the date of its own day. -/
def Date.exists (d : Date) : Bool :=
  Date.ofDays d.toDays == d

/-- A number in exactly so many digits, and what follows it. -/
def takeDigits? (count : Nat) (letters : List Char) : Option (Nat × List Char) :=
  let digits := letters.take count
  if digits.length = count ∧ digits.all Char.isDigit then
    some (Number.digitsValue digits, letters.drop count)
  else none

/-- A number of two digits after a mark. -/
def takeAfter? (mark : Char) : List Char → Option (Nat × List Char)
  | [] => none
  | c :: rest => if c = mark then takeDigits? 2 rest else none

/-- The nanoseconds of a fraction of a second, if there is one.  Digits after the ninth
do not count. -/
def takeFraction? : List Char → Option (Nat × List Char)
  | '.' :: rest =>
      let digits := rest.takeWhile Char.isDigit
      if digits.isEmpty then none
      else
        some (Number.digitsValue ((digits ++ List.replicate 9 '0').take 9),
          rest.drop digits.length)
  | rest => some (0, rest)

/-- The seconds by which a time of day is ahead of universal time. -/
def offset? (letters : List Char) : Option Int :=
  match letters with
  | ['Z'] | ['z'] => some 0
  | sign :: rest =>
      if sign = '+' ∨ sign = '-' then do
        let (hours, rest) ← takeDigits? 2 rest
        let (minutes, rest) ← takeAfter? ':' rest
        if 24 ≤ hours ∨ 60 ≤ minutes ∨ rest ≠ [] then none
        else
          let seconds : Int := 3600 * hours + 60 * minutes
          some (if sign = '-' then -seconds else seconds)
      else none
  | [] => none

/-- The day is the last one of its month. -/
def endsMonth (days : Int) : Bool :=
  (Date.ofDays (days + 1)).day == 1

/-- Reads a moment as milliseconds after the start of 1970, the fraction of one cut off
towards that start. -/
def millisecondsOf? (text : String) : Option Int := do
  let (year, rest) ← takeDigits? 4 text.toList
  let (month, rest) ← takeAfter? '-' rest
  let (day, rest) ← takeAfter? '-' rest
  let separator ← rest.head?
  let (hours, rest) ← takeDigits? 2 (rest.drop 1)
  let (minutes, rest) ← takeAfter? ':' rest
  let (seconds, rest) ← takeAfter? ':' rest
  let (nanoseconds, rest) ← takeFraction? rest
  let ahead ← offset? rest
  let date : Date := ⟨year, month, day⟩
  let leap : Bool := seconds = 60
  let clock : Int := 3600 * hours + 60 * minutes + (if leap then 59 else seconds)
  let moment := date.toDays * 86400 + clock - ahead
  let isLast := moment % 86400 = 86399 ∧ endsMonth (moment / 86400) = true
  if 128 ≤ separator.toNat ∨ !date.exists ∨ 24 ≤ hours ∨ 60 ≤ minutes ∨ 61 ≤ seconds then none
  else if leap ∧ ¬isLast then none
  else
    let nanoseconds : Int := if leap then 10 ^ 9 - 1 else nanoseconds
    some ((moment * 10 ^ 9 + nanoseconds).tdiv (10 ^ 6))

example : (⟨2000, 2, 29⟩ : Date).toDays = 11016 := by decide
example : (⟨1900, 2, 29⟩ : Date).exists = false := by decide
example : millisecondsOf? "1970-01-01T00:00:00.0059Z" = some 5 := by decide +kernel
example : millisecondsOf? "1970-01-01T01:00:00+01:00" = some 0 := by decide +kernel
example : millisecondsOf? "2016-12-31T23:59:60Z" = some 1483228799999 := by decide +kernel
example : millisecondsOf? "2016-12-30T23:59:60Z" = none := by decide +kernel

end LogReplay.Text.Calendar
