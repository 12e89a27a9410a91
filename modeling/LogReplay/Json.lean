/-
Module: LogReplay.Json
Purpose: Reading strict JSON texts.
Main exports:
  Json, Json.ofText?
-/
import LogReplay.Number.Basic

/-!
The grammar is that of the standard, without comments, trailing commas or a byte
order mark.  Two things are kept apart that a reader of settings has to tell
apart: a number written as digits alone, and any other number; and a string whose
escapes denote characters, and one with an escape for half of a surrogate pair,
which denotes no text.
-/

namespace LogReplay

/-- A JSON value.  A string without a text is `none`. -/
inductive Json where
  | null
  | boolean (flag : Bool)
  /-- A number without sign, fraction and exponent. -/
  | natural (n : Nat)
  | otherNumber
  | string (text : Option String)
  | array (items : List Json)
  | object (fields : List (Option String × Json))

namespace Json

def isBlank (c : Char) : Bool :=
  c == ' ' || c == '\t' || c == '\n' || c == '\r'

def skipBlanks (letters : List Char) : List Char :=
  letters.dropWhile isBlank

/-! ## Strings -/

/-- The value of a hexadecimal digit. -/
def hexDigit? (c : Char) : Option Nat :=
  if c.isDigit then some (c.toNat - '0'.toNat)
  else if 'a' ≤ c ∧ c ≤ 'f' then some (c.toNat - 'a'.toNat + 10)
  else if 'A' ≤ c ∧ c ≤ 'F' then some (c.toNat - 'A'.toNat + 10)
  else none

/-- The code unit of four hexadecimal digits. -/
def codeUnit? (a b c d : Char) : Option Nat := do
  let a ← hexDigit? a
  let b ← hexDigit? b
  let c ← hexDigit? c
  let d ← hexDigit? d
  some (a * 4096 + b * 256 + c * 16 + d)

def isHighSurrogate (unit : Nat) : Bool :=
  0xd800 ≤ unit && unit < 0xdc00

def isLowSurrogate (unit : Nat) : Bool :=
  0xdc00 ≤ unit && unit < 0xe000

/-- The character of a surrogate pair. -/
def ofSurrogates (high low : Nat) : Char :=
  Char.ofNat (0x10000 + (high - 0xd800) * 0x400 + (low - 0xdc00))

/-- The character of an escape of one letter. -/
def shortEscape? (c : Char) : Option Char :=
  match c with
  | '"' => some '"'
  | '\\' => some '\\'
  | '/' => some '/'
  | 'b' => some '\x08'
  | 'f' => some '\x0c'
  | 'n' => some '\n'
  | 'r' => some '\r'
  | 't' => some '\t'
  | _ => none

/-- A character as written, or a code unit given by its number. -/
inductive Letter where
  | char (c : Char)
  | unit (n : Nat)
deriving DecidableEq, Repr

/-- The letters of a string up to its closing quote, and what follows it. -/
def readLetters : List Char → Option (List Letter × List Char)
  | [] => none
  | '"' :: rest => some ([], rest)
  | '\\' :: 'u' :: a :: b :: c :: d :: rest => do
      let unit ← codeUnit? a b c d
      let (letters, rest) ← readLetters rest
      some (.unit unit :: letters, rest)
  | '\\' :: c :: rest => do
      let letter ← shortEscape? c
      let (letters, rest) ← readLetters rest
      some (.char letter :: letters, rest)
  | c :: rest =>
      if c = '\\' ∨ c.toNat < 0x20 then none
      else do
        let (letters, rest) ← readLetters rest
        some (.char c :: letters, rest)

/-- The characters that letters denote, unless one denotes half a character. -/
def denoted : List Letter → Option (List Char)
  | [] => some []
  | .char c :: rest => (denoted rest).map (c :: ·)
  | .unit high :: .unit low :: rest =>
      if isHighSurrogate high && isLowSurrogate low then
        (denoted rest).map (ofSurrogates high low :: ·)
      else if isHighSurrogate high || isLowSurrogate high then none
      else (denoted (.unit low :: rest)).map (Char.ofNat high :: ·)
  | .unit unit :: rest =>
      if isHighSurrogate unit || isLowSurrogate unit then none
      else (denoted rest).map (Char.ofNat unit :: ·)

/-- A string after its opening quote. -/
def readString (letters : List Char) : Option (Option String × List Char) :=
  (readLetters letters).map fun (read, rest) => ((denoted read).map String.ofList, rest)

/-! ## Numbers -/

/-- At least one digit, and what follows. -/
def skipDigits (letters : List Char) : Option (List Char) :=
  match letters with
  | c :: rest => if c.isDigit then some (rest.dropWhile Char.isDigit) else none
  | [] => none

/-- What follows a fraction, which need not be there. -/
def skipFraction : List Char → Option (List Char)
  | '.' :: rest => skipDigits rest
  | rest => some rest

/-- What follows an exponent, which need not be there. -/
def skipExponent : List Char → Option (List Char)
  | c :: rest =>
      if c = 'e' ∨ c = 'E' then
        match rest with
        | '+' :: digits => skipDigits digits
        | '-' :: digits => skipDigits digits
        | digits => skipDigits digits
      else some (c :: rest)
  | [] => some []

/-- The digits before any fraction: no zero stands in front of other digits. -/
def takeWhole : List Char → Option (List Char × List Char)
  | '0' :: rest =>
      match rest with
      | c :: _ => if c.isDigit then none else some (['0'], rest)
      | [] => some (['0'], [])
  | c :: rest =>
      if c.isDigit then some (c :: rest.takeWhile Char.isDigit, rest.dropWhile Char.isDigit)
      else none
  | [] => none

/-- A number, and what follows it. -/
def readNumber (letters : List Char) : Option (Json × List Char) := do
  let (negative, unsigned) :=
    match letters with
    | '-' :: rest => (true, rest)
    | rest => (false, rest)
  let (digits, afterWhole) ← takeWhole unsigned
  let afterFraction ← skipFraction afterWhole
  let rest ← skipExponent afterFraction
  if negative ∨ rest.length ≠ afterWhole.length then some (.otherNumber, rest)
  else some (.natural (Number.digitsValue digits), rest)

/-! ## Values -/

/-- What follows a word, if the letters begin with it. -/
def skipWord (word : String) (letters : List Char) : Option (List Char) :=
  if word.toList.isPrefixOf letters then some (letters.drop word.length) else none

mutual

/-- A value, and what follows it.  Each step takes a letter, so the number of
letters is fuel enough. -/
def readValue : (fuel : Nat) → List Char → Option (Json × List Char)
  | 0, _ => none
  | fuel + 1, letters =>
      match skipBlanks letters with
      | [] => none
      | '"' :: rest => (readString rest).map fun (text, rest) => (.string text, rest)
      | '[' :: rest =>
          match skipBlanks rest with
          | ']' :: rest => some (.array [], rest)
          | rest => (readItems fuel rest).map fun (items, rest) => (.array items, rest)
      | '\x7b' :: rest =>
          match skipBlanks rest with
          | '\x7d' :: rest => some (.object [], rest)
          | rest => (readFields fuel rest).map fun (fields, rest) => (.object fields, rest)
      | c :: rest =>
          if c = 'n' then (skipWord "null" (c :: rest)).map fun rest => (.null, rest)
          else if c = 't' then
            (skipWord "true" (c :: rest)).map fun rest => (.boolean true, rest)
          else if c = 'f' then
            (skipWord "false" (c :: rest)).map fun rest => (.boolean false, rest)
          else readNumber (c :: rest)

/-- Items up to the closing bracket. -/
def readItems : (fuel : Nat) → List Char → Option (List Json × List Char)
  | 0, _ => none
  | fuel + 1, letters => do
      let (item, rest) ← readValue fuel letters
      match skipBlanks rest with
      | ',' :: rest =>
          let (items, rest) ← readItems fuel rest
          some (item :: items, rest)
      | ']' :: rest => some ([item], rest)
      | _ => none

/-- Fields up to the closing brace. -/
def readFields : (fuel : Nat) → List Char → Option (List (Option String × Json) × List Char)
  | 0, _ => none
  | fuel + 1, letters => do
      match skipBlanks letters with
      | '"' :: rest =>
          let (name, rest) ← readString rest
          match skipBlanks rest with
          | ':' :: rest =>
              let (value, rest) ← readValue fuel rest
              match skipBlanks rest with
              | ',' :: rest =>
                  let (fields, rest) ← readFields fuel rest
                  some ((name, value) :: fields, rest)
              | '\x7d' :: rest => some ([(name, value)], rest)
              | _ => none
          | _ => none
      | _ => none

end

/-- The value of a whole text. -/
def ofText? (text : String) : Option Json :=
  match readValue (2 * text.toList.length + 1) text.toList with
  | some (value, rest) => if (skipBlanks rest).isEmpty then some value else none
  | none => none

end Json

end LogReplay
