/-
Module: LogReplay.Text.Bytes
Purpose: Bytes as text: in hexadecimal digits, in sixty-four letters, and as a
  universally unique identifier.
Main exports:
  Hexadecimal.ofNat, Hexadecimal.ofBytes, Hexadecimal.bytes?, Base64.encode,
  Base64.decode?, Uuid.bytes?
-/
import LogReplay.Number.Basic

/-!
In hexadecimal digits each byte takes two, in lower case when they are written, and
in either case when they are read.

In the standard alphabet of sixty-four letters three bytes are twenty-four bits,
written as four letters of six bits each.  One or two bytes at the end are filled up
with zero bits, and the letters that hold nothing but filling are written as `=`.
When they are read, these may be missing, and the filling has to be zero.
-/

namespace LogReplay.Text

namespace Hexadecimal

/-- A number in as many digits as it needs. -/
def ofNat (n : Nat) : String :=
  String.ofList (Nat.toDigits 16 n)

/-- The digit of a number below sixteen. -/
def digit (n : Nat) : Char :=
  Nat.digitChar n

/-- Two digits for each byte. -/
def ofBytes (bytes : List UInt8) : String :=
  String.ofList (bytes.flatMap fun b => [digit (b.toNat / 16), digit (b.toNat % 16)])

/-- The number that a digit stands for. -/
def value? (c : Char) : Option Nat :=
  if '0' ≤ c ∧ c ≤ '9' then some (c.toNat - '0'.toNat)
  else if 'a' ≤ c ∧ c ≤ 'f' then some (c.toNat - 'a'.toNat + 10)
  else if 'A' ≤ c ∧ c ≤ 'F' then some (c.toNat - 'A'.toNat + 10)
  else none

/-- The bytes of pairs of digits. -/
def bytesOfDigits? : List Char → Option (List UInt8)
  | [] => some []
  | [_] => none
  | high :: low :: rest => do
      let high ← value? high
      let low ← value? low
      let bytes ← bytesOfDigits? rest
      some (UInt8.ofNat (16 * high + low) :: bytes)

def bytes? (text : String) : Option (List UInt8) :=
  bytesOfDigits? text.toList

example : bytes? "4dAf" = some [0x4d, 0xaf] := by decide
example : bytes? "4da" = none := by decide

end Hexadecimal

namespace Base64

/-- The letter of a number below sixty-four. -/
def letter (n : Nat) : Char :=
  if n < 26 then Char.ofNat ('A'.toNat + n)
  else if n < 52 then Char.ofNat ('a'.toNat + (n - 26))
  else if n < 62 then Char.ofNat ('0'.toNat + (n - 52))
  else if n = 62 then '+'
  else '/'

/-- The letters of the six-bit digits of a twenty-four bit number. -/
def quartet (n : Nat) : List Char :=
  [n / 2 ^ 18 % 64, n / 2 ^ 12 % 64, n / 2 ^ 6 % 64, n % 64].map letter

def letters : List UInt8 → List Char
  | [] => []
  | [a] => (quartet (a.toNat * 2 ^ 16)).take 2 ++ ['=', '=']
  | [a, b] => (quartet (a.toNat * 2 ^ 16 + b.toNat * 2 ^ 8)).take 3 ++ ['=']
  | a :: b :: c :: rest =>
      quartet (a.toNat * 2 ^ 16 + b.toNat * 2 ^ 8 + c.toNat) ++ letters rest

def encode (bytes : List UInt8) : String :=
  String.ofList (letters bytes)

/-- The number that a letter stands for. -/
def value? (c : Char) : Option Nat :=
  if 'A' ≤ c ∧ c ≤ 'Z' then some (c.toNat - 'A'.toNat)
  else if 'a' ≤ c ∧ c ≤ 'z' then some (c.toNat - 'a'.toNat + 26)
  else if '0' ≤ c ∧ c ≤ '9' then some (c.toNat - '0'.toNat + 52)
  else if c = '+' then some 62
  else if c = '/' then some 63
  else none

/-- The bytes of six-bit digits.  The bits after the last byte are filling. -/
def bytesOfDigits? : List Nat → Option (List UInt8)
  | [] => some []
  | [_] => none
  | [a, b] => if b % 16 = 0 then some [UInt8.ofNat (4 * a + b / 16)] else none
  | [a, b, c] =>
      if c % 4 = 0 then
        some [UInt8.ofNat (4 * a + b / 16), UInt8.ofNat (16 * (b % 16) + c / 4)]
      else none
  | a :: b :: c :: d :: rest => do
      let bytes ← bytesOfDigits? rest
      some (UInt8.ofNat (4 * a + b / 16) :: UInt8.ofNat (16 * (b % 16) + c / 4) ::
        UInt8.ofNat (64 * (c % 4) + d) :: bytes)

/-- Reads letters, and at most as many `=` as complete the last four of them. -/
def decode? (text : String) : Option (List UInt8) := do
  let lettered := text.toList.takeWhile (· ≠ '=')
  let padding := text.toList.drop lettered.length
  if padding.all (· = '=') ∧ padding.length ≤ (4 - lettered.length % 4) % 4 then
    let digits ← lettered.mapM value?
    bytesOfDigits? digits
  else none

example : encode [0x4d, 0x61, 0x6e] = "TWFu" := by decide
example : encode [0x4d] = "TQ==" := by decide
example : decode? "TWFuTQ==" = some [0x4d, 0x61, 0x6e, 0x4d] := by decide
example : decode? "TR==" = none := by decide

end Base64

namespace Uuid

/-- The hyphens stand after eight, four, four and four of the thirty-two digits. -/
def areGrouped (letters : List Char) : Bool :=
  letters.length == 36 && [8, 13, 18, 23].all fun place => letters[place]? == some '-'

/-- The digits of an identifier: all together, or in groups, which may stand between
braces or after `urn:uuid:`. -/
def digits? (letters : List Char) : Option (List Char) :=
  let bare :=
    if letters.length = 38 ∧ letters.head? = some '\x7b' ∧ letters.getLast? = some '\x7d' then
      (letters.drop 1).dropLast
    else if "urn:uuid:".toList.isPrefixOf letters then letters.drop 9
    else letters
  if letters.length = 32 then some letters
  else if areGrouped bare then some (bare.filter (· ≠ '-'))
  else none

/-- The sixteen bytes of an identifier. -/
def bytes? (text : String) : Option (List UInt8) := do
  let digits ← digits? text.toList
  let bytes ← Hexadecimal.bytesOfDigits? digits
  if bytes.length = 16 then some bytes else none

example : (bytes? "\x7b00112233-4455-6677-8899-aabbccddeeff\x7d").isSome = true := by decide
example : bytes? "00112233-44556677-8899-aabb-ccddeeff" = none := by decide

end Uuid

end LogReplay.Text
