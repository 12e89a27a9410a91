/-
Module: LogReplay.Bson.Reading
Purpose: Reading a document back from its byte form.
Main exports:
  Document.decode?
-/
import LogReplay.Bson.Notation
import LogReplay.Bson.Wire

/-!
Reading follows the writing field by field.  Lengths in front of documents are
skipped, since the closing zero byte ends the fields; lengths in front of texts
and of binary data are used.  Each field takes at least one byte, so the number
of bytes bounds the depth of the recursion.
-/

namespace LogReplay.Bson

open Number (Double fromLittleEndian)

/-- The first `count` bytes and the others, if there are that many. -/
def takeBytes (count : Nat) (bytes : List UInt8) : Option (List UInt8 × List UInt8) :=
  if count ≤ bytes.length then some (bytes.splitAt count) else none

/-- A number of the given width, and the bytes after it. -/
def takeNumber (width : Nat) (bytes : List UInt8) : Option (Nat × List UInt8) :=
  (takeBytes width bytes).map fun (front, rest) => (fromLittleEndian front, rest)

/-- A text up to a zero byte, and the bytes after that byte. -/
def takeTerminated (bytes : List UInt8) : Option (String × List UInt8) := do
  let text ← ofUtf8? (bytes.takeWhile (· ≠ 0))
  match bytes.dropWhile (· ≠ 0) with
  | [] => none
  | _ :: rest => some (text, rest)

/-- A text after its length, and the bytes after its closing zero. -/
def takeMeasured (bytes : List UInt8) : Option (String × List UInt8) := do
  let (size, rest) ← takeNumber 4 bytes
  let (front, rest) ← takeBytes (size - 1) rest
  let text ← ofUtf8? front
  let (_, rest) ← takeBytes 1 rest
  some (text, rest)

/-- Exactly `count` bytes as a vector, and the bytes after them. -/
def takeVector (count : Nat) (bytes : List UInt8) : Option (Vector UInt8 count × List UInt8) :=
  if enough : count ≤ bytes.length then
    some (⟨(bytes.take count).toArray, by simp [enough]⟩, bytes.drop count)
  else none

def takeBinary (bytes : List UInt8) : Option (Binary × List UInt8) := do
  let (size, rest) ← takeNumber 4 bytes
  let (subtype, rest) ← takeNumber 1 rest
  let subtype := UInt8.ofNat subtype
  if subtype = innerLengthSubtype then
    let (inner, rest) ← takeNumber 4 rest
    let (data, rest) ← takeBytes inner rest
    some (⟨subtype, data⟩, rest)
  else
    let (data, rest) ← takeBytes size rest
    some (⟨subtype, data⟩, rest)

mutual

/-- The value that a tag announces, and the bytes after it. -/
def takeValue : (fuel : Nat) → (tag : UInt8) → List UInt8 → Option (Value × List UInt8)
  | 0, _, _ => none
  | fuel + 1, tag, bytes =>
      match tag with
      | 0x01 => (takeNumber 8 bytes).map fun (n, rest) => (.double ⟨UInt64.ofNat n⟩, rest)
      | 0x02 => (takeMeasured bytes).map fun (s, rest) => (.string s, rest)
      | 0x03 => do
          let (_, rest) ← takeNumber 4 bytes
          let (fields, rest) ← takeFields fuel rest
          some (.document fields, rest)
      | 0x04 => do
          let (_, rest) ← takeNumber 4 bytes
          let (fields, rest) ← takeFields fuel rest
          some (.array (fields.map Prod.snd), rest)
      | 0x05 => (takeBinary bytes).map fun (b, rest) => (.binary b, rest)
      | 0x06 => some (.undefined, bytes)
      | 0x07 => (takeVector 12 bytes).map fun (v, rest) => (.objectId v, rest)
      | 0x08 => (takeNumber 1 bytes).map fun (n, rest) => (.boolean (n ≠ 0), rest)
      | 0x09 =>
          (takeNumber 8 bytes).map fun (n, rest) => (.dateTime (UInt64.ofNat n).toInt64, rest)
      | 0x0a => some (.null, bytes)
      | 0x0b => do
          let (pattern, rest) ← takeTerminated bytes
          let (options, rest) ← takeTerminated rest
          some (.regex pattern options, rest)
      | 0x0c => do
          let (collection, rest) ← takeMeasured bytes
          let (id, rest) ← takeVector 12 rest
          some (.dbPointer collection id, rest)
      | 0x0d => (takeMeasured bytes).map fun (s, rest) => (.javaScript s, rest)
      | 0x0e => (takeMeasured bytes).map fun (s, rest) => (.symbol s, rest)
      | 0x0f => do
          let (_, rest) ← takeNumber 4 bytes
          let (code, rest) ← takeMeasured rest
          let (_, rest) ← takeNumber 4 rest
          let (scope, rest) ← takeFields fuel rest
          some (.javaScriptWithScope code scope, rest)
      | 0x10 => (takeNumber 4 bytes).map fun (n, rest) => (.int32 (UInt32.ofNat n).toInt32, rest)
      | 0x11 => do
          let (increment, rest) ← takeNumber 4 bytes
          let (time, rest) ← takeNumber 4 rest
          some (.timestamp ⟨UInt32.ofNat time, UInt32.ofNat increment⟩, rest)
      | 0x12 => (takeNumber 8 bytes).map fun (n, rest) => (.int64 (UInt64.ofNat n).toInt64, rest)
      | 0x13 => (takeVector 16 bytes).map fun (v, rest) => (.decimal128 v, rest)
      | 0xff => some (.minKey, bytes)
      | 0x7f => some (.maxKey, bytes)
      | _ => none

/-- Fields up to the closing zero byte, and the bytes after it. -/
def takeFields : (fuel : Nat) → List UInt8 → Option (List (String × Value) × List UInt8)
  | 0, _ => none
  | _ + 1, [] => none
  | fuel + 1, tag :: rest =>
      if tag = 0 then some ([], rest)
      else do
        let (name, rest) ← takeTerminated rest
        let (value, rest) ← takeValue fuel tag rest
        let (fields, rest) ← takeFields fuel rest
        some ((name, value) :: fields, rest)

end

/-- The document that the bytes are the form of. -/
def Document.decode? (bytes : List UInt8) : Option Document := do
  let (_, rest) ← takeNumber 4 bytes
  let (fields, _) ← takeFields bytes.length rest
  some fields

end LogReplay.Bson
