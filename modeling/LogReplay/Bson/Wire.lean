/-
Module: LogReplay.Bson.Wire
Purpose: The byte form of documents, its length, and which documents have one.
Main exports:
  Document.encode, Document.wireSize, Document.isEncodable, length_encode
-/
import LogReplay.Bson.Canonical

/-!
A document is written as its total length, its fields and a closing zero byte; a
field is a tag byte for its kind, its name with a closing zero, and its value.
An array is written as a document whose names are the decimal indices.

Names, and the two parts of a regular expression, end at the first zero byte, so
a document in which one of them contains NUL has no byte form.  Text values
carry their length and may contain NUL.

`length_encode` says that `wireSize` computes the length without writing the
bytes.
-/

namespace LogReplay.Bson

open Number (littleEndian length_littleEndian)

/-- The bytes of a text. -/
def utf8 (text : String) : List UInt8 :=
  text.toByteArray.data.toList

/-- A text that ends at a zero byte. -/
def terminated (text : String) : List UInt8 :=
  utf8 text ++ [0]

/-- A text after its length, with a closing zero that the length counts. -/
def measured (text : String) : List UInt8 :=
  littleEndian 4 ((utf8 text).length + 1) ++ terminated text

/-- Fields between their length and a closing zero; the length counts itself. -/
def framed (body : List UInt8) : List UInt8 :=
  littleEndian 4 (body.length + 5) ++ body ++ [0]

/-- The subtype whose bytes carry an inner length of their own. -/
def innerLengthSubtype : UInt8 :=
  2

def Binary.encode (b : Binary) : List UInt8 :=
  if b.subtype = innerLengthSubtype then
    littleEndian 4 (b.bytes.length + 4) ++ b.subtype ::
      (littleEndian 4 b.bytes.length ++ b.bytes)
  else littleEndian 4 b.bytes.length ++ b.subtype :: b.bytes

def Timestamp.encode (t : Timestamp) : List UInt8 :=
  littleEndian 4 t.increment.toNat ++ littleEndian 4 t.time.toNat

/-- The tag byte of a kind. -/
def Kind.tag : Kind → UInt8
  | .double => 0x01
  | .string => 0x02
  | .document => 0x03
  | .array => 0x04
  | .binary => 0x05
  | .undefined => 0x06
  | .objectId => 0x07
  | .boolean => 0x08
  | .dateTime => 0x09
  | .null => 0x0a
  | .regex => 0x0b
  | .dbPointer => 0x0c
  | .javaScript => 0x0d
  | .symbol => 0x0e
  | .javaScriptWithScope => 0x0f
  | .int32 => 0x10
  | .timestamp => 0x11
  | .int64 => 0x12
  | .decimal128 => 0x13
  | .minKey => 0xff
  | .maxKey => 0x7f

mutual

/-- The bytes of a value, without tag and name. -/
def Value.encode : Value → List UInt8
  | .double x => littleEndian 8 x.bits.toNat
  | .string s => measured s
  | .document fields => framed (encodeFields fields)
  | .array items => framed (encodeItems 0 items)
  | .binary b => b.encode
  | .undefined => []
  | .objectId bytes => bytes.toList
  | .boolean flag => [if flag then 1 else 0]
  | .dateTime ms => littleEndian 8 ms.toUInt64.toNat
  | .null => []
  | .regex pattern options => terminated pattern ++ terminated (sortLetters options)
  | .dbPointer collection id => measured collection ++ id.toList
  | .javaScript code => measured code
  | .symbol s => measured s
  | .javaScriptWithScope code scope =>
      let body := measured code ++ framed (encodeFields scope)
      littleEndian 4 (body.length + 4) ++ body
  | .int32 n => littleEndian 4 n.toUInt32.toNat
  | .timestamp t => t.encode
  | .int64 n => littleEndian 8 n.toUInt64.toNat
  | .decimal128 bytes => bytes.toList
  | .minKey => []
  | .maxKey => []

def encodeFields : List (String × Value) → List UInt8
  | [] => []
  | (name, value) :: rest =>
      value.kind.tag :: (terminated name ++ (value.encode ++ encodeFields rest))

/-- The items of an array from an index on. -/
def encodeItems (index : Nat) : List Value → List UInt8
  | [] => []
  | item :: rest =>
      item.kind.tag ::
        (terminated (toString index) ++ (item.encode ++ encodeItems (index + 1) rest))

end

def Document.encode (d : Document) : List UInt8 :=
  framed (encodeFields d)

/-- A text without a zero byte can be written with a closing one. -/
def isTerminable (text : String) : Bool :=
  !(utf8 text).contains 0

mutual

def Value.isEncodable : Value → Bool
  | .document fields => areEncodable fields
  | .array items => areEncodableItems items
  | .regex pattern options => isTerminable pattern && isTerminable options
  | .javaScriptWithScope _ scope => areEncodable scope
  | _ => true

def areEncodable : List (String × Value) → Bool
  | [] => true
  | (name, value) :: rest => isTerminable name && value.isEncodable && areEncodable rest

def areEncodableItems : List Value → Bool
  | [] => true
  | item :: rest => item.isEncodable && areEncodableItems rest

end

/-- No name, pattern or option text contains NUL, at any depth. -/
def Document.isEncodable (d : Document) : Bool :=
  areEncodable d

mutual

/-- The number of bytes of a value, without tag and name. -/
def Value.wireSize : Value → Nat
  | .double _ => 8
  | .string s => s.utf8ByteSize + 5
  | .document fields => fieldsWireSize fields + 5
  | .array items => itemsWireSize 0 items + 5
  | .binary b => b.bytes.length + (if b.subtype = innerLengthSubtype then 9 else 5)
  | .undefined => 0
  | .objectId _ => 12
  | .boolean _ => 1
  | .dateTime _ => 8
  | .null => 0
  | .regex pattern options => pattern.utf8ByteSize + 1 + ((sortLetters options).utf8ByteSize + 1)
  | .dbPointer collection _ => collection.utf8ByteSize + 17
  | .javaScript code => code.utf8ByteSize + 5
  | .symbol s => s.utf8ByteSize + 5
  | .javaScriptWithScope code scope => code.utf8ByteSize + fieldsWireSize scope + 14
  | .int32 _ => 4
  | .timestamp _ => 8
  | .int64 _ => 8
  | .decimal128 _ => 16
  | .minKey => 0
  | .maxKey => 0

def fieldsWireSize : List (String × Value) → Nat
  | [] => 0
  | (name, value) :: rest => name.utf8ByteSize + 2 + value.wireSize + fieldsWireSize rest

def itemsWireSize (index : Nat) : List Value → Nat
  | [] => 0
  | item :: rest =>
      (toString index).utf8ByteSize + 2 + item.wireSize + itemsWireSize (index + 1) rest

end

/-- The number of bytes of a document. -/
def Document.wireSize (d : Document) : Nat :=
  fieldsWireSize d + 5

@[simp] theorem length_utf8 (text : String) : (utf8 text).length = text.utf8ByteSize :=
  rfl

theorem length_terminated (text : String) :
    (terminated text).length = text.utf8ByteSize + 1 := by
  simp [terminated]

theorem length_measured (text : String) : (measured text).length = text.utf8ByteSize + 5 := by
  simp [measured, length_terminated]
  omega

theorem length_framed (body : List UInt8) : (framed body).length = body.length + 5 := by
  simp [framed]
  omega

theorem Binary.length_encode (b : Binary) :
    b.encode.length = b.bytes.length + (if b.subtype = innerLengthSubtype then 9 else 5) := by
  by_cases h : b.subtype = innerLengthSubtype <;> simp [Binary.encode, h] <;> omega

mutual

theorem Value.length_encode : ∀ v : Value, v.encode.length = v.wireSize
  | .document fields => by
      simp only [Value.encode, Value.wireSize, length_framed]
      rw [length_encodeFields fields]
  | .array items => by
      simp only [Value.encode, Value.wireSize, length_framed]
      rw [length_encodeItems 0 items]
  | .javaScriptWithScope code scope => by
      have inner := length_encodeFields scope
      simp only [Value.encode, Value.wireSize, List.length_append, length_littleEndian,
        length_measured, length_framed]
      omega
  | .binary b => by
      simp only [Value.encode, Value.wireSize]
      exact b.length_encode
  | .string _ | .javaScript _ | .symbol _ | .dbPointer _ _ => by
      simp [Value.encode, Value.wireSize, length_measured]
  | .regex _ _ => by simp [Value.encode, Value.wireSize, length_terminated]
  | .double _ | .undefined | .objectId _ | .boolean _ | .dateTime _ | .null | .int32 _
  | .timestamp _ | .int64 _ | .decimal128 _ | .minKey | .maxKey => by
      simp [Value.encode, Value.wireSize, Timestamp.encode]

theorem length_encodeFields :
    ∀ fs : List (String × Value), (encodeFields fs).length = fieldsWireSize fs
  | [] => rfl
  | (name, value) :: rest => by
      have head := value.length_encode
      have tail := length_encodeFields rest
      simp only [encodeFields, fieldsWireSize, List.length_cons, List.length_append,
        length_terminated]
      omega

theorem length_encodeItems :
    ∀ (index : Nat) (xs : List Value), (encodeItems index xs).length = itemsWireSize index xs
  | _, [] => rfl
  | index, item :: rest => by
      have head := item.length_encode
      have tail := length_encodeItems (index + 1) rest
      simp only [encodeItems, itemsWireSize, List.length_cons, List.length_append,
        length_terminated]
      omega

end

/-- The size is the length of the bytes. -/
theorem Document.length_encode (d : Document) : d.encode.length = d.wireSize := by
  simp [Document.encode, Document.wireSize, length_framed, length_encodeFields]

end LogReplay.Bson
