/-
Module: LogReplay.Bson.Tag
Purpose: The names by which a document says that it stands for another value, and the
  values that their contents stand for.
Main exports:
  Tag, Tag.ofName?, Tag.ofText?, Tag.read, Tag.written?
-/
import LogReplay.Bson.Canonical
import LogReplay.Bson.Document
import LogReplay.Bson.Notation
import LogReplay.Number.Reading
import LogReplay.Text.Bytes
import LogReplay.Text.Calendar
import LogReplay.Text.Visible

/-!
Where only plain values can be noted, a value of another kind is noted as a document
whose one name is a tag, such as `$oid` or `$date`.  The tag is looked for twice, and
differently each time.

When a document is read, a tag is met among its fields, and its content is read like a
record: a document without other fields than the wanted ones, or an array of their
values in order.  Texts may come as generic bytes.  A content that does not fit is an
error.

When a document is written, the tag has to be its only name, and the content is looked
up field by field.  A content that does not fit leaves the document as it is.  Some
contents are accepted in one direction only: identifiers under `$uuid` when they are
read, and a double under `$numberDouble` when it is written, where reading accepts a
whole number in its place.
-/

namespace LogReplay.Bson

open Number (Decimal Double)
open Text (Base64.decode? Calendar.millisecondsOf? Hexadecimal.bytes? Uuid.bytes? quoted)

inductive Tag where
  | objectId
  | symbol
  | int32
  | int64
  | double
  | decimal
  | decimalBytes
  | binary
  | uuid
  | code
  /-- Stands beside the code that it belongs to. -/
  | scope
  | timestamp
  | regex
  | dbPointer
  | date
  | minKey
  | maxKey
  | undefined
deriving DecidableEq, Repr

namespace Tag

def ofName? : String → Option Tag
  | "$oid" => some objectId
  | "$symbol" => some symbol
  | "$numberInt" => some int32
  | "$numberLong" => some int64
  | "$numberDouble" => some double
  | "$numberDecimal" => some decimal
  | "$numberDecimalBytes" => some decimalBytes
  | "$binary" => some binary
  | "$uuid" => some uuid
  | "$code" => some code
  | "$scope" => some scope
  | "$timestamp" => some timestamp
  | "$regularExpression" => some regex
  | "$dbPointer" => some dbPointer
  | "$date" => some date
  | "$minKey" => some minKey
  | "$maxKey" => some maxKey
  | "$undefined" => some undefined
  | _ => none

/-- What the content of a tag has to be, in the words of a message. -/
def wanted : Tag → String
  | objectId => "a 12-byte object identifier in hexadecimal digits"
  | symbol | code => "a string"
  | int32 => "32-bit signed integer as a string"
  | int64 | double => "64-bit signed integer as a string"
  | decimal => "decimal128 as a string"
  | decimalBytes => "the 16 bytes of a decimal128"
  | binary => "base64 encoded bytes and a subtype"
  | uuid => "a uuid as a string"
  | scope => "a document"
  | timestamp => "the two parts of a timestamp"
  | regex => "a pattern and its options"
  | dbPointer => "a namespace and an object identifier"
  | date => "a date"
  | minKey | maxKey => "the integer 1"
  | undefined => "true"

/-! ## Contents -/

/-- So many bytes, no fewer and no more. -/
def vector? (count : Nat) (bytes : List UInt8) : Option (Vector UInt8 count) :=
  if exact : bytes.length = count then some ⟨bytes.toArray, by simpa using exact⟩ else none

/-- Bytes that are nothing but bytes. -/
def genericBytes? : Value → Option (List UInt8)
  | .binary data => if data.subtype = genericSubtype then some data.bytes else none
  | _ => none

/-- An unsigned integer of 32 bits. -/
def word? : Value → Option UInt32
  | .int32 n => if 0 ≤ n.toInt then some n.toUInt32 else none
  | .int64 n => if n.toUInt64.toNat < 2 ^ 32 then some n.toUInt64.toUInt32 else none
  | _ => none

def isOne : Value → Bool
  | .int32 n => n == 1
  | .int64 n => n == 1
  | _ => false

/-- The parts of a record by their names: the fields of a document that has no others,
or the leading items of an array. -/
def record? (names : List String) : Value → Option (List Value)
  | .document fields =>
      if (Document.names fields).all names.contains then
        names.mapM fun name => Document.field? fields name
      else none
  | .array items => if names.length ≤ items.length then some (items.take names.length) else none
  | _ => none

/-- The three doubles that are no numbers in digits. -/
def unusualDouble? (text : String) : Option Double :=
  if text = "Infinity" then some (.infinity false)
  else if text = "-Infinity" then some (.infinity true)
  else if text = "NaN" then some .nan
  else none

/-- Bytes in the alphabet of sixty-four letters, and a subtype in two digits. -/
def binaryOfTexts? (letters subtype : String) : Option Value :=
  match Base64.decode? letters, Hexadecimal.bytes? subtype with
  | some bytes, some [subtype] => some (.binary ⟨subtype, bytes⟩)
  | _, _ => none

def objectIdOfText? (text : String) : Option (Vector UInt8 12) :=
  (Hexadecimal.bytes? text).bind (vector? 12)

/-- The value that a text stands for under a tag. -/
def ofText? : Tag → String → Option Value
  | objectId, text => (objectIdOfText? text).map .objectId
  | symbol, text => some (.symbol text)
  | int32, text => ((Number.whole? text.toList).bind Number.int32?).map .int32
  | int64, text => ((Number.whole? text.toList).bind Number.int64?).map .int64
  | double, text => (unusualDouble? text).map .double
  | decimal, text => (Decimal.bytesOfText? text).map .decimal128
  | code, text => some (.javaScript text)
  | date, text =>
      ((Calendar.millisecondsOf? text).bind Number.int64?).map .dateTime
  | _, _ => none

/-! ## Reading -/

/-- The identifier in a pointer: itself, or noted under its tag. -/
def pointedId? : Value → Option (Vector UInt8 12)
  | .objectId id => some id
  | other =>
      match record? ["$oid"] other with
      | some [text] => text.characters?.bind objectIdOfText?
      | _ => none

/-- The identifier of the subtype of universally unique identifiers. -/
def uuidSubtype : UInt8 :=
  4

/-- The value that a content stands for when it is read.  Code and its scope are read
together with the field after them, and not here. -/
def read? (tag : Tag) (content : Value) : Option Value :=
  match tag with
  | objectId =>
      match genericBytes? content with
      | some bytes => (vector? 12 bytes).map .objectId
      | none => content.text?.bind objectId.ofText?
  | symbol => content.characters?.bind symbol.ofText?
  | int32 => content.characters?.bind int32.ofText?
  | int64 => content.characters?.bind int64.ofText?
  | double => content.characters?.bind fun text => (double.ofText? text).or (int64.ofText? text)
  | decimal => content.characters?.bind decimal.ofText?
  | decimalBytes => ((genericBytes? content).bind (vector? 16)).map .decimal128
  | binary =>
      match (record? ["base64", "subType"] content).map (·.map Value.characters?) with
      | some [some letters, some subtype] => binaryOfTexts? letters subtype
      | _ => none
  | uuid => (content.characters?.bind Uuid.bytes?).map fun bytes => .binary ⟨uuidSubtype, bytes⟩
  | timestamp =>
      match (record? ["t", "i"] content).map (·.map word?) with
      | some [some time, some increment] => some (.timestamp ⟨time, increment⟩)
      | _ => none
  | regex =>
      match (record? ["pattern", "options"] content).map (·.map Value.characters?) with
      | some [some pattern, some options] => some (.regex pattern (sortLetters options))
      | _ => none
  | dbPointer =>
      match record? ["$ref", "$id"] content with
      | some [collection, id] =>
          match collection.characters?, pointedId? id with
          | some collection, some id => some (.dbPointer collection id)
          | _, _ => none
      | _ => none
  | date =>
      match content with
      | .int32 n => some (.dateTime n.toInt64)
      | .int64 n => some (.dateTime n)
      | other =>
          match record? ["$numberLong"] other with
          | some [text] =>
              (text.characters?.bind fun text =>
                (Number.whole? text.toList).bind Number.int64?).map .dateTime
          | _ => other.characters?.bind date.ofText?
  | minKey => if isOne content then some .minKey else none
  | maxKey => if isOne content then some .maxKey else none
  | undefined => if content = .boolean true then some .undefined else none
  | code | scope => none

/-- Why a content cannot be read. -/
def refusal (tag : Tag) (content : Value) : String :=
  match content.characters? with
  | some text => "invalid value: string " ++ quoted text ++ ", expected " ++ tag.wanted
  | none => "invalid type: " ++ content.kind.name ++ ", expected " ++ tag.wanted

def read (tag : Tag) (content : Value) : Except String Value :=
  match tag.read? content with
  | some value => .ok value
  | none => .error (tag.refusal content)

/-! ## Writing -/

/-- A timestamp of two integers of the same width.  A negative one of 32 bits is taken
for the unsigned integer of the same bits. -/
def writtenTimestamp? (fields : Document) : Option Value :=
  match fields.field? "t", fields.field? "i" with
  | some (.int32 time), some (.int32 increment) =>
      some (.timestamp ⟨time.toUInt32, increment.toUInt32⟩)
  | some (.int64 time), some (.int64 increment) =>
      match word? (.int64 time), word? (.int64 increment) with
      | some time, some increment => some (.timestamp ⟨time, increment⟩)
      | _, _ => none
  | _, _ => none

/-- Bytes that are noted in letters, or as they are. -/
def writtenBinary? (fields : Document) : Option Value :=
  match fields.text? "base64" with
  | some letters => (fields.text? "subType").bind (binaryOfTexts? letters)
  | none =>
      match (fields.field? "bytes").bind genericBytes?, fields.field? "subType" with
      | some bytes, some (.int32 n) =>
          if n.toUInt32.toNat < 2 ^ 8 then some (.binary ⟨n.toUInt32.toUInt8, bytes⟩) else none
      | _, _ => none

/-- The value that a content stands for when it is written. -/
def written? (tag : Tag) (content : Value) : Option Value :=
  match tag with
  | objectId | symbol | int32 | int64 | decimal | code => content.text?.bind tag.ofText?
  | double =>
      content.text?.bind fun text => (double.ofText? text).or ((Double.ofText? text).map .double)
  | decimalBytes => ((genericBytes? content).bind (vector? 16)).map .decimal128
  | binary => content.document?.bind writtenBinary?
  | timestamp => content.document?.bind writtenTimestamp?
  | regex => content.document?.bind fun fields =>
      match fields.text? "pattern", fields.text? "options" with
      | some pattern, some options => some (.regex pattern (sortLetters options))
      | _, _ => none
  | dbPointer => content.document?.bind fun fields =>
      match fields.text? "$ref", fields.field? "$id" with
      | some collection, some (.objectId id) => some (.dbPointer collection id)
      | _, _ => none
  | date =>
      match content with
      | .int64 n => some (.dateTime n)
      | other => other.text?.bind date.ofText?
  | minKey => if isOne content then some .minKey else none
  | maxKey => if isOne content then some .maxKey else none
  | undefined => if content = .boolean true then some .undefined else none
  | uuid | scope => none

end Tag

end LogReplay.Bson
