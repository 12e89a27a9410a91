/-
Module: LogReplay.Bson.Notation
Purpose: How values look where only numbers, truth values, texts, bytes, lists
  and records are told apart.
Main exports:
  ofUtf8?, Value.characters?, Value.isTagged
-/
import LogReplay.Bson.Value

/-!
A reader that does not know all the kinds still meets their values.  Bytes of the
generic subtype are just bytes, and where a text is wanted they count as the text
that they encode.  Every other kind beyond the plain ones, such as a timestamp or
bytes with a meaning of their own, is noted as a record whose only names are tags
of its kind; to a reader of records it is one in which none of the wanted fields
occurs.
-/

namespace LogReplay.Bson

/-- The text whose bytes these are, if there is one. -/
def ofUtf8? (bytes : List UInt8) : Option String :=
  String.fromUTF8? ⟨bytes.toArray⟩

/-- The subtype of bytes that are nothing but bytes. -/
def genericSubtype : UInt8 :=
  0

namespace Value

/-- A string, or generic bytes that encode one. -/
def characters? : Value → Option String
  | .string text => some text
  | .binary data => if data.subtype = genericSubtype then ofUtf8? data.bytes else none
  | _ => none

/-- The value is noted as a record under a tag. -/
def isTagged : Value → Bool
  | .double _ | .string _ | .document _ | .array _ | .boolean _ | .null | .int32 _
  | .int64 _ => false
  | .binary data => data.subtype ≠ genericSubtype
  | .undefined | .objectId _ | .dateTime _ | .regex _ _ | .dbPointer _ _ | .javaScript _
  | .symbol _ | .javaScriptWithScope _ _ | .timestamp _ | .decimal128 _ | .minKey
  | .maxKey => true

end Value

end LogReplay.Bson
