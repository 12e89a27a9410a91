/-
Module: LogReplay.Bson.Text
Purpose: Values as text, for messages and for showing identities.
Main exports:
  Value.text, Document.text
-/
import LogReplay.Bson.Value
import LogReplay.Number.Decimal
import LogReplay.Number.Shortest
import LogReplay.Text.Bytes
import LogReplay.Text.Calendar

/-!
The text is for reading, not for reading back: strings stand between quotes but
are not escaped, the two integer widths look alike, code is shown bare, and a
moment is shown by its date and time of day.
-/

namespace LogReplay.Bson

open Text (Base64.encode Calendar.moment Hexadecimal.ofBytes Hexadecimal.ofNat)
open Number (Decimal)

def Timestamp.text (t : Timestamp) : String :=
  "Timestamp(" ++ toString t.time.toNat ++ ", " ++ toString t.increment.toNat ++ ")"

def Binary.text (b : Binary) : String :=
  "Binary(0x" ++ Hexadecimal.ofNat b.subtype.toNat ++ ", " ++ Base64.encode b.bytes ++ ")"

mutual

def Value.text : Value → String
  | .double x => x.text
  | .string s => "\"" ++ s ++ "\""
  | .document [] => "\x7b\x7d"
  | .document ((name, value) :: rest) =>
      "\x7b \"" ++ name ++ "\": " ++ value.text ++ fieldsText rest ++ " \x7d"
  | .array [] => "[]"
  | .array (item :: rest) => "[" ++ item.text ++ itemsText rest ++ "]"
  | .binary b => b.text
  | .undefined => "undefined"
  | .objectId bytes => "ObjectId(\"" ++ Hexadecimal.ofBytes bytes.toList ++ "\")"
  | .boolean flag => if flag then "true" else "false"
  | .dateTime ms => "DateTime(\"" ++ Calendar.moment ms.toInt ++ "\")"
  | .null => "null"
  | .regex pattern options => "/" ++ pattern ++ "/" ++ options
  | .dbPointer collection id =>
      "DBPointer(" ++ collection ++ ", " ++ Hexadecimal.ofBytes id.toList ++ ")"
  | .javaScript code => code
  | .symbol s => "Symbol(\"" ++ s ++ "\")"
  | .javaScriptWithScope code _ => code
  | .int32 n => toString n.toInt
  | .timestamp t => t.text
  | .int64 n => toString n.toInt
  | .decimal128 bytes => (Decimal.ofBytes bytes).text
  | .minKey => "MinKey"
  | .maxKey => "MaxKey"

/-- The fields after the first. -/
def fieldsText : List (String × Value) → String
  | [] => ""
  | (name, value) :: rest => ", \"" ++ name ++ "\": " ++ value.text ++ fieldsText rest

/-- The items after the first. -/
def itemsText : List Value → String
  | [] => ""
  | item :: rest => ", " ++ item.text ++ itemsText rest

end

def Document.text (d : Document) : String :=
  (Value.document d).text

end LogReplay.Bson
