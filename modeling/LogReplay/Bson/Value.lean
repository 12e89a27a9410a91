/-
Module: LogReplay.Bson.Value
Purpose: The typed values that entries, commands and replies are made of.
Main exports:
  Timestamp, Binary, Value, Document, Kind, Value.kind
-/
import LogReplay.Number.Double

/-!
A document is an ordered list of named values.  The order is part of the data:
commands are recognised by their first name, and index keys are compared name
by name.  Reading functions take the first field of a name, so a list with a
repeated name still has one meaning.

Equality of values is decidable and exact: kinds are never mixed, doubles agree
bit for bit, and fields agree in their order.
-/

namespace LogReplay.Bson

open Number (Double)

/-- A point in the log: seconds, and an ordinal within the second. -/
structure Timestamp where
  time : UInt32
  increment : UInt32
deriving DecidableEq, Repr, Inhabited

namespace Timestamp

/-- The timestamp that stands for "no point in the log". -/
def zero : Timestamp :=
  ⟨0, 0⟩

def isZero (t : Timestamp) : Bool :=
  t == zero

/-- Timestamps are ordered by time, then by increment. -/
def before (s t : Timestamp) : Bool :=
  s.time < t.time || s.time == t.time && s.increment < t.increment

end Timestamp

/-- Bytes with a tag that says how to read them. -/
structure Binary where
  subtype : UInt8
  bytes : List UInt8
deriving DecidableEq, Repr, Inhabited

/-- One typed value. -/
inductive Value where
  | double (x : Double)
  | string (text : String)
  | document (fields : List (String × Value))
  | array (items : List Value)
  | binary (data : Binary)
  | undefined
  | objectId (bytes : Vector UInt8 12)
  | boolean (flag : Bool)
  | dateTime (milliseconds : Int64)
  | null
  | regex (pattern options : String)
  /-- A document of another collection. -/
  | dbPointer (collection : String) (id : Vector UInt8 12)
  | javaScript (code : String)
  | symbol (text : String)
  | javaScriptWithScope (code : String) (scope : List (String × Value))
  | int32 (n : Int32)
  | timestamp (t : Timestamp)
  | int64 (n : Int64)
  | decimal128 (bytes : Vector UInt8 16)
  | minKey
  | maxKey

/-- Named values in order. -/
abbrev Document :=
  List (String × Value)

instance : Inhabited Value :=
  ⟨.null⟩

/-- The type of a value. -/
inductive Kind where
  | double | string | document | array | binary | undefined | objectId | boolean
  | dateTime | null | regex | dbPointer | javaScript | symbol | javaScriptWithScope
  | int32 | timestamp | int64 | decimal128 | minKey | maxKey
deriving DecidableEq, Repr

/-- The name by which messages call a kind. -/
def Kind.name : Kind → String
  | .double => "Double"
  | .string => "String"
  | .document => "EmbeddedDocument"
  | .array => "Array"
  | .binary => "Binary"
  | .undefined => "Undefined"
  | .objectId => "ObjectId"
  | .boolean => "Boolean"
  | .dateTime => "DateTime"
  | .null => "Null"
  | .regex => "RegularExpression"
  | .dbPointer => "DbPointer"
  | .javaScript => "JavaScriptCode"
  | .symbol => "Symbol"
  | .javaScriptWithScope => "JavaScriptCodeWithScope"
  | .int32 => "Int32"
  | .timestamp => "Timestamp"
  | .int64 => "Int64"
  | .decimal128 => "Decimal128"
  | .minKey => "MinKey"
  | .maxKey => "MaxKey"

namespace Value

/-- Forgets everything but the type. -/
def kind : Value → Kind
  | .double _ => .double
  | .string _ => .string
  | .document _ => .document
  | .array _ => .array
  | .binary _ => .binary
  | .undefined => .undefined
  | .objectId _ => .objectId
  | .boolean _ => .boolean
  | .dateTime _ => .dateTime
  | .null => .null
  | .regex _ _ => .regex
  | .dbPointer _ _ => .dbPointer
  | .javaScript _ => .javaScript
  | .symbol _ => .symbol
  | .javaScriptWithScope _ _ => .javaScriptWithScope
  | .int32 _ => .int32
  | .timestamp _ => .timestamp
  | .int64 _ => .int64
  | .decimal128 _ => .decimal128
  | .minKey => .minKey
  | .maxKey => .maxKey

def document? : Value → Option Document
  | .document fields => some fields
  | _ => none

def text? : Value → Option String
  | .string text => some text
  | _ => none

def timestamp? : Value → Option Timestamp
  | .timestamp t => some t
  | _ => none

def binary? : Value → Option Binary
  | .binary data => some data
  | _ => none

mutual

/-- Exact agreement of two values. -/
def same : Value → Value → Bool
  | .double x, .double y => x == y
  | .string s, .string t => s == t
  | .document fs, .document gs => sameFields fs gs
  | .array xs, .array ys => sameItems xs ys
  | .binary x, .binary y => x == y
  | .undefined, .undefined => true
  | .objectId x, .objectId y => x == y
  | .boolean x, .boolean y => x == y
  | .dateTime x, .dateTime y => x == y
  | .null, .null => true
  | .regex p o, .regex q r => p == q && o == r
  | .dbPointer s x, .dbPointer t y => s == t && x == y
  | .javaScript s, .javaScript t => s == t
  | .symbol s, .symbol t => s == t
  | .javaScriptWithScope s fs, .javaScriptWithScope t gs => s == t && sameFields fs gs
  | .int32 x, .int32 y => x == y
  | .timestamp x, .timestamp y => x == y
  | .int64 x, .int64 y => x == y
  | .decimal128 x, .decimal128 y => x == y
  | .minKey, .minKey => true
  | .maxKey, .maxKey => true
  | _, _ => false

def sameFields : List (String × Value) → List (String × Value) → Bool
  | [], [] => true
  | (k, x) :: fs, (l, y) :: gs => k == l && same x y && sameFields fs gs
  | _, _ => false

def sameItems : List Value → List Value → Bool
  | [], [] => true
  | x :: xs, y :: ys => same x y && sameItems xs ys
  | _, _ => false

end

mutual

theorem eq_of_same : ∀ x y : Value, same x y = true → x = y
  | .document fs, .document gs, h => by
      rw [eq_of_sameFields fs gs (by simpa [same] using h)]
  | .array xs, .array ys, h => by
      rw [eq_of_sameItems xs ys (by simpa [same] using h)]
  | .javaScriptWithScope s fs, .javaScriptWithScope t gs, h => by
      have parts : s = t ∧ sameFields fs gs = true := by simpa [same] using h
      rw [parts.1, eq_of_sameFields fs gs parts.2]
  | .double _, y, h | .string _, y, h | .binary _, y, h | .undefined, y, h
  | .objectId _, y, h | .boolean _, y, h | .dateTime _, y, h | .null, y, h
  | .regex _ _, y, h | .dbPointer _ _, y, h | .javaScript _, y, h | .symbol _, y, h
  | .int32 _, y, h | .timestamp _, y, h | .int64 _, y, h | .decimal128 _, y, h
  | .minKey, y, h | .maxKey, y, h => by cases y <;> simp_all [same]

theorem eq_of_sameFields :
    ∀ fs gs : List (String × Value), sameFields fs gs = true → fs = gs
  | [], [], _ => rfl
  | (k, x) :: fs, (l, y) :: gs, h => by
      have parts : (k = l ∧ same x y = true) ∧ sameFields fs gs = true := by
        simpa [sameFields] using h
      rw [parts.1.1, eq_of_same x y parts.1.2, eq_of_sameFields fs gs parts.2]
  | [], _ :: _, h | _ :: _, [], h => by simp [sameFields] at h

theorem eq_of_sameItems :
    ∀ xs ys : List Value, sameItems xs ys = true → xs = ys
  | [], [], _ => rfl
  | x :: xs, y :: ys, h => by
      have parts : same x y = true ∧ sameItems xs ys = true := by
        simpa [sameItems] using h
      rw [eq_of_same x y parts.1, eq_of_sameItems xs ys parts.2]
  | [], _ :: _, h | _ :: _, [], h => by simp [sameItems] at h

end

mutual

theorem same_self : ∀ x : Value, same x x = true
  | .document fs => by simp [same, sameFields_self fs]
  | .array xs => by simp [same, sameItems_self xs]
  | .javaScriptWithScope _ fs => by simp [same, sameFields_self fs]
  | .double _ | .string _ | .binary _ | .undefined | .objectId _ | .boolean _
  | .dateTime _ | .null | .regex _ _ | .dbPointer _ _ | .javaScript _ | .symbol _
  | .int32 _ | .timestamp _ | .int64 _ | .decimal128 _ | .minKey | .maxKey => by
      simp [same]

theorem sameFields_self : ∀ fs : List (String × Value), sameFields fs fs = true
  | [] => rfl
  | (_, x) :: fs => by simp [sameFields, same_self x, sameFields_self fs]

theorem sameItems_self : ∀ xs : List Value, sameItems xs xs = true
  | [] => rfl
  | x :: xs => by simp [sameItems, same_self x, sameItems_self xs]

end

theorem same_iff (x y : Value) : same x y = true ↔ x = y :=
  ⟨eq_of_same x y, fun equal => equal ▸ same_self x⟩

instance : DecidableEq Value := fun x y =>
  decidable_of_iff (same x y = true) (same_iff x y)

end Value

end LogReplay.Bson
