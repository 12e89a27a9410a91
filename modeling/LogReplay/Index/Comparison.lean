/-
Module: LogReplay.Index.Comparison
Purpose: Whether two index keys sort alike.
Main exports:
  Index.KeyValue, Index.sameKey
-/
import LogReplay.Bson.Equality
import LogReplay.Number.Reading

/-!
Keys are compared name by name, in order.  Numbers are compared by their value,
whatever their type, and a text that denotes a number counts as that number: `1`,
`1.0` and `"1e0"` are the same.  Other texts are compared as texts, and all other
values by what they hold.
-/

namespace LogReplay.Index

open Bson
open Number (Double)

/-- What counts in a value of a key. -/
inductive KeyValue where
  | number (x : Double)
  | text (words : String)
  | other (value : Value)

def KeyValue.ofValue : Value → KeyValue
  | .int32 n => .number (.ofInt n.toInt)
  | .int64 n => .number (.ofInt n.toInt)
  | .double x => .number x
  | .string words =>
      match Double.ofText? words with
      | some x => .number x
      | none => .text words
  | value => .other value

def KeyValue.equals : KeyValue → KeyValue → Bool
  | .number x, .number y => x.equals y
  | .text s, .text t => s == t
  | .other x, .other y => x.equals y
  | _, _ => false

/-- The same names in the same order, with values that count the same. -/
def sameKey : Document → Document → Bool
  | [], [] => true
  | (name, x) :: rest, (other, y) :: others =>
      name == other && (KeyValue.ofValue x).equals (KeyValue.ofValue y) && sameKey rest others
  | _, _ => false

end LogReplay.Index
