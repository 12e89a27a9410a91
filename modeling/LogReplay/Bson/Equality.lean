/-
Module: LogReplay.Bson.Equality
Purpose: Comparing values by what they hold, with documents as sets of fields.
Main exports:
  Value.equals
-/
import LogReplay.Bson.Document

/-!
Two values are equal when they have the same kind and hold the same thing, where
doubles are compared as numbers and the order of the fields of a document does
not matter.  Arrays are compared item by item, in order.  A value that holds a
NaN anywhere equals nothing, not even itself.
-/

namespace LogReplay.Bson

open Number (Double)

mutual

def Value.equals : Value → Value → Bool
  | .double x, .double y => x.equals y
  | .document fs, .document gs => fs.length == gs.length && fieldsWithin fs gs
  | .array xs, .array ys => itemsEqual xs ys
  | .javaScriptWithScope s fs, .javaScriptWithScope t gs =>
      s == t && (fs.length == gs.length && fieldsWithin fs gs)
  | x, y => x == y

/-- Each field of the first list is in the second document, with an equal value. -/
def fieldsWithin : List (String × Value) → Document → Bool
  | [], _ => true
  | (name, x) :: rest, other =>
      (match other.field? name with
        | some y => x.equals y
        | none => false) && fieldsWithin rest other

def itemsEqual : List Value → List Value → Bool
  | [], [] => true
  | x :: xs, y :: ys => x.equals y && itemsEqual xs ys
  | _, _ => false

end

end LogReplay.Bson
