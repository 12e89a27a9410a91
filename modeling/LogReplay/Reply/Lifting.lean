/-
Module: LogReplay.Reply.Lifting
Purpose: Telling a reply that reports success from one that reports a failure.
Main exports:
  Reply.isOk, Reply.int?, Reply.lift
-/
import LogReplay.Bson.Document
import LogReplay.Failure
import LogReplay.Number.Basic

/-!
A reply reports a failure in one of three ways, looked for in this order: it is
not `ok`; it lists documents that could not be written; or it says that the write
is not yet on as many replicas as asked.  Everything else is a success, and the
reply is handed on as it is.

Numbers in replies come in any numeric type.  A number that is no 32-bit integer
counts as missing.
-/

namespace LogReplay.Reply

open Bson Number

/-- An integer within 32 bits, from any numeric type that holds it exactly. -/
def int? : Value → Option Int32
  | .int32 n => some n
  | .int64 n => if n.toInt32.toInt64 = n then some n.toInt32 else none
  | .double x =>
      match x.toInt? with
      | some n => if -2 ^ 31 ≤ n ∧ n < 2 ^ 31 then some (Int32.ofInt n) else none
      | none => none
  | _ => none

/-- A number of a reply; zero if it is missing or of another type. -/
def intAt (reply : Document) (key : String) : Int32 :=
  ((reply.field? key).bind int?).getD 0

/-- A text of a reply; empty if it is missing or of another type. -/
def textAt (reply : Document) (key : String) : String :=
  (reply.text? key).getD ""

/-- The reply says that it is in order: one, in any numeric type, or true. -/
def isOk (reply : Document) : Bool :=
  match reply.field? "ok" with
  | some (.double x) => x.equals .one
  | some (.int32 n) => n == 1
  | some (.int64 n) => n == 1
  | some (.boolean flag) => flag
  | _ => false

/-- The array under a name; empty if there is none. -/
def itemsAt (reply : Document) (key : String) : List Value :=
  match reply.items key with
  | .ok items => items
  | .error _ => []

/-- The error of a reply that is not in order. -/
def commandError (reply : Document) : CommandError where
  code := intAt reply "code"
  codeName := reply.text? "codeName"
  message := textAt reply "errmsg"
  labels := (itemsAt reply "errorLabels").filterMap Value.text?
  response := some reply

def writeError (d : Document) : WriteError where
  index := (intAt d "index").toInt.toNat
  code := intAt d "code"
  message := textAt d "errmsg"

def writeConcernError (d : Document) : WriteConcernError where
  code := intAt d "code"
  codeName := d.text? "codeName"
  message := textAt d "errmsg"

/-- The write concern error that a reply carries. -/
def concern? (reply : Document) : Option WriteConcernError :=
  match reply.fields? "writeConcernError" with
  | .ok d => some (writeConcernError d)
  | .error _ => none

/-- Turns a reply that reports a failure into that failure. -/
def lift (reply : Document) : Except Failure Document :=
  if !isOk reply then .error (.command (commandError reply))
  else
    match itemsAt reply "writeErrors", concern? reply with
    | first :: rest, concern =>
        .error (.writeException
          (((first :: rest).filterMap Value.document?).map writeError) concern)
    | [], some concern => .error (.writeConcern concern)
    | [], none => .ok reply

/-- What is handed on is the reply itself. -/
theorem eq_of_lift_ok {reply lifted : Document} (success : lift reply = .ok lifted) :
    lifted = reply := by
  unfold lift at success
  split at success
  · cases success
  · split at success <;> cases success
    rfl

/-- A success carries no write concern error. -/
theorem concern?_eq_none_of_lift_ok {reply lifted : Document}
    (success : lift reply = .ok lifted) : concern? reply = none := by
  unfold lift at success
  split at success
  · cases success
  · split at success <;> cases success
    assumption

end LogReplay.Reply
