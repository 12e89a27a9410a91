/-
Module: LogReplay.Reply.ApplyOps
Purpose: What the reply to a batch of operations says.
Main exports:
  ApplyOpsReply, ApplyOpsReply.ofDocument, ApplyOpsReply.ofFault?
-/
import LogReplay.Bson.Extended
import LogReplay.Fault
import LogReplay.Reply.Lifting

/-!
The fields are read in the order in which the reply lists them, and the first one
of a wrong type decides how the reply is refused.  Whether the batch succeeded is
a number or a truth value; code and count are null or integers of 32 bits in any
numeric type; the message is null, a text, or generic bytes that encode a text;
unknown fields do not matter.  A document that stands for a number is a number here.
-/

namespace LogReplay

open Bson Number

/-- The reply to a batch of operations. -/
structure ApplyOpsReply where
  ok : Double
  message : Option String
  code : Option Int32
  /-- The number of entries applied before any failure. -/
  applied : Option Int32
  /-- For each entry in order, whether it was applied. -/
  results : List Bool
deriving DecidableEq, Repr

namespace ApplyOpsReply

/-- The reply of which nothing has been read. -/
def blank : ApplyOpsReply where
  ok := .zero
  message := none
  code := none
  applied := none
  results := []

/-- What cannot be read, quoted where it is a text. -/
def mistyped (wanted : String) : Value → String
  | .string text => "invalid type: string " ++ Text.quoted text ++ ", expected " ++ wanted
  | other => "invalid type: " ++ other.kind.name ++ ", expected " ++ wanted

/-- A number or a truth value, as a number. -/
def number : Value → Except String Double
  | .double x => .ok x
  | .int32 n => .ok (.ofInt n.toInt)
  | .int64 n => .ok (.ofInt n.toInt)
  | .boolean flag => .ok (if flag then .one else .zero)
  | other => .error ("ok is not numeric: " ++ other.text)

def readOk (value : Value) : Except String Double := do
  let value ← value.read
  number value

/-- An integer of 32 bits, unless it is null. -/
def integer : Value → Except String (Option Int32)
  | .null => .ok none
  | value =>
      match Reply.int? value with
      | some n => .ok (some n)
      | none => .error ("not an int32: " ++ value.text)

def readInt (value : Value) : Except String (Option Int32) := do
  let value ← value.read
  integer value

def readMessage : Value → Except String (Option String)
  | .null => .ok none
  | value =>
      match value.characters? with
      | some text => .ok (some text)
      | none => .error (mistyped "a string" value)

/-- Truth values, up to the first item that is none. -/
def readFlags : List Value → Except String (List Bool)
  | [] => .ok []
  | .boolean flag :: rest => (readFlags rest).map (flag :: ·)
  | other :: _ => .error (mistyped "a boolean" other)

def readResults : Value → Except String (List Bool)
  | .array items => readFlags items
  | other => .error (mistyped "a sequence" other)

/-- Takes in one field. -/
def readField (r : ApplyOpsReply) (name : String) (value : Value) :
    Except String ApplyOpsReply :=
  if name = "ok" then (readOk value).map fun ok => { r with ok }
  else if name = "errmsg" then (readMessage value).map fun message => { r with message }
  else if name = "code" then (readInt value).map fun code => { r with code }
  else if name = "applied" then (readInt value).map fun applied => { r with applied }
  else if name = "results" then (readResults value).map fun results => { r with results }
  else .ok r

/-- Takes in fields in order, up to one of a wrong type. -/
def readFields (r : ApplyOpsReply) : Document → Except String ApplyOpsReply
  | [] => .ok r
  | (name, value) :: rest => do
      let r ← readField r name value
      readFields r rest

/-- Reads a reply. -/
def ofDocument (reply : Document) : Except Failure ApplyOpsReply :=
  match readFields blank reply with
  | .ok r => .ok r
  | .error problem => .error (.message ("malformed applyOps reply: " ++ problem))

/-- The reply that a refused batch was answered with, if it can be read. -/
def ofFault? (fault : Fault) : Option ApplyOpsReply :=
  match fault.commandFailure?.bind Failure.response? with
  | none => none
  | some reply =>
      match ofDocument reply with
      | .ok r => some r
      | .error _ => none

/-- The batch succeeded. -/
def isOk (r : ApplyOpsReply) : Bool :=
  r.ok.equals .one

/-- The place of the first entry that was not applied. -/
def failedIndex? (r : ApplyOpsReply) : Option Nat :=
  r.results.findIdx? fun applied => !applied

end ApplyOpsReply

end LogReplay
