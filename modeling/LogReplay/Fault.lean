/-
Module: LogReplay.Fault
Purpose: Everything that can go wrong, by its cause, and how it is reported.
Main exports:
  Malformation, Refusal, SettingsProblem, Fault, Fault.message
-/
import LogReplay.Bson.Document
import LogReplay.Failure.Category
import LogReplay.Span
import LogReplay.Text.Visible

/-!
A fault says what went wrong, not in which words; `Fault.message` has the words.
Three kinds are final by nature (an entry of the wrong shape, a step taken out of
order, settings out of bounds), and three report what the database answered: a
command that failed for good, one that kept failing in a way worth retrying, and
a session that did not come back.
-/

namespace LogReplay

open Bson (Kind FieldProblem)

/-- How an entry can have the wrong shape. -/
inductive Malformation where
  /-- The document, or one nested in it, is no entry. -/
  | entry
  /-- The session id has no byte form. -/
  | session
  /-- A flag of a transaction command is not a truth value. -/
  | flag (field : String) (found : Kind)
  /-- The list of operations of a transaction entry cannot be had. -/
  | operations (problem : FieldProblem)
  /-- An operation of a transaction entry is not a document. -/
  | operation (found : Kind)
  /-- Anything else, in the words of whoever found it. -/
  | other (context detail : String)
deriving DecidableEq, Repr

def Malformation.message : Malformation → String
  | .entry => "decode oplog entry"
  | .session => "encode lsid"
  | .flag field found => "applyOps field " ++ field ++ ": expected bool, got " ++ found.name
  | .operations problem => "applyOps body: " ++ problem.message
  | .operation found => "applyOps element: expected document, got " ++ found.name
  | .other context detail => context ++ ": " ++ detail

/-- Why a transaction ledger refuses a step. -/
inductive Refusal where
  | notTransactional
  | collides
  | noLiveTransaction
  | alreadyFinalized
  | nothingToRead
  | notFinalized
  | aborted
  /-- Anything else, in the words of whoever refused. -/
  | other (words : String)
deriving DecidableEq, Repr

def Refusal.message : Refusal → String
  | .notTransactional => "entry is not part of a transaction"
  | .collides => "first entry collides with a live transaction"
  | .noLiveTransaction => "no live transaction for continuation entry"
  | .alreadyFinalized => "append after the transaction was finalized"
  | .nothingToRead => "no transaction state to stream"
  | .notFinalized => "transaction is not finalized"
  | .aborted => "transaction was aborted"
  | .other words => words

/-- The spans among the settings. -/
inductive SpanSetting where
  | minRetryDuration
  | recoverSleep
deriving DecidableEq, Repr

def SpanSetting.name : SpanSetting → String
  | .minRetryDuration => "min_retry_duration"
  | .recoverSleep => "recover_sleep"

/-- Why settings are not accepted. -/
inductive SettingsProblem where
  | unreadableSpan (setting : SpanSetting) (value : String)
  | emptyDropPendingPrefix
  | emptyNoopMessage
  | batchOperations (limit found : Nat)
  | batchBytes (limit found : Nat)
  /-- Anything else, in the words of whoever objects. -/
  | other (words : String)
deriving DecidableEq, Repr

def SettingsProblem.message : SettingsProblem → String
  | .unreadableSpan setting value => "executor." ++ setting.name ++ " " ++ Text.quoted value
  | .emptyDropPendingPrefix => "executor.drop_pending_prefix must not be empty"
  | .emptyNoopMessage => "executor.noop_message must not be empty"
  | .batchOperations limit found =>
      "replay.max_batch_ops must be between 1 and " ++ toString limit ++ ", got " ++ toString found
  | .batchBytes limit found =>
      "replay.max_batch_bytes must be between 1 and " ++ toString limit ++ " bytes, got " ++
        toString found
  | .other words => words

/-- What can go wrong. -/
inductive Fault where
  /-- An entry of the wrong shape. -/
  | malformed (problem : Malformation)
  /-- A step that the state of a transaction does not allow. -/
  | refused (transaction : String) (reason : Refusal)
  /-- A command that failed, and will not succeed by being repeated. -/
  | command (failure : Failure)
  /-- A command that kept failing until patience was exhausted. -/
  | retriesExhausted (attempts : Nat) (elapsed : Span) (failure : Failure)
  /-- A session that could not be recovered. -/
  | reconnectFailed (target : String) (attempts : Nat) (elapsed : Span) (failure : Failure)
  /-- A batch without entries. -/
  | emptyBatch
  /-- An entry without a byte form. -/
  | unencodable
  /-- Settings that are not accepted. -/
  | settings (problem : SettingsProblem)
deriving DecidableEq

namespace Fault

/-- How many attempts failed, how long they took, and with what they ended. -/
def effort (attempts : Nat) (elapsed : Span) (failure : Failure) : String :=
  toString attempts ++ " failed attempts which took " ++ elapsed.text ++ ": " ++ failure.text

/-- The text by which a fault is reported. -/
def message : Fault → String
  | .malformed problem => "Parse error: " ++ problem.message
  | .refused transaction reason =>
      "Invalid transaction state (" ++ transaction ++ "): " ++ reason.message
  | .command failure => "Command error: " ++ failure.text
  | .retriesExhausted attempts elapsed failure =>
      "gave up retrying after " ++ effort attempts elapsed failure
  | .reconnectFailed target attempts elapsed failure =>
      "gave up reconnecting to the " ++ target ++ " after " ++ effort attempts elapsed failure
  | .emptyBatch => "cannot send an empty applyOps"
  | .unencodable => "Encode error"
  | .settings problem => "Configuration error: " ++ problem.message

/-- The failure of a command that was refused for good.  Failures on which
patience was lost do not count. -/
def commandFailure? : Fault → Option Failure
  | .command failure => some failure
  | _ => none

/-- The failure behind a fault, if the database is to blame. -/
def failure? : Fault → Option Failure
  | .command failure => some failure
  | .retriesExhausted _ _ failure => some failure
  | .reconnectFailed _ _ _ failure => some failure
  | _ => none

/-- A command was refused because a key is taken. -/
def isDuplicateKey (f : Fault) : Bool :=
  match f.commandFailure? with
  | some failure => failure.isDuplicateKey
  | none => false

/-- Trying again may help. -/
def isRetryable (f : Fault) : Bool :=
  match f.commandFailure? with
  | some failure => failure.isReconnectable
  | none => false

end Fault

end LogReplay
