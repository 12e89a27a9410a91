/-
Module: LogReplay.Failure
Purpose: The shapes in which a database command fails.
Main exports:
  CommandError, WriteError, WriteConcernError, Transport, Failure, Failure.text
-/
import LogReplay.Bson.Value

/-!
A command can be refused as a whole, fail for some of the documents it writes,
be carried out without reaching the replicas it was to wait for, or get lost on
the way.  Each way has its own shape, and composite failures hold the parts they
are made of.  What a failure *means* is settled in `LogReplay.Failure.Category`.
-/

namespace LogReplay

open Bson (Document)

/-- A command that was refused. -/
structure CommandError where
  code : Int32
  codeName : Option String
  message : String
  labels : List String
  /-- The reply that said so, where it was kept. -/
  response : Option Document
deriving DecidableEq

/-- One document of a write that was refused. -/
structure WriteError where
  /-- The place of the document in the command. -/
  index : Nat
  code : Int32
  message : String
deriving DecidableEq, Repr

/-- A write that was carried out, but not on as many replicas as asked. -/
structure WriteConcernError where
  code : Int32
  codeName : Option String
  message : String
deriving DecidableEq, Repr

/-- How a connection fails. -/
inductive Transport where
  | timeout
  | connectionReset
  | endOfStream
  | unexpectedEof
  | noReachableServers
  | connectionClosed
deriving DecidableEq, Repr

/-- What a command can fail with. -/
inductive Failure where
  | command (error : CommandError)
  | write (error : WriteError)
  | writeConcern (error : WriteConcernError)
  | writeException (writes : List WriteError) (concern : Option WriteConcernError)
  | bulkWriteException (writes : List WriteError) (concern : Option WriteConcernError)
  | transport (kind : Transport) (message : String)
  | message (text : String)
deriving DecidableEq

def Transport.text : Transport → String
  | .timeout => "timeout"
  | .connectionReset => "connection reset"
  | .endOfStream => "end of stream"
  | .unexpectedEof => "unexpected eof"
  | .noReachableServers => "no reachable servers"
  | .connectionClosed => "connection closed"

def CommandError.text (e : CommandError) : String :=
  match e.codeName with
  | some name => "(" ++ name ++ ") " ++ toString e.code.toInt ++ ": " ++ e.message
  | none => "(" ++ toString e.code.toInt ++ ") " ++ e.message

def CommandError.hasLabel (e : CommandError) (label : String) : Bool :=
  e.labels.contains label

def WriteError.text (e : WriteError) : String :=
  "write error at index " ++ toString e.index ++ ", code " ++ toString e.code.toInt ++
    ": " ++ e.message

def WriteConcernError.text (e : WriteConcernError) : String :=
  let base := "WriteConcernError: " ++ e.message ++ ", code: " ++ toString e.code.toInt
  match e.codeName with
  | some name => base ++ ", codeName: " ++ name
  | none => base

namespace Failure

/-- The parts of a composite failure, counted. -/
def partsText (writes : List WriteError) (concern : Option WriteConcernError) : String :=
  toString writes.length ++ " write error(s), write concern error: " ++
    (if concern.isSome then "true" else "false")

/-- The text by which a failure is reported. -/
def text : Failure → String
  | .command e => "command failed " ++ e.text
  | .write e => e.text
  | .writeConcern e => e.text
  | .writeException writes concern => "write exception: " ++ partsText writes concern
  | .bulkWriteException writes concern => "bulk write exception: " ++ partsText writes concern
  | .transport kind detail => "transport error (" ++ kind.text ++ "): " ++ detail
  | .message words => words

/-- The reply that a command error was lifted from. -/
def response? : Failure → Option Document
  | .command e => e.response
  | _ => none

end Failure

end LogReplay
