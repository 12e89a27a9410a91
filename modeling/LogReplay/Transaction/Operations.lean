/-
Module: LogReplay.Transaction.Operations
Purpose: The operations that the entries of a transaction carry, as one list.
Main exports:
  innerOperations, operations
-/
import LogReplay.Transaction.Placement

/-!
Each `applyOps` entry of a transaction carries an array of operations, and the
transaction is the concatenation of these arrays; the commands that only commit
carry none.  An operation is an entry in its own right, except that timestamp,
term and hash are those of the entry that carried it.

An array that is not there, an element that is not a document and a document
that is no entry each end the list with one fault.
-/

namespace LogReplay.Transaction

open Bson

/-- The array of operations of an entry.  Entries of other commands have none. -/
def innerOperations (e : Entry) : Except Fault (List Value) :=
  if e.commandName? = some "applyOps" then
    match e.body.items "applyOps" with
    | .ok items => .ok items
    | .error problem => .error (.malformed (.operations problem))
  else .ok []

/-- One element of the array, as an entry at the place of its carrier. -/
def readOperation (carrier : Entry) (element : Value) : Except Fault Entry :=
  match element with
  | .document fields =>
      match Entry.ofDocument? fields with
      | some e =>
          .ok
            { e with
              timestamp := carrier.timestamp
              term := carrier.term
              hash := carrier.hash }
      | none => .error (.malformed .entry)
  | other => .error (.malformed (.operation other.kind))

/-- The elements of one array, read one after the other. -/
def operationsOf (e : Entry) : List (Except Fault Entry) :=
  match innerOperations e with
  | .ok elements => elements.map (readOperation e)
  | .error fault => [.error fault]

/-- The list up to its first fault, which is kept. -/
def untilFault {α : Type} : List (Except Fault α) → List (Except Fault α)
  | [] => []
  | .ok a :: rest => .ok a :: untilFault rest
  | .error fault :: _ => [.error fault]

/-- All operations of a transaction in order, ending at the first fault. -/
def operations (entries : List Entry) : List (Except Fault Entry) :=
  untilFault (entries.flatMap operationsOf)

/-- The operations of a list without faults, or its first fault. -/
def collect {α : Type} : List (Except Fault α) → Except Fault (List α)
  | [] => .ok []
  | .ok a :: rest => (collect rest).map (a :: ·)
  | .error fault :: _ => .error fault

end LogReplay.Transaction
