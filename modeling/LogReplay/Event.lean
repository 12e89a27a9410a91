/-
Module: LogReplay.Event
Purpose: What happens while a log is replayed, as a list of events in order.
Main exports:
  Probe, Event
-/
import LogReplay.Failure
import LogReplay.Span
import LogReplay.Transaction.Placement

/-!
Everything that can be observed of a run is one list of events in the order in
which they happened.  The commands that a destination received, the lines of the
log and the numbers of the telemetry are all read off this list, so none of them
can disagree with another.
-/

namespace LogReplay

open Bson (Document)

/-- How a probe of a recovery turned out. -/
inductive Probe where
  /-- The session is usable again. -/
  | recovered
  /-- It is not, and another probe follows. -/
  | stillFailing
  /-- It is not, and patience is exhausted. -/
  | exhausted
  /-- It failed in a way that another probe cannot mend. -/
  | hopeless
deriving DecidableEq, Repr

inductive Event where
  /-- A command was run on a database, with what it came to. -/
  | commanded (database : String) (command : Document) (outcome : Except Failure Document)
  /-- Nothing was done for a while. -/
  | slept (span : Span)
  /-- An attempt at an operation began: the first, or a retry. -/
  | attempted (isRetry : Bool)
  /-- An operation failed and is retried as soon as the session is recovered. -/
  | retrying (target operation : String) (overNetwork : Bool)
  /-- An operation is not retried any more. -/
  | gaveUp (operation : String) (elapsed : Span)
  | probed (outcome : Probe)
  /-- An attempt at applying a batch of entries ended. -/
  | batchAttempted (entries : List Document) (succeeded : Bool) (elapsed : Span)
  /-- A batch of documents met a taken key, and so many were inserted one by one. -/
  | insertedSingly (documents : Nat)
  /-- A bulk build of indexes was refused, and they are built one by one. -/
  | indexesSingly (collection : String) (builds : Nat)
  /-- An entry had only one of session id and transaction number. -/
  | halfSession
  /-- An entry was taken into a ledger, which then held so many transactions. -/
  | entered (role : Transaction.Role) (live : Nat)
  /-- A transaction got its last entry, after so many. -/
  | finalized (committed : Bool) (entries : Nat)
  /-- A transaction was forgotten, and the ledger then held so many. -/
  | purged (wasFinal : Bool) (live : Nat)
  /-- A reader handed out its last operation, after so many. -/
  | readerFinished (operations : Nat)
  /-- A reader was given up before its end. -/
  | readerAbandoned

end LogReplay
