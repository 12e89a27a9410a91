/-
Module: LogReplay.Transaction.Reporting
Purpose: The events that go with the steps of a transaction.
Main exports:
  placementEvents, Ledger.addEvents, Ledger.purgeEvents, Reader.nextEvents,
  Reader.dropEvents
-/
import LogReplay.Event
import LogReplay.Transaction.Ledger
import LogReplay.Transaction.Reader

/-!
The steps of a transaction are plain functions.  What is reported of a step is a
function of the states around it.
-/

namespace LogReplay.Transaction

/-- What is noted when an entry is placed. -/
def placementEvents (e : Entry) : List Event :=
  if hasHalfSession e then [.halfSession] else []

namespace Ledger

/-- The number of entries gathered for a transaction. -/
def gathered (l : Ledger) (id : Identity) : Nat :=
  match l.progress? id with
  | some ⟨.gathering entries, _⟩ => entries.length
  | _ => 0

/-- What is reported when an entry was taken in at a place. -/
def addEvents (before : Ledger) (place : Placement) (after : Ledger) : List Event :=
  let ending : List Event :=
    match place.role with
    | .single => [.finalized true 1]
    | .finalCommit => [.finalized true (before.gathered place.identity + 1)]
    | .finalAbort => [.finalized false (before.gathered place.identity)]
    | .outside => []
    | .firstOfMany => []
    | .continuation => []
  ending ++ [.entered place.role after.size]

/-- What is reported when a transaction is forgotten. -/
def purgeEvents (before : Ledger) (id : Identity) : List Event :=
  match before.progress? id with
  | none => []
  | some progress => [.purged progress.phase.isFinal (before.purge id).size]

end Ledger

namespace Reader

/-- What is reported when a reader was asked for its next operation. -/
def nextEvents (r : Reader) : List Event :=
  match r.isDone, r.next with
  | false, (none, after) => [.readerFinished after.yielded]
  | _, _ => []

/-- What is reported when the rest of a reader was read. -/
def drainEvents (r : Reader) : List Event :=
  match r.isDone, r.drain with
  | false, (.ok _, after) => [.readerFinished after.yielded]
  | _, _ => []

/-- What is reported when a reader goes out of use. -/
def dropEvents (r : Reader) : List Event :=
  if r.isDone then [] else [.readerAbandoned]

end Reader

end LogReplay.Transaction
