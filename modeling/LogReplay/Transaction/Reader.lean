/-
Module: LogReplay.Transaction.Reader
Purpose: Reading the operations of a committed transaction one at a time.
Main exports:
  Reader, Reader.ofEntries, Reader.next, Reader.drain
-/
import LogReplay.Transaction.Operations

/-!
A reader stands between two operations of a transaction.  `next` hands out the
following operation; it hands out one fault at the most, and after a fault or
after the last operation it hands out nothing for ever.  A reader holds the
entries it reads, so what happens to the ledger later does not concern it.
-/

namespace LogReplay.Transaction

open Bson (Value)

structure Reader where
  identity : Identity
  /-- The entry being read and those after it. -/
  entries : List Entry
  /-- The number of operations read from the first of them. -/
  position : Nat
  /-- The number of operations handed out. -/
  yielded : Nat
  /-- Nothing more is handed out. -/
  isDone : Bool
deriving DecidableEq

namespace Reader

def ofEntries (identity : Identity) (entries : List Entry) : Reader :=
  ⟨identity, entries, 0, 0, false⟩

/-- What a reader finds when it looks for the next operation. -/
inductive Found where
  /-- An operation, and where reading goes on. -/
  | operation (operation : Entry) (entries : List Entry) (position : Nat)
  | fault (fault : Fault)
  | finished
deriving DecidableEq

/-- Looks for an operation at a position, in the first entry or in a later one. -/
def find : List Entry → Nat → Found
  | [], _ => .finished
  | entry :: rest, position =>
      match innerOperations entry with
      | .error fault => .fault fault
      | .ok elements =>
          match elements[position]? with
          | none => find rest 0
          | some element =>
              match readOperation entry element with
              | .ok operation => .operation operation (entry :: rest) (position + 1)
              | .error fault => .fault fault

/-- The next operation or fault, and the reader after it. -/
def next (r : Reader) : Option (Except Fault Entry) × Reader :=
  if r.isDone then (none, r)
  else
    match find r.entries r.position with
    | .operation operation entries position =>
        (some (.ok operation), { r with entries, position, yielded := r.yielded + 1 })
    | .fault fault => (some (.error fault), { r with isDone := true })
    | .finished => (none, { r with isDone := true })

/-- Reads operations until none is left or one cannot be read; `fuel` bounds their
number. -/
def drainWith : (fuel : Nat) → Reader → Except Fault (List Entry) × Reader
  | 0, r => (.ok [], r)
  | fuel + 1, r =>
      match r.next with
      | (none, after) => (.ok [], after)
      | (some (.error fault), after) => (.error fault, after)
      | (some (.ok operation), after) =>
          let (rest, last) := drainWith fuel after
          (rest.map (operation :: ·), last)

/-- Every operation that is left, or the first fault. -/
def drain (r : Reader) : Except Fault (List Entry) × Reader :=
  r.drainWith ((r.entries.flatMap operationsOf).length + 1)

/-- A reader that is done hands out nothing and stays as it is. -/
theorem next_of_isDone {r : Reader} (done : r.isDone = true) : r.next = (none, r) := by
  simp [next, done]

/-- Once nothing is handed out, nothing ever is. -/
theorem isDone_of_next_none {r after : Reader} (ended : r.next = (none, after)) :
    after.isDone = true := by
  unfold next at ended
  split at ended
  · cases ended
    assumption
  · split at ended <;> cases ended
    rfl

/-- A fault is the last thing handed out. -/
theorem isDone_of_next_error {r after : Reader} {fault : Fault}
    (failed : r.next = (some (.error fault), after)) : after.isDone = true := by
  unfold next at failed
  split at failed
  · cases failed
  · split at failed <;> cases failed
    rfl

end Reader

end LogReplay.Transaction
