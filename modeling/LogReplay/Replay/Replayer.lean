/-
Module: LogReplay.Replay.Replayer
Purpose: Applying the entries of a log in order, with transactions put together on
  the way.
Main exports:
  Tally, State, Replayer, Run, Replayer.apply, Replayer.flush, Replayer.finish
-/
import LogReplay.Replay.Batch
import LogReplay.Session.Writing
import LogReplay.Transaction.Operations
import LogReplay.Transaction.Reporting

/-!
Entries outside of transactions wait in a batch and are sent when the next one
does not fit.  Entries of a transaction are gathered in a ledger until its last
one.  A commit first sends the waiting batch, so that everything logged before it
is applied before it; then the operations of the transaction are sent in batches
of their own, and the transaction is forgotten.  An abort forgets it at once.

A fault ends the current call where it stands: what was sent stays sent, what was
counted stays counted, and a transaction that was not sent completely stays in the
ledger.  A waiting batch leaves the state before it is sent, whatever comes of it.
-/

namespace LogReplay.Replay

open Bson (Document Timestamp)
open Transaction

/-- What has been counted. -/
structure Tally where
  /-- Entries that could be placed. -/
  entries : Nat
  /-- Entries outside of transactions that were put into a batch. -/
  operations : Nat
  /-- Entries that were taken into the ledger. -/
  transactionEntries : Nat
  /-- Operations sent for committed transactions. -/
  transactionOperations : Nat
  committed : Nat
  aborted : Nat
  /-- Batches that were applied. -/
  batches : Nat
deriving DecidableEq, Repr

def Tally.zero : Tally :=
  ⟨0, 0, 0, 0, 0, 0, 0⟩

/-- What a replay remembers between two entries. -/
structure State where
  ledger : Ledger
  pending : Batch
  tally : Tally
  /-- The timestamp of the newest entry that is known to be applied. -/
  lastApplied : Option Timestamp

def State.initial : State where
  ledger := .empty
  pending := .empty
  tally := .zero
  lastApplied := none

/-- A replay over a session. -/
structure Replayer (σ : Type) where
  session : Session σ
  settings : ReplaySettings

/-- The state of a replay within the world. -/
structure Run (σ : Type) where
  world : World σ
  state : State

namespace Run

variable {σ : Type}

def initial (w : World σ) : Run σ :=
  ⟨w, .initial⟩

/-- Changes what the replay remembers. -/
def update (f : State → State) (r : Run σ) : Run σ :=
  { r with state := f r.state }

/-- Changes the counts. -/
def count (f : Tally → Tally) : Run σ → Run σ :=
  update fun st => { st with tally := f st.tally }

/-- Adds events to what has happened. -/
def record (events : List Event) (r : Run σ) : Run σ :=
  { r with world := { r.world with trace := r.world.trace ++ events } }

end Run

namespace Replayer

variable {σ : Type}

/-- A replay with the given settings, if they are valid. -/
def open? (session : Session σ) (settings : ReplaySettings) : Except Fault (Replayer σ) := do
  settings.validate
  pure { session, settings }

/-- An act of the session. -/
def inWorld {α : Type} (x : Act (World σ) Fault α) : Act (Run σ) Fault α :=
  x.within Run.world fun w r => { r with world := w }

/-! ## The waiting batch -/

/-- Sends the waiting batch, if there is anything in it. -/
def flush (p : Replayer σ) : Act (Run σ) Fault Unit := do
  let batch := (← Act.read).state.pending
  if batch.isEmpty then pure ()
  else
    Act.change (Run.update fun st => { st with pending := .empty })
    let _ ← inWorld (p.session.applyBatch batch.documents)
    Act.change (Run.count fun t => { t with batches := t.batches + 1 })
    Act.change (Run.update fun st => { st with lastApplied := batch.last.or st.lastApplied })

/-- Puts an entry into the waiting batch, which is sent first if it is full. -/
def applyPlain (p : Replayer σ) (entry : Entry) : Act (Run σ) Fault Unit := do
  match entry.encodedLength? with
  | none => Act.fail .unencodable
  | some bytes =>
      if (← Act.read).state.pending.overflows p.settings bytes then p.flush
      Act.change (Run.update fun st => { st with pending := st.pending.push entry bytes })
      Act.change (Run.count fun t => { t with operations := t.operations + 1 })

/-! ## Transactions -/

/-- Sends a batch of the operations of a transaction. -/
def sendTransactionBatch (p : Replayer σ) (batch : Batch) : Act (Run σ) Fault Unit := do
  let _ ← inWorld (p.session.applyBatch batch.documents)
  Act.change (Run.count fun t =>
    { t with
      batches := t.batches + 1
      transactionOperations := t.transactionOperations + batch.size })

/-- The batch that the next operation goes into: the given one, or an empty one after
it has been sent. -/
def makeRoom (p : Replayer σ) (batch : Batch) (bytes : Nat) : Act (Run σ) Fault Batch := do
  if batch.overflows p.settings bytes then
    p.sendTransactionBatch batch
    pure .empty
  else pure batch

/-- Sends operations in batches, of which the given one has been begun.  `handedOut`
counts the operations before. -/
def sendOperations (p : Replayer σ) (batch : Batch) (handedOut : Nat) :
    List (Except Fault Entry) → Act (Run σ) Fault Unit
  | [] => do
      Act.change (Run.record [.readerFinished handedOut])
      if batch.isEmpty then pure () else p.sendTransactionBatch batch
  | .error fault :: _ => Act.fail fault
  | .ok operation :: rest => do
      match operation.encodedLength? with
      | none =>
          Act.change (Run.record [.readerAbandoned])
          Act.fail .unencodable
      | some bytes =>
          let batch ← (p.makeRoom batch bytes).onFault (Run.record [.readerAbandoned])
          sendOperations p (batch.push operation bytes) (handedOut + 1) rest

/-- Sends a committed transaction. -/
def applyCommitted (p : Replayer σ) (id : Identity) : Act (Run σ) Fault Unit := do
  let entries ← Act.ofExcept ((← Act.read).state.ledger.entriesOf id)
  p.sendOperations .empty 0 (operations entries)

/-- Forgets a transaction. -/
def purge (id : Identity) : Act (Run σ) Fault Unit := do
  let before := (← Act.read).state.ledger
  Act.change (Run.update fun st => { st with ledger := st.ledger.purge id })
  Act.change (Run.record (before.purgeEvents id))

/-- Takes an entry into the ledger. -/
def enter (place : Placement) (entry : Entry) : Act (Run σ) Fault Unit := do
  let before := (← Act.read).state.ledger
  let after ← Act.ofExcept (before.add place entry)
  Act.change (Run.update fun st => { st with ledger := after })
  Act.change (Run.record (before.addEvents place after))
  Act.change (Run.count fun t => { t with transactionEntries := t.transactionEntries + 1 })

/-- Carries out what the last entry of a transaction asks for. -/
def conclude (p : Replayer σ) (place : Placement) (timestamp : Timestamp) :
    Act (Run σ) Fault Unit := do
  if place.isCommit then
    p.flush
    p.applyCommitted place.identity
    purge place.identity
    Act.change (Run.count fun t => { t with committed := t.committed + 1 })
    Act.change (Run.update fun st => { st with lastApplied := some timestamp })
  else if place.isAbort then
    purge place.identity
    Act.change (Run.count fun t => { t with aborted := t.aborted + 1 })
  else pure ()

/-! ## Entries -/

/-- Takes in the next entry of the log. -/
def apply (p : Replayer σ) (entry : Entry) : Act (Run σ) Fault Unit := do
  Act.change (Run.record (placementEvents entry))
  let place ← Act.ofExcept (Placement.ofEntry entry)
  Act.change (Run.count fun t => { t with entries := t.entries + 1 })
  if place.isTransactional then
    enter place entry
    p.conclude place entry.timestamp
  else p.applyPlain entry

/-- Sends what is waiting.  Transactions that are not finished stay in the ledger. -/
def finish (p : Replayer σ) : Act (Run σ) Fault Tally := do
  p.flush
  pure (← Act.read).state.tally

end Replayer

end LogReplay.Replay
