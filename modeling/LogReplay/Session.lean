/-
Module: LogReplay.Session
Purpose: A session with a destination: sending commands, and waiting until earlier
  writes have reached a majority.
Main exports:
  Session, Session.open?, Session.send, Session.sendBatch, Session.waitForMajority,
  majority
-/
import LogReplay.Destination
import LogReplay.Reply.ApplyOps
import LogReplay.Settings

/-!
Replies are lifted as they arrive, so a command either succeeded or failed.  A
batch of entries is one `applyOps` command that waits for a majority.  A batch of
more than one entry ends with a command entry that does nothing, because a batch
with a command in it is applied entry by entry instead of all or nothing.

A single entry that does nothing, applied by a majority, shows that everything
written before it has been applied by a majority as well.
-/

namespace LogReplay

open Bson

/-- The command, with the request to wait for a majority. -/
def majority (command : Document) : Document :=
  command.put "writeConcern" (.document [("w", .string "majority")])

/-- A session with a destination. -/
structure Session (σ : Type) where
  destination : Destination σ
  settings : SessionSettings
  policy : Retry.Policy
  /-- The number of rounds after which a loop of retries or probes is taken not to
  end. -/
  patience : Nat

namespace Session

variable {σ : Type}

/-- A session with the given settings, if they are valid. -/
def open? (destination : Destination σ) (settings : SessionSettings) (patience : Nat) :
    Except Fault (Session σ) := do
  settings.validate
  pure { destination, settings, policy := settings.policy, patience }

/-! ## Single steps -/

/-- The time on the destination's clock. -/
def now {ε : Type} (s : Session σ) : Act (World σ) ε Span := do
  let w ← Act.read
  pure (s.destination.now w.outside)

/-- The time that has passed since a moment. -/
def elapsedSince {ε : Type} (s : Session σ) (start : Span) : Act (World σ) ε Span := do
  let now ← s.now
  pure (now - start)

/-- Adds an event to what has happened. -/
def note {ε : Type} (event : Event) : Act (World σ) ε Unit :=
  Act.change (World.record event)

/-- Lets time pass. -/
def sleep {ε : Type} (s : Session σ) (span : Span) : Act (World σ) ε Unit := do
  Act.change fun w => { w with outside := s.destination.pause w.outside span }
  note (.slept span)

/-- Runs a command and lifts its reply. -/
def send (s : Session σ) (database : String) (command : Document) :
    Act (World σ) Failure Document :=
  fun w =>
    let (answer, outside) := s.destination.run w.outside database command
    let outcome := answer.bind Reply.lift
    some (outcome, World.record (.commanded database command outcome) { w with outside })

/-- Runs a command for its effect. -/
def perform (s : Session σ) (database : String) (command : Document) :
    Act (World σ) Failure Unit := do
  let _ ← s.send database command
  pure ()

/-! ## Batches -/

/-- The document of the entry that does nothing. -/
def noop (s : Session σ) : Document :=
  (Entry.noop s.settings.noopMessage).toDocument

/-- A command entry that does nothing. -/
def noopCommand (s : Session σ) : Document :=
  [("op", .string "c"), ("ns", .string "noop.$cmd"),
   ("o", .document [("applyOps", .array [.document s.noop])])]

/-- The operations of a batch: its entries, and a closing command after more than
one. -/
def batchOperations (s : Session σ) (entries : List Document) : List Document :=
  if 1 < entries.length then entries ++ [s.noopCommand] else entries

/-- The command that applies a batch. -/
def batchCommand (s : Session σ) (entries : List Document) (bypassValidation : Bool) :
    Document :=
  majority <|
    ("applyOps", .array ((s.batchOperations entries).map .document)) ::
      (if bypassValidation then [("bypassDocumentValidation", .boolean true)] else [])

/-- Applies a batch. -/
def sendBatch (s : Session σ) (entries : List Document) (bypassValidation : Bool) :
    Act (World σ) Failure ApplyOpsReply := do
  let reply ← s.send "admin" (s.batchCommand entries bypassValidation)
  Act.ofExcept (ApplyOpsReply.ofDocument reply)

/-- Waits until everything written so far has been applied by a majority. -/
def waitForMajority (s : Session σ) : Act (World σ) Failure Unit := do
  let _ ← s.sendBatch [s.noop] true
  pure ()

end Session

end LogReplay
