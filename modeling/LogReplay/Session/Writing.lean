/-
Module: LogReplay.Session.Writing
Purpose: Applying entries, inserting documents, and creating, changing and dropping
  collections and databases.
Main exports:
  Session.applyBatch, Session.insertAll, Session.createCollection,
  Session.renameAndDrop, Session.dropCollection, Session.dropDatabase,
  Session.modifyCollection, Session.awaitMajority
-/
import LogReplay.Reply.BuildInfo
import LogReplay.Session.Retrying

/-!
Every operation waits for a majority, and is repeated after failures that are
worth it.  An earlier attempt may have taken effect without being heard of, so a
retry takes some refusals for success: a collection to be created that exists, and
one to be dropped or renamed that does not.  On the first attempt the same refusal
is a failure.

An insert that meets a taken key may meet it because an earlier attempt stored the
document.  The documents are then inserted one by one, each taken key being passed
over, up to the first one that is stored; from there on they are inserted as a
batch again.
-/

namespace LogReplay.Session

open Bson

variable {σ : Type}

/-- Takes a forgiven failure for success. -/
def forgiving (forgiven : Failure → Bool) (x : Act (World σ) Failure Unit) :
    Act (World σ) Failure Unit := do
  match ← x.outcome with
  | .ok () => pure ()
  | .error failure => if forgiven failure then pure () else Act.fail failure

/-! ## Batches of entries -/

/-- One attempt at applying a batch, with a note of how it went. -/
def attemptBatch (s : Session σ) (entries : List Document) (bypassValidation : Bool) :
    Act (World σ) Failure ApplyOpsReply := do
  let start ← s.now
  match ← (s.sendBatch entries bypassValidation).outcome with
  | .ok reply =>
      note (.batchAttempted entries true (← s.elapsedSince start))
      pure reply
  | .error failure =>
      note (.batchAttempted entries false (← s.elapsedSince start))
      Act.fail failure

/-- Applies a batch; there must be something to apply. -/
def applyBatchWith (s : Session σ) (entries : List Document) (bypassValidation : Bool) :
    Act (World σ) Fault ApplyOpsReply :=
  if entries.isEmpty then Act.fail .emptyBatch
  else s.retryingWrite "applyOps" fun _ => s.attemptBatch entries bypassValidation

/-- Applies a batch of entries, bypassing validation if the settings say so. -/
def applyBatch (s : Session σ) (entries : List Document) : Act (World σ) Fault ApplyOpsReply :=
  s.applyBatchWith entries s.settings.bypassValidation

/-- Waits until everything written so far has been applied by a majority. -/
def awaitMajority (s : Session σ) : Act (World σ) Fault Unit :=
  s.retryingWrite "waitForWriteConcernMajority" fun _ => s.waitForMajority

/-! ## Documents -/

/-- The command that inserts documents, in order and up to the first failure. -/
def insertCommand (s : Session σ) (ns : Namespace) (documents : List Document) : Document :=
  majority <|
    [("insert", .string ns.collection), ("documents", .array (documents.map .document)),
     ("ordered", .boolean true)] ++
      (if s.settings.bypassValidation then [("bypassDocumentValidation", .boolean true)] else [])

/-- Inserts documents in one go: whether they were stored, or met a taken key. -/
def insertRound (s : Session σ) (ns : Namespace) (documents : List Document) :
    Act (World σ) Fault Bool := do
  let round := s.retryingWrite "insert" fun _ =>
    s.perform ns.database (s.insertCommand ns documents)
  match ← round.outcome with
  | .ok () => pure true
  | .error fault => if fault.isDuplicateKey then pure false else Act.fail fault

/-- Whether the next document is to be tried alone, after how many others: either
that is settled, or all documents have just met a taken key together. -/
def insertTogether (s : Session σ) (ns : Namespace) (documents : List Document) :
    (singles : Option Nat) → Act (World σ) Fault (Option Nat)
  | some count => pure (some count)
  | none => do
      if ← s.insertRound ns documents then pure none else pure (some 0)

/-- Inserts documents.  With `singles`, that many have just been passed over one by
one, and the next is tried alone: after success a batch follows, after a taken key
the next document alone. -/
def insertFrom (s : Session σ) (ns : Namespace) :
    (singles : Option Nat) → List Document → Act (World σ) Fault Unit
  | none, [] => pure ()
  | some count, [] => note (.insertedSingly count)
  | singles, document :: rest => do
      match ← s.insertTogether ns (document :: rest) singles with
      | none => pure ()
      | some count =>
          if ← s.insertRound ns [document] then
            note (.insertedSingly (count + 1))
            insertFrom s ns none rest
          else insertFrom s ns (some (count + 1)) rest

/-- Inserts documents in order, passing over those whose key is taken. -/
def insertAll (s : Session σ) (ns : Namespace) (documents : List Document) :
    Act (World σ) Fault Unit :=
  s.insertFrom ns none documents

/-! ## Collections and databases -/

/-- Runs the caller's command that creates a collection. -/
def createCollection (s : Session σ) (database : String) (command : Document) :
    Act (World σ) Fault Unit :=
  s.retryingWrite "create" fun isRetry =>
    forgiving (fun failure => isRetry && failure.isNamespaceExists)
      (s.perform database (majority command))

/-- The command that drops a collection. -/
def dropCommand (ns : Namespace) : Document :=
  majority [("drop", .string ns.collection)]

/-- Drops a collection under its own name. -/
def dropPlainly (s : Session σ) (ns : Namespace) : Act (World σ) Fault Unit :=
  s.retryingWrite "drop" fun isRetry =>
    forgiving (fun failure => isRetry && failure.isNamespaceMissing)
      (s.perform ns.database (dropCommand ns))

/-- The name under which a collection waits to be dropped. -/
def dropPending (s : Session σ) (ns : Namespace) : Namespace :=
  ⟨ns.database, s.settings.dropPendingPrefix ++ ns.collection⟩

/-- The command that renames a collection. -/
def renameCommand (source target : Namespace) : Document :=
  majority [("renameCollection", .string source.text), ("to", .string target.text)]

/-- Renames a collection, and drops it under its new name. -/
def renameAndDrop (s : Session σ) (ns : Namespace) : Act (World σ) Fault Unit := do
  s.retryingWrite "renameCollection" fun isRetry =>
    forgiving (fun failure => isRetry && failure.isNamespaceMissing)
      (s.perform "admin" (renameCommand ns (s.dropPending ns)))
  s.dropPlainly (s.dropPending ns)

/-- Drops a collection.  Stored functions can only be dropped under another name. -/
def dropCollection (s : Session σ) (ns : Namespace) : Act (World σ) Fault Unit :=
  if ns.isStoredFunctions then s.renameAndDrop ns else s.dropPlainly ns

def dropDatabase (s : Session σ) (database : String) : Act (World σ) Fault Unit :=
  s.retryingWrite "dropDatabase" fun _ =>
    s.perform database (majority [("dropDatabase", .int32 1)])

/-- Runs the caller's command that changes a collection.  Before 3.6 the command
cannot wait for a majority itself. -/
def modifyCollection (s : Session σ) (database : String) (command : Document)
    (info : BuildInfo) : Act (World σ) Fault Unit :=
  s.retryingWrite "collMod" fun _ =>
    if info.isAtLeast [3, 6, 0] then s.perform database (majority command)
    else do
      s.perform database command
      s.waitForMajority

end LogReplay.Session
