/-
Module: LogReplay.Session.Indexing
Purpose: Building indexes, in bulk or one by one.
Main exports:
  Session.createIndexes, Session.applyIndex, Session.createIndexesOrSingly
-/
import LogReplay.Index.Specification
import LogReplay.Session.Writing

/-!
Indexes are built by one command for all of them.  Where that is refused because
of an option, or because an index cannot be created, they are built one by one by
applying the log entry that building them would have left: a command entry if the
identifier of the collection is known, and else an insertion into the collection
of index specifications.
-/

namespace LogReplay.Session

open Bson

variable {σ : Type}

/-- The command that builds indexes. -/
def createIndexesCommand (ns : Namespace) (indexes : List Document) : Document :=
  majority
    [("createIndexes", .string ns.collection),
     ("indexes", .array (indexes.map fun spec => .document (Index.outgoing spec)))]

/-- Builds indexes in bulk.  Before 3.3.5 the command does not wait for a majority. -/
def createIndexes (s : Session σ) (ns : Namespace) (indexes : List Document)
    (info : BuildInfo) : Act (World σ) Fault Unit :=
  s.retryingWrite "createIndexes" fun _ => do
    s.perform ns.database (createIndexesCommand ns indexes)
    if info.isAtLeast [3, 3, 5] then pure () else s.waitForMajority

/-- The log entry of building an index. -/
def indexEntry (ns : Namespace) (spec : Document) (identifier : Option Binary) : Entry :=
  match identifier with
  | some identifier =>
      { Entry.noop "" with
        operation := "c"
        namespaceText := (Namespace.command ns.database).text
        collectionId := some identifier
        body :=
          Document.extend [("createIndexes", .string ns.collection)] (Index.outgoing spec) }
  | none =>
      { Entry.noop "" with
        operation := "i"
        namespaceText := (Namespace.systemIndexes ns.database).text
        body := Index.outgoing spec }

/-- Builds one index by applying its log entry. -/
def applyIndex (s : Session σ) (ns : Namespace) (spec : Document)
    (identifier : Option Binary) : Act (World σ) Fault ApplyOpsReply :=
  s.applyBatchWith [(indexEntry ns spec identifier).toDocument] false

/-- Builds indexes one by one, up to the first failure. -/
def applyIndexes (s : Session σ) (ns : Namespace) (identifier : Option Binary) :
    List Document → Act (World σ) Fault Unit
  | [] => pure ()
  | spec :: rest => do
      let _ ← s.applyIndex ns spec identifier
      applyIndexes s ns identifier rest

/-- The bulk build was refused in a way that single builds may get around. -/
def callsForSingles (fault : Fault) : Bool :=
  match fault.commandFailure? with
  | some failure => failure.isInvalidIndexOption || failure.isCannotCreateIndex
  | none => false

/-- Builds indexes in bulk, or one by one where that is refused. -/
def createIndexesOrSingly (s : Session σ) (ns : Namespace) (indexes : List Document)
    (info : BuildInfo) (identifier : Option Binary) : Act (World σ) Fault Unit := do
  match ← (s.createIndexes ns indexes info).outcome with
  | .ok () => pure ()
  | .error fault =>
      if callsForSingles fault then
        note (.indexesSingly ns.text indexes.length)
        s.applyIndexes ns identifier indexes
      else Act.fail fault

end LogReplay.Session
