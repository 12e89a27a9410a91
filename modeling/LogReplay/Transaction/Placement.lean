/-
Module: LogReplay.Transaction.Placement
Purpose: Which transaction an entry belongs to, and where in it it stands.
Main exports:
  Role, Placement, Placement.ofEntry, Entry.hasHalfSession
-/
import LogReplay.Entry
import LogReplay.Transaction.Identity

/-!
Only command entries with one of three commands, a session id and a transaction
number take part in a transaction:

| command | link to an earlier entry | role |
|---|---|---|
| `applyOps` | no | `single` |
| `applyOps`, partial or prepared | no | `firstOfMany` |
| `applyOps`, partial or prepared | yes | `continuation` |
| `applyOps` | yes | `finalCommit` |
| `commitTransaction` | any | `finalCommit` |
| `abortTransaction` | any | `finalAbort` |

An entry is partial or prepared if the flag of that name in its body is true; a
flag that is missing or null is false.
-/

namespace LogReplay

namespace Transaction

open Bson

/-- Where an entry stands within its transaction. -/
inductive Role where
  /-- In no transaction. -/
  | outside
  /-- The whole of a transaction. -/
  | single
  /-- The first of several entries. -/
  | firstOfMany
  /-- Neither the first nor the last. -/
  | continuation
  /-- The last, and the transaction is committed. -/
  | finalCommit
  /-- The last, and the transaction is aborted. -/
  | finalAbort
deriving DecidableEq, Repr, Inhabited

def Role.name : Role → String
  | .outside => "non_txn"
  | .single => "single"
  | .firstOfMany => "first_of_multi"
  | .continuation => "continuation"
  | .finalCommit => "final_commit"
  | .finalAbort => "final_abort"

/-- Where an entry belongs. -/
structure Placement where
  identity : Identity
  role : Role
  /-- The transaction has more entries than this one. -/
  spansEntries : Bool
deriving DecidableEq, Repr

/-- The commands that transactions are made of. -/
inductive Command where
  | applyOps
  | commit
  | abort
deriving DecidableEq, Repr

def Command.ofName? (name : String) : Option Command :=
  if name = "applyOps" then some .applyOps
  else if name = "commitTransaction" then some .commit
  else if name = "abortTransaction" then some .abort
  else none

/-- A truth value in the body of a command. -/
def readFlag (body : Document) (key : String) : Except Fault Bool :=
  match body.field? key with
  | none => .ok false
  | some .null => .ok false
  | some (.boolean flag) => .ok flag
  | some other => .error (.malformed (.flag key other.kind))

namespace Placement

/-- The place of an entry outside of all transactions. -/
def outside : Placement :=
  ⟨.none, .outside, false⟩

/-- The role of an `applyOps` entry, from its link and from whether more is to
come before the commit. -/
def ofApplyOps (identity : Identity) (linked unfinished : Bool) : Placement :=
  match linked, unfinished with
  | false, false => ⟨identity, .single, false⟩
  | false, true => ⟨identity, .firstOfMany, true⟩
  | true, true => ⟨identity, .continuation, true⟩
  | true, false => ⟨identity, .finalCommit, true⟩

/-- The command of an entry, if it is one that transactions are made of. -/
def command? (e : Entry) : Option Command :=
  if e.isCommand then e.commandName?.bind Command.ofName? else none

/-- Places an entry. -/
def ofEntry (e : Entry) : Except Fault Placement :=
  match command? e, e.session, e.transactionNumber with
  | some command, some session, some number => do
      let identity ← Identity.ofSession session number
      match command with
      | .applyOps =>
          let isPartial ← readFlag e.body "partialTxn"
          let isPrepared ← readFlag e.body "prepare"
          pure (ofApplyOps identity e.hasPrevious (isPartial || isPrepared))
      | .commit => pure ⟨identity, .finalCommit, e.hasPrevious⟩
      | .abort => pure ⟨identity, .finalAbort, e.hasPrevious⟩
  | _, _, _ => .ok outside

/-- The entry belongs to a transaction. -/
def isTransactional (p : Placement) : Bool :=
  p.role != .outside

/-- The entry opens a transaction. -/
def isFirst (p : Placement) : Bool :=
  p.role == .single || p.role == .firstOfMany

/-- The entry ends a transaction. -/
def isFinal (p : Placement) : Bool :=
  p.role == .single || p.role == .finalCommit || p.role == .finalAbort

def isCommit (p : Placement) : Bool :=
  p.role == .single || p.role == .finalCommit

def isAbort (p : Placement) : Bool :=
  p.role == .finalAbort

end Placement

/-- A command that transactions are made of, with only one of session id and
transaction number: it is placed outside of all transactions, but it is odd
enough to be noted. -/
def hasHalfSession (e : Entry) : Bool :=
  (Placement.command? e).isSome && (e.session.isSome != e.transactionNumber.isSome)

end Transaction

end LogReplay
