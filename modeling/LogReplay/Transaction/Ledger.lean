/-
Module: LogReplay.Transaction.Ledger
Purpose: The transactions that have begun and are not yet done with, each with
  the entries received for it.
Main exports:
  Phase, Progress, Ledger, Ledger.add, Ledger.entriesOf, Ledger.purge,
  Ledger.oldestActive?
-/
import LogReplay.Transaction.Placement

/-!
Per identity a transaction is absent, gathering entries, committed with its
entries in the order of receipt, or aborted.  `add` moves it forward, `purge`
makes it absent again, and nothing else changes it:

* the first of several entries opens a gathering transaction, and a single entry
  a committed one;
* a continuation is gathered, and a final commit is gathered and ends gathering;
* an abort ends gathering, or marks an absent transaction as aborted: it may have
  aborted before any of its entries was seen.

Every other step is refused and leaves the ledger as it was.
-/

namespace LogReplay.Transaction

open Bson (Timestamp)

/-- How far a transaction has come. -/
inductive Phase where
  | gathering (entries : List Entry)
  | committed (entries : List Entry)
  | aborted
deriving DecidableEq

/-- No more entries are expected. -/
def Phase.isFinal : Phase → Bool
  | .gathering _ => false
  | .committed _ => true
  | .aborted => true

def Phase.isAborted : Phase → Bool
  | .aborted => true
  | _ => false

/-- What is known of one transaction. -/
structure Progress where
  phase : Phase
  /-- The timestamp of the first entry seen. -/
  first : Timestamp
deriving DecidableEq

/-- Transactions by identity, each at most once. -/
structure Ledger where
  records : List (Identity × Progress)
  distinct : (records.map Prod.fst).Nodup

namespace Ledger

def empty : Ledger where
  records := []
  distinct := by simp

/-- The record of an identity among others. -/
def lookup (id : Identity) : List (Identity × Progress) → Option Progress
  | [] => none
  | (other, progress) :: rest => if other = id then some progress else lookup id rest

def progress? (l : Ledger) (id : Identity) : Option Progress :=
  lookup id l.records

def contains (l : Ledger) (id : Identity) : Bool :=
  (l.progress? id).isSome

/-- The number of transactions. -/
def size (l : Ledger) : Nat :=
  l.records.length

def isEmpty (l : Ledger) : Bool :=
  l.records.isEmpty

/-- Forgets a transaction. -/
def erase (l : Ledger) (id : Identity) : Ledger where
  records := l.records.filter fun record => record.1 ≠ id
  distinct := l.distinct.sublist (List.filter_sublist.map _)

theorem not_mem_erase (l : Ledger) (id : Identity) :
    id ∉ (l.erase id).records.map Prod.fst := by
  intro member
  obtain ⟨record, inFilter, same⟩ := List.mem_map.mp member
  simp only [erase, List.mem_filter, decide_eq_true_eq] at inFilter
  exact inFilter.2 same

/-- Records the progress of a transaction in place of what was recorded before. -/
def put (l : Ledger) (id : Identity) (progress : Progress) : Ledger where
  records := (id, progress) :: (l.erase id).records
  distinct := by
    simp only [List.map_cons, List.nodup_cons]
    exact ⟨l.not_mem_erase id, (l.erase id).distinct⟩

/-- A refused step. -/
def refuse {α : Type} (id : Identity) (reason : Refusal) : Except Fault α :=
  .error (.refused id.text reason)

/-- Takes in an entry at its place. -/
def add (l : Ledger) (place : Placement) (entry : Entry) : Except Fault Ledger :=
  let id := place.identity
  match place.role, l.progress? id with
  | .outside, _ => refuse id .notTransactional
  | .single, none => .ok (l.put id ⟨.committed [entry], entry.timestamp⟩)
  | .single, some _ => refuse id .collides
  | .firstOfMany, none => .ok (l.put id ⟨.gathering [entry], entry.timestamp⟩)
  | .firstOfMany, some _ => refuse id .collides
  | .continuation, some ⟨.gathering entries, first⟩ =>
      .ok (l.put id ⟨.gathering (entries ++ [entry]), first⟩)
  | .continuation, none => refuse id .noLiveTransaction
  | .continuation, some _ => refuse id .alreadyFinalized
  | .finalCommit, some ⟨.gathering entries, first⟩ =>
      .ok (l.put id ⟨.committed (entries ++ [entry]), first⟩)
  | .finalCommit, none => refuse id .noLiveTransaction
  | .finalCommit, some _ => refuse id .alreadyFinalized
  | .finalAbort, some ⟨.gathering _, first⟩ => .ok (l.put id ⟨.aborted, first⟩)
  | .finalAbort, none => .ok (l.put id ⟨.aborted, entry.timestamp⟩)
  | .finalAbort, some _ => refuse id .alreadyFinalized

/-- The entries of a committed transaction, in the order of receipt. -/
def entriesOf (l : Ledger) (id : Identity) : Except Fault (List Entry) :=
  match l.progress? id with
  | none => refuse id .nothingToRead
  | some ⟨.committed entries, _⟩ => .ok entries
  | some ⟨.gathering _, _⟩ => refuse id .notFinalized
  | some ⟨.aborted, _⟩ => refuse id .aborted

/-- Forgets a transaction that is done with.  An absent one stays absent. -/
def purge (l : Ledger) (id : Identity) : Ledger :=
  l.erase id

/-- The earlier of two timestamps. -/
def earlier (s t : Timestamp) : Timestamp :=
  if t.before s then t else s

/-- The earliest of some timestamps. -/
def earliest? : List Timestamp → Option Timestamp
  | [] => none
  | first :: rest => some (rest.foldl earlier first)

/-- The timestamp of the first entry of the oldest transaction that still has to
be carried out.  Reading the log from before it shows every entry of every open
transaction again.  Aborted transactions do not count. -/
def oldestActive? (l : Ledger) : Option Timestamp :=
  earliest? ((l.records.filter fun record => !record.2.phase.isAborted).map (·.2.first))

/-! ## What the operations do to the progress of each identity -/

theorem lookup_filter_ne {id other : Identity} (different : other ≠ id)
    (records : List (Identity × Progress)) :
    lookup other (records.filter fun record => record.1 ≠ id) = lookup other records := by
  induction records with
  | nil => rfl
  | cons record rest ih =>
      obtain ⟨name, progress⟩ := record
      by_cases h : name = id
      · subst h
        simpa [lookup, different.symm] using ih
      · by_cases g : name = other
        · subst g
          simp [lookup, h]
        · simpa [lookup, h, g] using ih

theorem lookup_eq_none_of_not_mem {id : Identity} {records : List (Identity × Progress)}
    (missing : id ∉ records.map Prod.fst) : lookup id records = none := by
  induction records with
  | nil => rfl
  | cons record rest ih =>
      obtain ⟨name, progress⟩ := record
      have parts : ¬ id = name ∧ id ∉ rest.map Prod.fst := by simpa using missing
      simp [lookup, Ne.symm parts.1, ih parts.2]

@[simp] theorem progress?_empty (id : Identity) : empty.progress? id = none :=
  rfl

@[simp] theorem progress?_put_self (l : Ledger) (id : Identity) (progress : Progress) :
    (l.put id progress).progress? id = some progress := by
  simp [progress?, put, lookup]

theorem progress?_put_of_ne {l : Ledger} {id other : Identity} (progress : Progress)
    (different : other ≠ id) : (l.put id progress).progress? other = l.progress? other := by
  simp only [progress?, put, lookup, different.symm, if_false]
  exact lookup_filter_ne different l.records

@[simp] theorem progress?_purge_self (l : Ledger) (id : Identity) :
    (l.purge id).progress? id = none :=
  lookup_eq_none_of_not_mem (l.not_mem_erase id)

theorem progress?_purge_of_ne {l : Ledger} {id other : Identity} (different : other ≠ id) :
    (l.purge id).progress? other = l.progress? other :=
  lookup_filter_ne different l.records

/-- Taking in an entry concerns its own identity alone. -/
theorem progress?_add_of_ne {l after : Ledger} {place : Placement} {entry : Entry}
    {other : Identity} (different : other ≠ place.identity)
    (added : l.add place entry = .ok after) : after.progress? other = l.progress? other := by
  unfold add at added
  simp only [refuse] at added
  split at added <;> cases added <;> exact progress?_put_of_ne _ different

end Ledger

end LogReplay.Transaction
