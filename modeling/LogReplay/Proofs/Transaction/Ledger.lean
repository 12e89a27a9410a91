/-
Module: LogReplay.Proofs.Transaction.Ledger
Purpose: What an accepted entry makes of the record of its transaction.
Main exports:
  Advances, Ledger.exists_advances_of_add, Ledger.add_of_advances,
  Ledger.entriesOf_put_committed, Ledger.size_purge, Ledger.size_put
-/
import LogReplay.Transaction.Ledger

/-!
A ledger accepts an entry only if its role fits what is recorded for its transaction.
`Advances` lists the six ways in which it can fit, each with the record that follows.
-/

namespace LogReplay.Transaction

open Bson (Timestamp)

/-- What an entry of a role makes of the record of its transaction. -/
inductive Advances (entry : Entry) : Role → Option Progress → Progress → Prop where
  | whole : Advances entry .single none ⟨.committed [entry], entry.timestamp⟩
  | opened : Advances entry .firstOfMany none ⟨.gathering [entry], entry.timestamp⟩
  | continued (entries : List Entry) (first : Timestamp) :
      Advances entry .continuation (some ⟨.gathering entries, first⟩)
        ⟨.gathering (entries ++ [entry]), first⟩
  | completed (entries : List Entry) (first : Timestamp) :
      Advances entry .finalCommit (some ⟨.gathering entries, first⟩)
        ⟨.committed (entries ++ [entry]), first⟩
  | abandoned (entries : List Entry) (first : Timestamp) :
      Advances entry .finalAbort (some ⟨.gathering entries, first⟩) ⟨.aborted, first⟩
  | unseen : Advances entry .finalAbort none ⟨.aborted, entry.timestamp⟩

namespace Ledger

variable {l after : Ledger} {place : Placement} {entry : Entry}

/-- An accepted entry advances the record of its transaction, and no other. -/
theorem exists_advances_of_add (added : l.add place entry = .ok after) :
    ∃ progress, Advances entry place.role (l.progress? place.identity) progress ∧
      after = l.put place.identity progress := by
  unfold add at added
  simp only [refuse] at added
  split at added <;> cases added
  case h_2 role absent => exact ⟨_, role ▸ absent ▸ .whole, rfl⟩
  case h_4 role absent => exact ⟨_, role ▸ absent ▸ .opened, rfl⟩
  case h_6 entries first role gathering =>
      exact ⟨_, role ▸ gathering ▸ .continued entries first, rfl⟩
  case h_9 entries first role gathering =>
      exact ⟨_, role ▸ gathering ▸ .completed entries first, rfl⟩
  case h_12 entries first role gathering =>
      exact ⟨_, role ▸ gathering ▸ .abandoned entries first, rfl⟩
  case h_13 role absent => exact ⟨_, role ▸ absent ▸ .unseen, rfl⟩

/-- An entry that advances the record of its transaction is accepted. -/
theorem add_of_advances {progress : Progress}
    (advances : Advances entry place.role (l.progress? place.identity) progress) :
    l.add place entry = .ok (l.put place.identity progress) := by
  rw [add]
  generalize place.role = role at advances ⊢
  generalize l.progress? place.identity = record at advances ⊢
  cases advances <;> rfl

theorem entriesOf_put_committed (l : Ledger) (id : Identity) (entries : List Entry)
    (first : Timestamp) :
    (l.put id ⟨.committed entries, first⟩).entriesOf id = .ok entries := by
  rw [entriesOf, progress?_put_self]

/-! ## The number of transactions -/

/-- Of records with distinct identities, only the one of an identity is dropped with it. -/
theorem length_filter_ne_add {id : Identity} {records : List (Identity × Progress)}
    (distinct : (records.map Prod.fst).Nodup) :
    (records.filter fun record => record.1 ≠ id).length + (lookup id records).isSome.toNat =
      records.length := by
  induction records with
  | nil => rfl
  | cons record rest inductionHypothesis =>
      obtain ⟨name, progress⟩ := record
      obtain ⟨fresh, others⟩ := List.nodup_cons.mp distinct
      have later := inductionHypothesis others
      by_cases same : name = id
      · subst same
        rw [lookup_eq_none_of_not_mem fresh] at later
        rw [List.filter_cons_of_neg (by simp), lookup, if_pos rfl, List.length_cons]
        exact congrArg Nat.succ later
      · rw [List.filter_cons_of_pos (by simpa using same), lookup, if_neg same,
          List.length_cons, List.length_cons, Nat.add_right_comm, later]

theorem size_purge (l : Ledger) (id : Identity) :
    (l.purge id).size + (l.contains id).toNat = l.size :=
  length_filter_ne_add l.distinct

theorem size_put (l : Ledger) (id : Identity) (progress : Progress) :
    (l.put id progress).size = (l.purge id).size + 1 :=
  rfl

/-- A record that is put and purged leaves no trace. -/
theorem size_purge_put (l : Ledger) (id : Identity) (progress : Progress) :
    ((l.put id progress).purge id).size = (l.purge id).size := by
  have whole := (l.put id progress).size_purge id
  rw [contains, progress?_put_self, size_put] at whole
  exact Nat.succ.inj whole

end Ledger

end LogReplay.Transaction
