/-
Module: LogReplay.Proofs.Transaction.Oldest
Purpose: The oldest transaction that still has to be carried out.
Main exports:
  Timestamp.before_iff_rank_lt, Ledger.oldestActive?_le, Ledger.exists_of_oldestActive?
-/
import LogReplay.Transaction.Ledger

/-!
Timestamps are compared by a number each, so that what follows from their order is
arithmetic.  The oldest active timestamp is then a minimum over the records that are not
aborted: it is one of theirs, and none of theirs is before it.
-/

namespace LogReplay

namespace Bson.Timestamp

/-- The place of a timestamp among all timestamps. -/
def rank (t : Timestamp) : Nat :=
  t.time.toNat * 2 ^ 32 + t.increment.toNat

theorem before_iff_rank_lt {s t : Timestamp} : s.before t = true ↔ s.rank < t.rank := by
  have small := s.increment.toNat_lt
  have small' := t.increment.toNat_lt
  simp only [before, rank, Bool.or_eq_true, Bool.and_eq_true, decide_eq_true_eq, beq_iff_eq,
    UInt32.lt_iff_toNat_lt, ← UInt32.toNat_inj]
  omega

theorem before_eq_false_iff {s t : Timestamp} : s.before t = false ↔ t.rank ≤ s.rank := by
  rw [← Bool.not_eq_true, before_iff_rank_lt, Nat.not_lt]

theorem rank_injective {s t : Timestamp} (same : s.rank = t.rank) : s = t := by
  have small := s.increment.toNat_lt
  have small' := t.increment.toNat_lt
  obtain ⟨time, increment⟩ := s
  obtain ⟨time', increment'⟩ := t
  simp only [rank, mk.injEq, ← UInt32.toNat_inj] at *
  omega

end Bson.Timestamp

namespace Transaction

open Bson (Timestamp)

/-! ## The earliest of some timestamps -/

theorem rank_earlier (s t : Timestamp) : (Ledger.earlier s t).rank = min s.rank t.rank := by
  rw [Ledger.earlier]
  by_cases before : t.before s = true
  · rw [if_pos before]
    have less := Timestamp.before_iff_rank_lt.mp before
    omega
  · rw [if_neg before]
    have notLess := Timestamp.before_eq_false_iff.mp (Bool.eq_false_iff.mpr before)
    omega

theorem rank_foldl_earlier_le (rest : List Timestamp) :
    ∀ first : Timestamp, ∀ t ∈ first :: rest,
      (rest.foldl Ledger.earlier first).rank ≤ t.rank := by
  induction rest with
  | nil =>
      intro first t member
      rw [List.mem_singleton.mp member]
      exact Nat.le_refl _
  | cons second rest inductionHypothesis =>
      intro first t member
      rw [List.foldl_cons]
      have least := inductionHypothesis (Ledger.earlier first second)
      have joined := least _ List.mem_cons_self
      rw [rank_earlier] at joined
      rcases List.mem_cons.mp member with rfl | later
      · omega
      · rcases List.mem_cons.mp later with rfl | latest
        · omega
        · exact least t (List.mem_cons_of_mem _ latest)

theorem foldl_earlier_mem (rest : List Timestamp) :
    ∀ first : Timestamp, rest.foldl Ledger.earlier first ∈ first :: rest := by
  induction rest with
  | nil =>
      intro first
      exact List.mem_cons_self
  | cons second rest inductionHypothesis =>
      intro first
      rw [List.foldl_cons]
      rcases List.mem_cons.mp (inductionHypothesis (Ledger.earlier first second)) with
        same | later
      · rw [same, Ledger.earlier]
        split
        · exact List.mem_cons_of_mem _ List.mem_cons_self
        · exact List.mem_cons_self
      · exact List.mem_cons_of_mem _ (List.mem_cons_of_mem _ later)

/-! ## Records of a ledger -/

namespace Ledger

theorem mem_of_lookup {id : Identity} {progress : Progress}
    {records : List (Identity × Progress)} (found : lookup id records = some progress) :
    (id, progress) ∈ records := by
  induction records with
  | nil => cases found
  | cons record rest inductionHypothesis =>
      rcases record with ⟨other, known⟩
      rw [lookup] at found
      split at found
      next same =>
        cases found
        rw [same]
        exact List.mem_cons_self
      next => exact List.mem_cons_of_mem _ (inductionHypothesis found)

theorem lookup_of_mem {id : Identity} {progress : Progress}
    {records : List (Identity × Progress)} (distinct : (records.map Prod.fst).Nodup)
    (member : (id, progress) ∈ records) : lookup id records = some progress := by
  induction records with
  | nil => cases member
  | cons record rest inductionHypothesis =>
      rw [List.map_cons, List.nodup_cons] at distinct
      rw [lookup]
      rcases List.mem_cons.mp member with rfl | later
      · rw [if_pos rfl]
      · have different : record.1 ≠ id := by
          intro same
          exact distinct.1 (same ▸ List.mem_map_of_mem later)
        rw [if_neg different]
        exact inductionHypothesis distinct.2 later

variable {l : Ledger}

/-- No transaction that still has to be carried out began before the oldest one. -/
theorem oldestActive?_le {id : Identity} {progress : Progress}
    (recorded : l.progress? id = some progress) (active : progress.phase.isAborted = false) :
    ∃ t, l.oldestActive? = some t ∧ t.rank ≤ progress.first.rank := by
  have member : progress.first ∈
      (l.records.filter fun record => !record.2.phase.isAborted).map (·.2.first) := by
    refine List.mem_map.mpr ⟨(id, progress), List.mem_filter.mpr ⟨mem_of_lookup recorded, ?_⟩, rfl⟩
    rw [active]
    rfl
  rw [oldestActive?]
  cases firsts : (l.records.filter fun record => !record.2.phase.isAborted).map (·.2.first) with
  | nil =>
      rw [firsts] at member
      cases member
  | cons first rest =>
      rw [firsts] at member
      exact ⟨_, rfl, rank_foldl_earlier_le rest first _ member⟩

/-- The oldest one is recorded. -/
theorem exists_of_oldestActive? {t : Timestamp} (oldest : l.oldestActive? = some t) :
    ∃ id progress, l.progress? id = some progress ∧ progress.phase.isAborted = false ∧
      progress.first = t := by
  rw [oldestActive?] at oldest
  cases firsts : (l.records.filter fun record => !record.2.phase.isAborted).map (·.2.first) with
  | nil =>
      rw [firsts] at oldest
      cases oldest
  | cons first rest =>
      rw [firsts] at oldest
      cases oldest
      have member := foldl_earlier_mem rest first
      rw [← firsts] at member
      obtain ⟨⟨id, progress⟩, kept, same⟩ := List.mem_map.mp member
      obtain ⟨inRecords, active⟩ := List.mem_filter.mp kept
      exact ⟨id, progress, lookup_of_mem l.distinct inRecords, by simpa using active, same⟩

end Ledger

end Transaction

end LogReplay
