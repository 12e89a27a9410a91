/-
Module: LogReplay.Proofs.Reply.Version
Purpose: Versions are in the lexicographic order of their numbers.
Main exports:
  BuildInfo.integers, BuildInfo.reaches_iff_le, BuildInfo.isAtLeast_mono,
  BuildInfo.OrdersVersions, BuildInfo.versions_ordered
-/
import LogReplay.Session.Indexing
import Mathlib.Data.Int.Order.Basic
import Mathlib.Data.List.Lex

/-!
A version reaches a target if it is the target or comes after it, where versions are
ordered like words: the first different number decides, and a version comes after all
its proper prefixes.  This is the order of lists of integers, and it is linear.

So a version that reaches a target reaches everything before the target as well.  The two
versions from which commands wait for a majority themselves, 3.6.0 for changing a
collection and 3.3.5 for building indexes, are met in this order.
-/

namespace LogReplay

open Bson (Document)

namespace BuildInfo

/-- The numbers of a version in the order of the integers. -/
def integers (numbers : List Int32) : List Int :=
  numbers.map Int32.toInt

theorem integers_injective : Function.Injective integers :=
  List.map_injective_iff.mpr fun _ _ => Int32.toInt_inj.mp

/-- The first different number decides. -/
theorem cons_le_cons_iff {n m : Int} {rest others : List Int} :
    n :: rest ≤ m :: others ↔ n < m ∨ n = m ∧ rest ≤ others := by
  rw [← not_lt, List.cons_lt_cons_iff]
  rcases lt_trichotomy n m with before | rfl | after
  · simp [before, before.not_gt, before.ne']
  · simp
  · simp [after, after.not_gt, after.ne']

theorem reaches_iff_le (found want : List Int32) :
    reaches found want = true ↔ integers want ≤ integers found := by
  induction found, want using reaches.induct with
  | case1 found =>
      have before : integers [] ≤ integers found := not_lt.mp (List.not_lt_nil _)
      simp only [reaches, before]
  | case2 want wants =>
      have after : integers [] < integers (want :: wants) := List.nil_lt_cons _ _
      simp only [reaches, Bool.false_eq_true, false_iff, not_le, after]
  | case3 rest number wants inductionHypothesis =>
      simp only [integers, List.map_cons, cons_le_cons_iff] at inductionHypothesis ⊢
      simp [reaches, inductionHypothesis]
  | case4 found rest want wants different =>
      have apart : want.toInt ≠ found.toInt := fun same =>
        different (Int32.toInt_inj.mp same).symm
      simp only [integers, List.map_cons, cons_le_cons_iff, apart, false_and, or_false]
      simp only [reaches, if_neg different, decide_eq_true_iff, Int32.lt_iff_toInt_lt]

theorem isAtLeast_iff_le (info : BuildInfo) (target : List Int32) :
    info.isAtLeast target = true ↔ integers target ≤ integers info.numbers :=
  reaches_iff_le info.numbers target

/-- What reaches a target reaches everything before it. -/
theorem isAtLeast_mono {info : BuildInfo} {target lesser : List Int32}
    (reached : info.isAtLeast target = true) (before : integers lesser ≤ integers target) :
    info.isAtLeast lesser = true := by
  rw [isAtLeast_iff_le] at reached ⊢
  exact before.trans reached

end BuildInfo

namespace Session

variable {σ : Type} (s : Session σ) {info : BuildInfo}

theorem modifyCollection_of_isAtLeast (recent : info.isAtLeast [3, 6, 0] = true)
    (database : String) (command : Document) :
    s.modifyCollection database command info =
      s.retryingWrite "collMod" fun _ => s.perform database (majority command) := by
  simp only [modifyCollection, recent, if_true]

theorem createIndexes_of_isAtLeast (recent : info.isAtLeast [3, 3, 5] = true)
    (ns : Namespace) (indexes : List Document) :
    s.createIndexes ns indexes info =
      s.retryingWrite "createIndexes" fun _ =>
        s.perform ns.database (createIndexesCommand ns indexes) := by
  simp only [createIndexes, recent, if_true, bind_pure_unit]

end Session

namespace BuildInfo

/-- The comparison of versions is a linear order, and commands go by it. -/
structure OrdersVersions : Prop where
  /-- An order of lists in which a proper prefix comes first. -/
  lexicographic : ∀ (info : BuildInfo) (target : List Int32), info.isAtLeast target = true ↔
    target = info.numbers ∨ List.Lex (· < ·) (integers target) (integers info.numbers)
  reflexive : ∀ v, reaches v v = true
  total : ∀ v w, reaches v w = true ∨ reaches w v = true
  antisymmetric : ∀ v w, reaches v w = true → reaches w v = true → v = w
  transitive : ∀ u v w, reaches u v = true → reaches v w = true → reaches u w = true
  monotone : ∀ (info : BuildInfo) (target lesser : List Int32),
    info.isAtLeast target = true → reaches target lesser = true → info.isAtLeast lesser = true
  /-- A database that waits for a majority when a collection is changed does so as well when
  indexes are built, and is not asked to wait afterwards. -/
  gates : ∀ {σ : Type} (s : Session σ) (info : BuildInfo), info.isAtLeast [3, 6, 0] = true →
    (∀ database command, s.modifyCollection database command info =
      s.retryingWrite "collMod" fun _ => s.perform database (majority command)) ∧
    ∀ ns indexes, s.createIndexes ns indexes info =
      s.retryingWrite "createIndexes" fun _ =>
        s.perform ns.database (Session.createIndexesCommand ns indexes)

/-- Versions are in the lexicographic order of their numbers. -/
theorem versions_ordered : OrdersVersions where
  lexicographic := by
    intro info target
    rw [isAtLeast_iff_le, le_iff_eq_or_lt, integers_injective.eq_iff]
    rfl
  reflexive := fun v => (reaches_iff_le v v).mpr le_rfl
  total := by
    intro v w
    simp only [reaches_iff_le]
    exact le_total _ _
  antisymmetric := by
    intro v w there back
    rw [reaches_iff_le] at there back
    exact integers_injective (back.antisymm there)
  transitive := by
    intro u v w first second
    rw [reaches_iff_le] at first second ⊢
    exact second.trans first
  monotone := by
    intro info target lesser reached before
    exact isAtLeast_mono reached ((reaches_iff_le target lesser).mp before)
  gates := by
    intro σ s info recent
    have earlier : info.isAtLeast [3, 3, 5] = true := isAtLeast_mono recent (by decide)
    exact ⟨s.modifyCollection_of_isAtLeast recent, s.createIndexes_of_isAtLeast earlier⟩

end BuildInfo

end LogReplay
