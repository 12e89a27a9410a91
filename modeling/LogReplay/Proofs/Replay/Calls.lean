/-
Module: LogReplay.Proofs.Replay.Calls
Purpose: Runs of a replay: calls in any order, with what each came to.
Main exports:
  Call, Step, Replayer.Reaches, Answers, Replayer.Reaches.invariant,
  Replayer.exists_reaches_of_succeeds
-/
import LogReplay.Proofs.Replay.Effects

/-!
A caller applies entries, flushes and finishes in any order, and may go on after any
fault.  A run keeps for each call what it came to and the states around it, so that a
statement about a run can speak of every state on the way.

What a call does is given by the relations between states alone.  A property that each
call hands on from the state before to the state after holds in every state of a run.
-/

namespace LogReplay.Replay

open Bson (Document)
open Transaction

/-- What can be asked of a replay. -/
inductive Call where
  | apply (entry : Entry)
  | flush
  | finish
deriving DecidableEq

/-- What a call comes to; the counts are handed out at the end alone. -/
abbrev Answer :=
  Except Fault (Option Tally)

/-- One call of a run. -/
structure Step (σ : Type) where
  call : Call
  answer : Answer
  before : Run σ
  after : Run σ

namespace Replayer

variable {σ : Type}

/-- Carries out a call. -/
def answer (p : Replayer σ) : Call → Act (Run σ) Fault (Option Tally)
  | .apply entry => do
      p.apply entry
      pure none
  | .flush => do
      p.flush
      pure none
  | .finish => do
      let tally ← p.finish
      pure (some tally)

/-- These calls, one after the other, lead from a state to another. -/
inductive Reaches (p : Replayer σ) (start : Run σ) : List (Step σ) → Run σ → Prop where
  | start : Reaches p start [] start
  | step {steps : List (Step σ)} {before after : Run σ} {answer : Answer} (call : Call)
      (earlier : Reaches p start steps before)
      (ended : (p.answer call).run before = some (answer, after)) :
      Reaches p start (steps ++ [⟨call, answer, before, after⟩]) after

end Replayer

/-- The entry that a call passes on to be applied. -/
def Call.entry? : Call → Option Entry
  | .apply entry => some entry
  | .flush | .finish => none

/-- The entries that were passed on to be applied, in order. -/
def appliedEntries {σ : Type} (steps : List (Step σ)) : List Entry :=
  steps.filterMap fun step => step.call.entry?

theorem appliedEntries_eq_filterMap_call {σ : Type} (steps : List (Step σ)) :
    appliedEntries steps = (steps.map Step.call).filterMap Call.entry? := by
  rw [List.filterMap_map]
  rfl

theorem appliedEntries_snoc {σ : Type} (steps : List (Step σ)) (step : Step σ) :
    appliedEntries (steps ++ [step]) = appliedEntries steps ++ step.call.entry?.toList := by
  rw [appliedEntries, List.filterMap_append, List.filterMap_cons]
  cases step.call.entry? <;> rfl

/-- The entry belongs to no transaction. -/
def isOutside (e : Entry) : Bool :=
  match Placement.ofEntry e with
  | .ok place => !place.isTransactional
  | .error _ => false

/-! ## What a call does to the state -/

/-- Carrying out a call. -/
inductive Answers (limits : ReplaySettings) :
    State → Call → Answer → State → List (List Document) → Prop where
  | apply {st st' : State} {entry : Entry} {result : Except Fault Unit}
      {batches : List (List Document)} (applies : Applies limits st entry result st' batches) :
      Answers limits st (.apply entry) (result.map fun _ => none) st' batches
  | flush {st st' : State} {result : Except Fault Unit} {batches : List (List Document)}
      (flushes : Flushes st result st' batches) :
      Answers limits st .flush (result.map fun _ => none) st' batches
  | finish {st st' : State} {result : Except Fault Unit} {batches : List (List Document)}
      (flushes : Flushes st result st' batches) :
      Answers limits st .finish (result.map fun _ => some st'.tally) st' batches

theorem Answers.ne_nil {limits : ReplaySettings} {st st' : State} {call : Call}
    {answer : Answer} {batches : List (List Document)}
    (answers : Answers limits st call answer st' batches) :
    ∀ documents ∈ batches, documents ≠ [] := by
  cases answers with
  | apply applies => exact applies.ne_nil
  | flush flushes | finish flushes => exact flushes.ne_nil

/-- A call without an entry sends what is waiting. -/
theorem Answers.flushes {limits : ReplaySettings} {st st' : State} {call : Call}
    {answer : Answer} {batches : List (List Document)}
    (answers : Answers limits st call answer st' batches) (entryless : call.entry? = none) :
    ∃ result, Flushes st result st' batches ∧ answer.isOk = result.isOk := by
  cases answers with
  | apply => cases entryless
  | @flush _ result _ flushes | @finish _ result _ flushes =>
      refine ⟨result, flushes, ?_⟩
      cases result <;> rfl

/-- A call that succeeds applies an entry, or sends what is waiting. -/
theorem Answers.of_isOk {limits : ReplaySettings} {st st' : State} {call : Call}
    {answer : Answer} {batches : List (List Document)}
    (answers : Answers limits st call answer st' batches) (succeeded : answer.isOk = true) :
    (∃ entry, call = .apply entry ∧ Applies limits st entry (.ok ()) st' batches) ∨
      call.entry? = none ∧ Flushes st (.ok ()) st' batches := by
  cases answers with
  | @apply _ entry result _ applies =>
      cases result with
      | error fault => cases succeeded
      | ok => exact .inl ⟨entry, rfl, applies⟩
  | @flush _ result _ flushes | @finish _ result _ flushes =>
      cases result with
      | error fault => cases succeeded
      | ok => exact .inr ⟨rfl, flushes⟩

namespace Replayer

variable {σ : Type} (p : Replayer σ)

theorem answer_ends (call : Call) (r : Run σ) :
    (p.answer call).Ends r fun answer t =>
      ∃ batches,
        Answers p.settings r.state call answer t.state batches ∧
          p.Acknowledges r t batches := by
  cases call with
  | apply entry =>
      refine Act.ends_bind.mpr ((p.apply_ends entry r).mono ?_)
      rintro (fault | ⟨⟩) t ⟨batches, applies, sent⟩
      · exact ⟨batches, .apply applies, sent⟩
      · exact (Act.ends_pure _).mpr ⟨batches, .apply applies, sent⟩
  | flush =>
      refine Act.ends_bind.mpr ((p.flush_ends r).mono ?_)
      rintro (fault | ⟨⟩) t ⟨batches, flushes, sent⟩
      · exact ⟨batches, .flush flushes, sent⟩
      · exact (Act.ends_pure _).mpr ⟨batches, .flush flushes, sent⟩
  | finish =>
      simp only [answer, finish, Act.ends_bind]
      refine (p.flush_ends r).mono ?_
      rintro (fault | ⟨⟩) t ⟨batches, flushes, sent⟩
      · exact ⟨batches, .finish flushes, sent⟩
      · simp only [Act.ends_read, Act.ends_pure]
        exact ⟨batches, .finish flushes, sent⟩

variable {p}

/-- A property that every call hands on holds throughout a run. -/
theorem Reaches.invariant {start r : Run σ} {steps : List (Step σ)}
    (reached : p.Reaches start steps r) (holds : List (Step σ) → Run σ → Prop)
    (initially : holds [] start)
    (handedOn : ∀ (steps : List (Step σ)) (step : Step σ) (batches : List (List Document)),
      holds steps step.before →
      Answers p.settings step.before.state step.call step.answer step.after.state batches →
      p.Acknowledges step.before step.after batches →
      holds (steps ++ [step]) step.after) : holds steps r := by
  induction reached with
  | start => exact initially
  | @step steps before after answer call earlier ended inductionHypothesis =>
      obtain ⟨batches, answers, sent⟩ := p.answer_ends call before answer after ended
      exact handedOn steps ⟨call, answer, before, after⟩ batches inductionHypothesis answers
        sent

/-- Runs can be joined. -/
theorem Reaches.trans {start middle last : Run σ} {earlier later : List (Step σ)}
    (one : p.Reaches start earlier middle) (two : p.Reaches middle later last) :
    p.Reaches start (earlier ++ later) last := by
  induction two with
  | start => rwa [List.append_nil]
  | step call _ ended inductionHypothesis =>
      rw [← List.append_assoc]
      exact .step call inductionHypothesis ended

/-- The last call of a run. -/
theorem Reaches.snoc_inv {start last : Run σ} {steps : List (Step σ)} {step : Step σ}
    (reached : p.Reaches start (steps ++ [step]) last) :
    p.Reaches start steps step.before ∧
      (p.answer step.call).run step.before = some (step.answer, step.after) ∧
        step.after = last := by
  generalize whole : steps ++ [step] = all at reached
  cases reached with
  | start => exact absurd whole (List.concat_ne_nil _ _)
  | step call earlier ended =>
      obtain ⟨rfl, same⟩ := List.append_inj' whole rfl
      cases same
      exact ⟨earlier, ended, rfl⟩

/-- A run of some calls after others goes through a state in between. -/
theorem Reaches.split {start last : Run σ} {earlier later : List (Step σ)}
    (reached : p.Reaches start (earlier ++ later) last) :
    ∃ middle, p.Reaches start earlier middle ∧ p.Reaches middle later last := by
  generalize whole : earlier ++ later = all at reached
  induction reached generalizing later with
  | start =>
      obtain ⟨rfl, rfl⟩ := List.append_eq_nil_iff.mp whole
      exact ⟨start, .start, .start⟩
  | @step steps before after answer call prior ended inductionHypothesis =>
      rcases List.eq_nil_or_concat later with rfl | ⟨rest, final, rfl⟩
      · rw [List.append_nil] at whole
        rw [whole]
        exact ⟨after, .step call prior ended, .start⟩
      · rw [List.concat_eq_append] at whole ⊢
        rw [← List.append_assoc] at whole
        obtain ⟨same, final_⟩ := List.append_inj' whole rfl
        cases final_
        obtain ⟨middle, one, two⟩ := inductionHypothesis same
        exact ⟨middle, one, .step call two ended⟩

/-- A run goes through the state before each of its calls. -/
theorem Reaches.before {start last : Run σ} {earlier later : List (Step σ)} {step : Step σ}
    (reached : p.Reaches start (earlier ++ step :: later) last) :
    p.Reaches start earlier step.before := by
  rw [List.append_cons] at reached
  obtain ⟨_, one, _⟩ := reached.split
  exact one.snoc_inv.1

/-! ## Runs that are computed -/

variable (p)

/-- Carries out calls one after the other. -/
def perform : List Call → Run σ → Option (List (Step σ) × Run σ)
  | [], r => some ([], r)
  | call :: rest, r => do
      let (answer, after) ← (p.answer call).run r
      let (steps, last) ← perform rest after
      some (⟨call, answer, r, after⟩ :: steps, last)

/-- All calls can be carried out, and succeed. -/
def succeeds (calls : List Call) (start : Run σ) : Bool :=
  match p.perform calls start with
  | some (steps, _) => steps.all fun step => step.answer.isOk
  | none => false

variable {p}

/-- What is computed is reached. -/
theorem reaches_of_perform {calls : List Call} {start last : Run σ} {steps : List (Step σ)}
    (performed : p.perform calls start = some (steps, last)) :
    p.Reaches start steps last ∧ steps.map Step.call = calls := by
  induction calls generalizing start steps with
  | nil =>
      cases performed
      exact ⟨.start, rfl⟩
  | cons call rest inductionHypothesis =>
      simp only [perform, bind, Option.bind_eq_some_iff] at performed
      rcases performed with ⟨⟨answer, middle⟩, ended, ⟨later, _⟩, performedRest, same⟩
      cases same
      obtain ⟨reached, asked⟩ := inductionHypothesis performedRest
      exact ⟨Reaches.trans (.step call .start ended) reached, congrArg (call :: ·) asked⟩

theorem exists_reaches_of_succeeds {calls : List Call} {start : Run σ}
    (succeeds : p.succeeds calls start = true) :
    ∃ steps last, p.Reaches start steps last ∧ steps.map Step.call = calls ∧
      ∀ step ∈ steps, step.answer.isOk = true := by
  rw [Replayer.succeeds] at succeeds
  cases performed : p.perform calls start with
  | none =>
      rw [performed] at succeeds
      cases succeeds
  | some run =>
      rw [performed] at succeeds
      obtain ⟨reached, asked⟩ := reaches_of_perform performed
      exact ⟨run.1, run.2, reached, asked, List.all_eq_true.mp succeeds⟩

end Replayer

/-- A destination that accepts every command at once. -/
def agreeable : Destination Unit where
  now _ := 0
  run _ _ _ := (.ok [("ok", .int32 1)], ())
  pause _ _ := ()

/-- A replay with small floors of patience. -/
def modest {σ : Type} (destination : Destination σ) : Replayer σ where
  session :=
    { destination
      settings := .testing
      policy := SessionSettings.testing.policy
      patience := 8 }
  settings := .standard

/-- An insert at a time. -/
def insertAt (time : UInt32) : Entry :=
  { Entry.noop "" with
    timestamp := ⟨time, 1⟩
    operation := "i"
    namespaceText := "shop.orders"
    body := [("_id", .int32 1)] }

end LogReplay.Replay
