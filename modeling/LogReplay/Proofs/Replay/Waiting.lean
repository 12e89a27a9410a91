/-
Module: LogReplay.Proofs.Replay.Waiting
Purpose: What becomes of the entries that were accepted into the waiting batch, in runs
  in which any call may fail.
Main exports:
  Handles, Fate, fates, Replayer.Reaches.accepted_accounted_for
-/
import LogReplay.Proofs.Replay.Calls
import Mathlib.Data.List.Flatten

/-!
An entry outside of transactions waits in a batch, and the batch leaves the state when
it is sent.  If the destination applies it, its entries are acknowledged; if not, the
call fails, and the batch is not put back.  There is no third way for it to leave.

So the accepted entries of a run can be listed by what became of them, in the order in
which they came: those of batches that were applied, those of batches that were lost,
and those that still wait.
-/

namespace LogReplay.Replay

open Bson (Document Timestamp)
open Transaction

/-! ## What a call does with the waiting entries -/

/-- The documents that a call accepts to wait. -/
def acceptedBy : Call → Answer → List Document
  | .apply entry, .ok _ => if isOutside entry then [entry.toDocument] else []
  | _, _ => []

/-- What may happen to waiting entries while others are accepted. -/
inductive Handles : (waiting after accepted : List Document) → List (List Document) →
    (succeeded : Bool) → Prop where
  /-- They go on waiting, and nothing else is applied before them. -/
  | kept {waiting accepted : List Document} {batches : List (List Document)}
      {succeeded : Bool} (silent : waiting = [] ∨ batches = []) :
      Handles waiting (waiting ++ accepted) accepted batches succeeded
  /-- They are applied first of all. -/
  | sent {waiting accepted : List Document} {batches : List (List Document)}
      {succeeded : Bool} (nonempty : waiting ≠ []) :
      Handles waiting accepted accepted (waiting :: batches) succeeded
  /-- They are gone. -/
  | lost {waiting : List Document} (nonempty : waiting ≠ []) : Handles waiting [] [] [] false

section Relations

variable {limits : ReplaySettings} {st st' : State} {batches : List (List Document)}

/-- A flush that fails loses what was waiting. -/
theorem Flushes.handles_of_error {fault : Fault}
    (flushes : Flushes st (.error fault) st' batches) :
    Handles st.pending.documents st'.pending.documents [] batches false := by
  cases flushes with
  | lost _ waiting => exact .lost (Batch.documents_ne_nil waiting)

/-- After a flush that succeeds, nothing waits but what is accepted then. -/
theorem Flushes.handles_of_ok (flushes : Flushes st (.ok ()) st' batches)
    (accepted : List Document) (more : List (List Document)) (succeeded : Bool) :
    Handles st.pending.documents (st'.pending.documents ++ accepted) accepted
      (batches ++ more) succeeded := by
  cases flushes with
  | idle nothing => exact .kept (.inl (List.isEmpty_iff.mp nothing))
  | applied waiting => exact .sent (Batch.documents_ne_nil waiting)

theorem Flushes.handles {result : Except Fault Unit}
    (flushes : Flushes st result st' batches) :
    Handles st.pending.documents st'.pending.documents [] batches result.isOk := by
  cases result with
  | error fault => exact flushes.handles_of_error
  | ok =>
      have handled := flushes.handles_of_ok [] [] true
      rw [List.append_nil, List.append_nil] at handled
      exact handled

/-- Nothing happens to the waiting entries. -/
theorem Handles.unchanged (waiting : List Document) (succeeded : Bool) :
    Handles waiting waiting [] [] succeeded := by
  have kept : Handles waiting (waiting ++ []) [] [] succeeded := .kept (.inr rfl)
  rw [List.append_nil] at kept
  exact kept

theorem Holds.handles {entry : Entry} {result : Except Fault Unit}
    (holds : Holds limits st entry result st' batches) :
    Handles st.pending.documents st'.pending.documents
      (if result.isOk then [entry.toDocument] else []) batches result.isOk := by
  cases holds with
  | unencodable formless => exact .unchanged _ _
  | fits measured room => exact .kept (.inr rfl)
  | unflushed measured full flush => exact flush.handles_of_error
  | flushed measured full flush =>
      have handled := flush.handles_of_ok [entry.toDocument] [] true
      rw [List.append_nil] at handled
      exact handled

theorem Concludes.handles {place : Placement} {timestamp : Timestamp}
    {result : Except Fault Unit}
    (concludes : Concludes limits place timestamp st result st' batches) :
    Handles st.pending.documents st'.pending.documents [] batches result.isOk := by
  have flushed {middle : State} {earlier : List (List Document)}
      (flush : Flushes st (.ok ()) middle earlier) (later : List (List Document))
      (succeeded : Bool) :
      Handles st.pending.documents middle.pending.documents [] (earlier ++ later)
        succeeded := by
    have handled := flush.handles_of_ok [] later succeeded
    rw [List.append_nil] at handled
    exact handled
  cases concludes with
  | gathered | aborted => exact .unchanged _ _
  | unflushed commits flush => exact flush.handles_of_error
  | unreadable commits flush missing =>
      have handled := flushed flush [] false
      rw [List.append_nil] at handled
      exact handled
  | unsent commits flush read send => exact flushed flush _ _
  | committed commits flush read send => exact flushed flush _ _

theorem Applies.handles {entry : Entry} {result : Except Fault Unit}
    (applies : Applies limits st entry result st' batches) :
    Handles st.pending.documents st'.pending.documents
      (acceptedBy (.apply entry) (result.map fun _ => none)) batches result.isOk := by
  have inside {place : Placement} (placed : Placement.ofEntry entry = .ok place)
      (transactional : place.isTransactional = true) : isOutside entry = false := by
    simp only [isOutside, placed, transactional, Bool.not_true]
  cases applies with
  | misplaced | refused => exact .unchanged _ _
  | plain placed outside hold =>
      have accepted : isOutside entry = true := by
        simp only [isOutside, placed, outside, Bool.not_false]
      have handled := hold.handles
      cases result with
      | error fault => exact handled
      | ok =>
          simp only [Except.map, acceptedBy, accepted, if_true]
          exact handled
  | entered placed transactional added conclude =>
      have handled := conclude.handles
      cases result with
      | error fault => exact handled
      | ok =>
          simp only [Except.map, acceptedBy, inside placed transactional]
          exact handled

theorem Answers.handles {call : Call} {answer : Answer}
    (answers : Answers limits st call answer st' batches) :
    Handles st.pending.documents st'.pending.documents (acceptedBy call answer) batches
      answer.isOk := by
  cases answers with
  | @apply _ entry result _ applies =>
      have handled := applies.handles
      cases result <;> exact handled
  | @flush _ result _ flushes | @finish _ result _ flushes =>
      have handled := flushes.handles
      cases result <;> exact handled

end Relations

/-! ## What became of the batches of a run -/

/-- A batch that has left the state. -/
structure Fate where
  documents : List Document
  /-- It was acknowledged. -/
  isApplied : Bool

/-- What became of waiting entries, judged by what waits afterwards and by whether
anything was acknowledged in between.  They have left if something was acknowledged, or
if nothing waits any more. -/
def Fate.of? (waiting after : List Document) (acknowledged : Bool) : Option Fate :=
  if waiting.isEmpty then none
  else if acknowledged then some ⟨waiting, true⟩
  else if after.isEmpty then some ⟨waiting, false⟩
  else none

theorem Fate.documents_ne_nil {waiting after : List Document} {acknowledged : Bool}
    {fate : Fate} (left : of? waiting after acknowledged = some fate) :
    fate.documents ≠ [] := by
  cases waiting with
  | nil => cases left
  | cons first rest =>
      cases acknowledged with
      | true =>
          cases left
          exact List.cons_ne_nil _ _
      | false =>
          cases after <;> cases left
          exact List.cons_ne_nil _ _

/-- Nothing is missing from the batches that were applied exactly if all were. -/
theorem Fate.flatMap_documents_filter_eq_iff {fates : List Fate}
    (nonempty : ∀ fate ∈ fates, fate.documents ≠ []) :
    fates.flatMap documents = (fates.filter isApplied).flatMap documents ↔
      ∀ fate ∈ fates, fate.isApplied = true := by
  induction fates with
  | nil => simp
  | cons fate rest inductionHypothesis =>
      obtain ⟨first, others⟩ := List.forall_mem_cons.mp nonempty
      have later := inductionHypothesis others
      cases applied : fate.isApplied with
      | true =>
          rw [List.filter_cons_of_pos applied, List.flatMap_cons, List.flatMap_cons,
            List.append_cancel_left_eq, later, List.forall_mem_cons]
          exact ⟨fun held => ⟨applied, held⟩, And.right⟩
      | false =>
          have skipped : ¬ fate.isApplied = true := Bool.eq_false_iff.mp applied
          rw [List.filter_cons_of_neg skipped, List.flatMap_cons, List.forall_mem_cons]
          constructor
          · intro same
            -- More documents left than were applied, so they cannot be the same.
            have fewer : ((rest.filter isApplied).flatMap documents).length ≤
                (rest.flatMap documents).length :=
              (List.filter_sublist.flatMap documents).length_le
            have lengths := congrArg List.length same
            rw [List.length_append] at lengths
            have something : 0 < fate.documents.length := List.length_pos_iff.mpr first
            omega
          · intro all
            exact absurd all.1 skipped

namespace Handles

variable {waiting after accepted : List Document} {batches : List (List Document)}
  {succeeded : Bool}

theorem fate_kept (silent : waiting = [] ∨ batches = []) :
    Fate.of? waiting (waiting ++ accepted) (!batches.isEmpty) = none := by
  rcases silent with rfl | rfl
  · rfl
  · cases waiting <;> rfl

theorem fate_sent (nonempty : waiting ≠ []) :
    Fate.of? waiting after (!(waiting :: batches).isEmpty) = some ⟨waiting, true⟩ := by
  cases waiting with
  | nil => exact absurd rfl nonempty
  | cons => rfl

theorem fate_lost (nonempty : waiting ≠ []) :
    Fate.of? waiting [] (!([] : List (List Document)).isEmpty) = some ⟨waiting, false⟩ := by
  cases waiting with
  | nil => exact absurd rfl nonempty
  | cons => rfl

/-- What waited and what was accepted has either left or waits now, in this order. -/
theorem conserved (handles : Handles waiting after accepted batches succeeded) :
    waiting ++ accepted =
      (Fate.of? waiting after (!batches.isEmpty)).toList.flatMap Fate.documents ++ after := by
  cases handles with
  | kept silent => rw [fate_kept silent]; rfl
  | sent nonempty => rw [fate_sent nonempty]; simp
  | lost nonempty => rw [fate_lost nonempty]; simp

/-- What is said to be applied was among the batches. -/
theorem applied_sublist (handles : Handles waiting after accepted batches succeeded) :
    (((Fate.of? waiting after (!batches.isEmpty)).toList.filter Fate.isApplied).map
      Fate.documents).Sublist batches := by
  cases handles with
  | kept silent =>
      rw [fate_kept silent]
      exact List.nil_sublist _
  | sent nonempty =>
      rw [fate_sent nonempty]
      exact List.singleton_sublist.mpr List.mem_cons_self
  | lost nonempty =>
      rw [fate_lost nonempty]
      exact List.nil_sublist _

/-- Only a call that fails loses anything. -/
theorem failed_of_lost (handles : Handles waiting after accepted batches succeeded)
    (lost : (Fate.of? waiting after (!batches.isEmpty)).any (!·.isApplied) = true) :
    succeeded = false := by
  cases handles with
  | kept silent => rw [fate_kept silent] at lost; cases lost
  | sent nonempty => rw [fate_sent nonempty] at lost; cases lost
  | lost nonempty => rfl

end Handles

/-- Nothing waits after a flush, and what waited before it is lost exactly if it fails. -/
theorem Flushes.settles {st st' : State} {result : Except Fault Unit}
    {batches : List (List Document)} (flushes : Flushes st result st' batches) :
    st'.pending.documents = [] ∧
      (Fate.of? st.pending.documents st'.pending.documents (!batches.isEmpty)).any
        (!·.isApplied) = !result.isOk := by
  cases flushes with
  | idle nothing =>
      have empty := List.isEmpty_iff.mp nothing
      rw [empty]
      exact ⟨rfl, rfl⟩
  | applied waiting =>
      rw [Handles.fate_sent (Batch.documents_ne_nil waiting)]
      exact ⟨rfl, rfl⟩
  | lost fault waiting =>
      refine ⟨rfl, ?_⟩
      rw [show st.emptied.pending.documents = [] from rfl,
        Handles.fate_lost (Batch.documents_ne_nil waiting)]
      rfl

namespace Step

variable {σ : Type}

/-- What became of the batch that waited before the call, if it has left. -/
def fate? (step : Step σ) : Option Fate :=
  Fate.of? step.before.state.pending.documents step.after.state.pending.documents
    (step.before.acknowledged.length < step.after.acknowledged.length)

/-- The batch that waited before the call has left, and was not applied. -/
def losesBatch (step : Step σ) : Bool :=
  step.fate?.any (!·.isApplied)

end Step

section

variable {σ : Type}

/-- What became of the batches that left the state, in order. -/
def fates (steps : List (Step σ)) : List Fate :=
  steps.filterMap Step.fate?

/-- The batches of waiting entries that were applied. -/
def appliedBatches (steps : List (Step σ)) : List (List Document) :=
  ((fates steps).filter Fate.isApplied).map Fate.documents

/-- The documents of all entries that were accepted to wait. -/
def acceptedDocuments (steps : List (Step σ)) : List Document :=
  steps.flatMap fun step => acceptedBy step.call step.answer

theorem fates_snoc (steps : List (Step σ)) (step : Step σ) :
    fates (steps ++ [step]) = fates steps ++ step.fate?.toList := by
  rw [fates, List.filterMap_append, List.filterMap_cons]
  cases step.fate? <;> rfl

theorem appliedBatches_snoc (steps : List (Step σ)) (step : Step σ) :
    appliedBatches (steps ++ [step]) =
      appliedBatches steps ++
        (step.fate?.toList.filter Fate.isApplied).map Fate.documents := by
  rw [appliedBatches, fates_snoc, List.filter_append, List.map_append]
  rfl

theorem acceptedDocuments_snoc (steps : List (Step σ)) (step : Step σ) :
    acceptedDocuments (steps ++ [step]) =
      acceptedDocuments steps ++ acceptedBy step.call step.answer := by
  rw [acceptedDocuments, List.flatMap_append, List.flatMap_singleton]
  rfl

/-- All batches that left were applied exactly if no call lost one. -/
theorem flatMap_fates_eq_iff (steps : List (Step σ)) :
    (fates steps).flatMap Fate.documents = (appliedBatches steps).flatten ↔
      ∀ step ∈ steps, step.losesBatch = false := by
  have nonempty : ∀ fate ∈ fates steps, fate.documents ≠ [] := by
    intro fate member
    obtain ⟨step, _, left⟩ := List.mem_filterMap.mp member
    exact Fate.documents_ne_nil left
  rw [appliedBatches, ← List.flatMap_def, Fate.flatMap_documents_filter_eq_iff nonempty]
  constructor
  · intro applied step member
    rw [Step.losesBatch]
    cases left : step.fate? with
    | none => rfl
    | some fate => simp [applied fate (List.mem_filterMap.mpr ⟨step, member, left⟩)]
  · intro kept fate member
    obtain ⟨step, inSteps, left⟩ := List.mem_filterMap.mp member
    have applied := kept step inSteps
    rw [Step.losesBatch, left] at applied
    simpa using applied

end

namespace Replayer

variable {σ : Type} {p : Replayer σ}

/-- What the states around a call say of the waiting batch is said of the batches that
were sent. -/
theorem fate?_eq {step : Step σ} {batches : List (List Document)}
    (sent : p.Acknowledges step.before step.after batches) :
    step.fate? =
      Fate.of? step.before.state.pending.documents step.after.state.pending.documents
        (!batches.isEmpty) := by
  rw [Step.fate?, sent, List.length_append, List.length_map]
  cases batches <;> simp

theorem Reaches.accepted_eq {outside : σ} {steps : List (Step σ)} {r : Run σ}
    (reached : p.Reaches (.initial ⟨outside, []⟩) steps r) :
    acceptedDocuments steps =
      (fates steps).flatMap Fate.documents ++ r.state.pending.documents := by
  refine reached.invariant
    (fun steps r => acceptedDocuments steps =
      (fates steps).flatMap Fate.documents ++ r.state.pending.documents) rfl ?_
  intro steps step batches held answers sent
  have conserved := answers.handles.conserved
  rw [← fate?_eq sent] at conserved
  rw [acceptedDocuments_snoc, held, List.append_assoc, conserved, fates_snoc,
    List.flatMap_append, List.append_assoc]

theorem Reaches.appliedBatches_sublist {outside : σ} {steps : List (Step σ)} {r : Run σ}
    (reached : p.Reaches (.initial ⟨outside, []⟩) steps r) :
    ((appliedBatches steps).map p.session.command).Sublist r.acknowledged := by
  refine reached.invariant
    (fun steps r => ((appliedBatches steps).map p.session.command).Sublist r.acknowledged)
    (List.nil_sublist _) ?_
  intro steps step batches held answers sent
  have applied := answers.handles.applied_sublist
  rw [← fate?_eq sent] at applied
  rw [appliedBatches_snoc, List.map_append, sent]
  exact held.append (applied.map p.session.command)

theorem Reaches.failed_of_losesBatch {outside : σ} {steps : List (Step σ)} {r : Run σ}
    (reached : p.Reaches (.initial ⟨outside, []⟩) steps r) :
    ∀ step ∈ steps, step.losesBatch = true → step.answer.isOk = false := by
  refine reached.invariant
    (fun steps _ => ∀ step ∈ steps, step.losesBatch = true → step.answer.isOk = false)
    (List.forall_mem_nil _) ?_
  intro steps step batches held answers sent
  refine List.forall_mem_append.mpr ⟨held, List.forall_mem_singleton.mpr ?_⟩
  intro loses
  rw [Step.losesBatch, fate?_eq sent] at loses
  exact answers.handles.failed_of_lost loses

theorem Reaches.settled {outside : σ} {steps : List (Step σ)} {r : Run σ}
    (reached : p.Reaches (.initial ⟨outside, []⟩) steps r) :
    ∀ step ∈ steps, step.call.entry? = none →
      step.after.state.pending.documents = [] ∧ step.losesBatch = !step.answer.isOk := by
  refine reached.invariant
    (fun steps _ => ∀ step ∈ steps, step.call.entry? = none →
      step.after.state.pending.documents = [] ∧ step.losesBatch = !step.answer.isOk)
    (List.forall_mem_nil _) ?_
  intro steps step batches held answers sent
  refine List.forall_mem_append.mpr ⟨held, List.forall_mem_singleton.mpr ?_⟩
  intro entryless
  obtain ⟨result, flushes, same⟩ := answers.flushes entryless
  rw [Step.losesBatch, fate?_eq sent, same]
  exact flushes.settles

/-- Every accepted entry is accounted for, whatever calls fail: it was in a batch that
left the state, or it still waits.  The batches that left and were applied were
acknowledged in order.

Whether those are all is decided by the calls that lose a batch.  As long as there is
none, every accepted entry is acknowledged or waits; with the first one this is no longer
so.  Only calls that fail lose a batch, and a flush that fails always does: after it
nothing waits, just as after a flush that succeeds. -/
theorem Reaches.accepted_accounted_for {outside : σ} {steps : List (Step σ)} {r : Run σ}
    (reached : p.Reaches (.initial ⟨outside, []⟩) steps r) :
    (acceptedDocuments steps =
        (fates steps).flatMap Fate.documents ++ r.state.pending.documents) ∧
      ((appliedBatches steps).map p.session.command).Sublist r.acknowledged ∧
      ((∀ step ∈ steps, step.losesBatch = false) ↔
        acceptedDocuments steps =
          (appliedBatches steps).flatten ++ r.state.pending.documents) ∧
      ((∀ step ∈ steps, step.losesBatch = false) → ∀ document ∈ acceptedDocuments steps,
        document ∈ r.acknowledged.flatMap carried ∨
          document ∈ r.state.pending.documents) ∧
      (∀ step ∈ steps, step.losesBatch = true → step.answer.isOk = false) ∧
      ∀ step ∈ steps, step.call.entry? = none →
        step.after.state.pending.documents = [] ∧ step.losesBatch = !step.answer.isOk := by
  have accepted := reached.accepted_eq
  have applied := reached.appliedBatches_sublist
  have complete : (∀ step ∈ steps, step.losesBatch = false) ↔
      acceptedDocuments steps =
        (appliedBatches steps).flatten ++ r.state.pending.documents := by
    rw [accepted, List.append_cancel_right_eq]
    exact (flatMap_fates_eq_iff steps).symm
  refine ⟨accepted, applied, complete, ?_, reached.failed_of_losesBatch, reached.settled⟩
  intro kept document member
  rw [complete.mp kept] at member
  rcases List.mem_append.mp member with left | waits
  · refine .inl ((applied.flatMap carried).subset ?_)
    rw [Session.flatMap_carried_map_command]
    exact left
  · exact .inr waits

end Replayer

/-! ## An entry that is forgotten -/

/-- A destination that refuses its first command, for a reason that does not pass. -/
def reluctant : Destination Bool where
  now _ := 0
  run refused _ _ :=
    if refused then (.ok [("ok", .int32 1)], true)
    else (.ok [("ok", .int32 0), ("code", .int32 2)], true)
  pause refused _ := refused

/-- The refused flush loses the entry, and the finish after it succeeds. -/
theorem exists_reaches_reluctant :
    ∃ steps r,
      (modest reluctant).Reaches (.initial ⟨false, []⟩) steps r ∧
        steps.map (fun step => step.answer.isOk) = [true, false, true] ∧
          steps.map Step.losesBatch = [false, true, false] ∧
            acceptedDocuments steps = [(insertAt 1).toDocument] ∧
              r.acknowledged = [] ∧ r.state.pending.documents = [] := by
  have computed : ((modest reluctant).perform [.apply (insertAt 1), .flush, .finish]
      (.initial ⟨false, []⟩)).map (fun run =>
        (run.1.map fun step => step.answer.isOk, run.1.map Step.losesBatch,
          acceptedDocuments run.1, run.2.acknowledged, run.2.state.pending.documents)) =
        some ([true, false, true], [false, true, false], [(insertAt 1).toDocument], [], []) := by
    rfl
  obtain ⟨⟨steps, r⟩, performed, found⟩ := Option.map_eq_some_iff.mp computed
  simp only [Prod.mk.injEq] at found
  exact ⟨steps, r, (Replayer.reaches_of_perform performed).1, found⟩

theorem reluctant_accounted_for :
    ∃ steps r,
      (modest reluctant).Reaches (.initial ⟨false, []⟩) steps r ∧
        acceptedDocuments steps = (fates steps).flatMap Fate.documents ∧
          acceptedDocuments steps ≠ (appliedBatches steps).flatten := by
  obtain ⟨steps, r, reached, _, loses, _, _, nothing⟩ := exists_reaches_reluctant
  obtain ⟨accounted, _, complete, _⟩ := reached.accepted_accounted_for
  rw [nothing, List.append_nil] at accounted complete
  refine ⟨steps, r, reached, accounted, fun same => ?_⟩
  have kept : ∀ loss ∈ steps.map Step.losesBatch, loss = false :=
    List.forall_mem_map.mpr (complete.mpr same)
  rw [loses] at kept
  exact absurd (kept true (by decide)) (by decide)

/-- An entry that was accepted need not be acknowledged, and need not wait any more. -/
theorem accepted_entry_forgotten :
    ¬ ∀ (σ : Type) (p : Replayer σ) (outside : σ) (steps : List (Step σ)) (r : Run σ),
      p.Reaches (.initial ⟨outside, []⟩) steps r → ∀ document ∈ acceptedDocuments steps,
        document ∈ r.acknowledged.flatMap carried ∨
          document ∈ r.state.pending.documents := by
  intro remembered
  obtain ⟨steps, r, reached, _, _, accepted, unheard, nothing⟩ := exists_reaches_reluctant
  have found := remembered Bool _ false steps r reached (insertAt 1).toDocument
    (by rw [accepted]; exact List.mem_cons_self)
  rw [unheard, nothing] at found
  simp at found

end LogReplay.Replay
