/-
Module: LogReplay.Proofs.Replay.Transparency
Purpose: Failures that pass soon enough make no difference to a replay.
Main exports:
  Similar, Similar.answer, Similar.exists_reaches, Alike, transient_failures_transparent
-/
import LogReplay.Proofs.Act.Agreement
import LogReplay.Proofs.Replay.Calls
import LogReplay.Proofs.Session.Transient
import Mathlib.Data.List.Forall2

/-!
A replay learns nothing from a destination but whether each batch was applied.  So two
replays whose batches always end alike do everything alike: `Similar` collects what a
relation between their runs must satisfy, and every act of the replay keeps it.

A destination that accepts everything at once, and one that fails within the floors of
patience before it accepts, are such a pair.
-/

namespace LogReplay.Replay

open Act (Agree)
open Bson (Document Timestamp)
open Transaction

variable {σ τ : Type}

/-- Two replays remember the same wherever their runs are related, and batches end alike
from there. -/
structure Similar (p : Replayer σ) (q : Replayer τ) (related : Run σ → Run τ → Prop) :
    Prop where
  limits : p.settings = q.settings
  state : ∀ {r t}, related r t → r.state = t.state
  update : ∀ {r t} (f : State → State), related r t → related (r.update f) (t.update f)
  record : ∀ {r t} (events : List Event), (∀ event ∈ events, event.isReport = true) →
    related r t → related (r.record events) (t.record events)
  applied : ∀ {r t} (entries : List Document), entries ≠ [] → related r t →
    Agree related (fun _ _ => True) (Replayer.inWorld (p.session.applyBatch entries)) r
      (Replayer.inWorld (q.session.applyBatch entries)) t

namespace Similar

variable {p : Replayer σ} {q : Replayer τ} {related : Run σ → Run τ → Prop}
  {r : Run σ} {t : Run τ} (similar : Similar p q related)
include similar

theorem read (alike : related r t) :
    Agree related (fun a b => a.state = b.state) (Act.read : Act (Run σ) Fault (Run σ)) r
      Act.read t :=
  .ok rfl rfl (similar.state alike) alike

theorem change (f : State → State) (alike : related r t) :
    Agree related Eq (Act.change (Run.update f) : Act (Run σ) Fault Unit) r
      (Act.change (Run.update f)) t :=
  .change (similar.update f alike)

theorem changes (f g : State → State) (alike : related r t) :
    Agree related Eq
      (do
        Act.change (Run.update f)
        Act.change (Run.update g) : Act (Run σ) Fault Unit) r
      (do
        Act.change (Run.update f)
        Act.change (Run.update g)) t := by
  apply (similar.change f alike).followedBy
  intro r t alike
  exact similar.change g alike

theorem report {events : List Event} (reports : ∀ event ∈ events, event.isReport = true)
    (alike : related r t) :
    Agree related Eq (Act.change (Run.record events) : Act (Run σ) Fault Unit) r
      (Act.change (Run.record events)) t :=
  .change (similar.record events reports alike)

theorem flush (alike : related r t) : Agree related Eq p.flush r q.flush t := by
  rw [Replayer.flush, Replayer.flush]
  apply (similar.read alike).bind
  intro a b r t known alike
  rw [known]
  by_cases nothing : b.state.pending.isEmpty = true
  · rw [if_pos nothing, if_pos nothing]
    exact .pure rfl alike
  rw [if_neg nothing, if_neg nothing]
  have waiting := Batch.documents_ne_nil (Bool.eq_false_iff.mpr nothing)
  apply (similar.change _ alike).followedBy
  intro r t alike
  apply (similar.applied _ waiting alike).followedBy
  intro r t alike
  exact similar.changes _ _ alike

theorem applyPlain (entry : Entry) (alike : related r t) :
    Agree related Eq (p.applyPlain entry) r (q.applyPlain entry) t := by
  rw [Replayer.applyPlain, Replayer.applyPlain]
  cases entry.encodedLength? with
  | none => exact .fail _ alike
  | some bytes =>
      apply (similar.read alike).bind
      intro a b r t known alike
      rw [known, similar.limits]
      by_cases full : b.state.pending.overflows q.settings bytes = true
      · rw [if_pos full, if_pos full]
        apply (similar.flush alike).followedBy
        intro r t alike
        exact similar.changes _ _ alike
      · rw [if_neg full, if_neg full]
        exact similar.changes _ _ alike

theorem sendTransactionBatch {batch : Batch} (waiting : batch.documents ≠ [])
    (alike : related r t) :
    Agree related Eq (p.sendTransactionBatch batch) r (q.sendTransactionBatch batch) t := by
  rw [Replayer.sendTransactionBatch, Replayer.sendTransactionBatch]
  apply (similar.applied _ waiting alike).followedBy
  intro r t alike
  exact similar.change _ alike

theorem makeRoom (batch : Batch) (bytes : Nat) (alike : related r t) :
    Agree related Eq (p.makeRoom batch bytes) r (q.makeRoom batch bytes) t := by
  rw [Replayer.makeRoom, Replayer.makeRoom, similar.limits]
  by_cases full : batch.overflows q.settings bytes = true
  · rw [if_pos full, if_pos full]
    have waiting := Batch.documents_ne_nil_of_overflows full
    apply (similar.sendTransactionBatch waiting alike).followedBy
    intro r t alike
    exact .pure rfl alike
  · rw [if_neg full, if_neg full]
    exact .pure rfl alike

theorem sendOperations (operations : List (Except Fault Entry)) :
    ∀ {batch : Batch} {handedOut : Nat} {r : Run σ} {t : Run τ}, related r t →
      Agree related Eq (p.sendOperations batch handedOut operations) r
        (q.sendOperations batch handedOut operations) t := by
  have abandoned : ∀ event ∈ [Event.readerAbandoned], event.isReport = true := by
    simp [Event.isReport]
  induction operations with
  | nil =>
      intro batch handedOut r t alike
      rw [Replayer.sendOperations, Replayer.sendOperations]
      apply (similar.report (by simp [Event.isReport]) alike).followedBy
      intro r t alike
      by_cases nothing : batch.isEmpty = true
      · rw [if_pos nothing, if_pos nothing]
        exact .pure rfl alike
      · rw [if_neg nothing, if_neg nothing]
        have waiting := Batch.documents_ne_nil (Bool.eq_false_iff.mpr nothing)
        exact similar.sendTransactionBatch waiting alike
  | cons head rest inductionHypothesis =>
      intro batch handedOut r t alike
      cases head with
      | error fault =>
          rw [Replayer.sendOperations, Replayer.sendOperations]
          exact .fail fault alike
      | ok operation =>
          rw [Replayer.sendOperations, Replayer.sendOperations]
          cases operation.encodedLength? with
          | none =>
              apply (similar.report abandoned alike).followedBy
              intro r t alike
              exact .fail _ alike
          | some bytes =>
              have room := (similar.makeRoom batch bytes alike).onFault fun _ _ alike =>
                similar.record _ abandoned alike
              apply room.bindSame
              intro roomy r t alike
              exact inductionHypothesis alike

theorem applyCommitted (id : Identity) (alike : related r t) :
    Agree related Eq (p.applyCommitted id) r (q.applyCommitted id) t := by
  rw [Replayer.applyCommitted, Replayer.applyCommitted]
  apply (similar.read alike).bind
  intro a b r t known alike
  rw [known]
  apply (Agree.ofExcept _ alike).bindSame
  intro entries r t alike
  exact similar.sendOperations _ alike

theorem purge (id : Identity) (alike : related r t) :
    Agree related Eq (Replayer.purge id : Act (Run σ) Fault Unit) r (Replayer.purge id) t := by
  rw [Replayer.purge, Replayer.purge]
  apply (similar.read alike).bind
  intro a b r t known alike
  rw [known]
  apply (similar.change _ alike).followedBy
  intro r t alike
  exact similar.report (fun _ => isReport_of_mem_purgeEvents) alike

theorem enter (place : Placement) (entry : Entry) (alike : related r t) :
    Agree related Eq (Replayer.enter place entry : Act (Run σ) Fault Unit) r
      (Replayer.enter place entry) t := by
  rw [Replayer.enter, Replayer.enter]
  apply (similar.read alike).bind
  intro a b r t known alike
  rw [known]
  apply (Agree.ofExcept _ alike).bindSame
  intro ledger r t alike
  apply (similar.change _ alike).followedBy
  intro r t alike
  apply (similar.report (fun _ => isReport_of_mem_addEvents) alike).followedBy
  intro r t alike
  exact similar.change _ alike

theorem conclude (place : Placement) (timestamp : Timestamp) (alike : related r t) :
    Agree related Eq (p.conclude place timestamp) r (q.conclude place timestamp) t := by
  rw [Replayer.conclude, Replayer.conclude]
  by_cases commits : place.isCommit = true
  · rw [if_pos commits, if_pos commits]
    apply (similar.flush alike).followedBy
    intro r t alike
    apply (similar.applyCommitted place.identity alike).followedBy
    intro r t alike
    apply (similar.purge place.identity alike).followedBy
    intro r t alike
    exact similar.changes _ _ alike
  rw [if_neg commits, if_neg commits]
  by_cases aborts : place.isAbort = true
  · rw [if_pos aborts, if_pos aborts]
    apply (similar.purge place.identity alike).followedBy
    intro r t alike
    exact similar.change _ alike
  · rw [if_neg aborts, if_neg aborts]
    exact .pure rfl alike

theorem apply (entry : Entry) (alike : related r t) :
    Agree related Eq (p.apply entry) r (q.apply entry) t := by
  rw [Replayer.apply, Replayer.apply]
  apply (similar.report (fun _ => isReport_of_mem_placementEvents) alike).followedBy
  intro r t alike
  apply (Agree.ofExcept _ alike).bindSame
  intro place r t alike
  apply (similar.change _ alike).followedBy
  intro r t alike
  by_cases inside : place.isTransactional = true
  · rw [if_pos inside, if_pos inside]
    apply (similar.enter place entry alike).followedBy
    intro r t alike
    exact similar.conclude place entry.timestamp alike
  · rw [if_neg inside, if_neg inside]
    exact similar.applyPlain entry alike

/-- Every call comes to the same, and keeps the runs related. -/
theorem answer (call : Call) (alike : related r t) :
    Agree related Eq (p.answer call) r (q.answer call) t := by
  cases call with
  | apply entry =>
      apply (similar.apply entry alike).followedBy
      intro r t alike
      exact .pure rfl alike
  | flush =>
      apply (similar.flush alike).followedBy
      intro r t alike
      exact .pure rfl alike
  | finish =>
      have finished : Agree related Eq p.finish r q.finish t := by
        rw [Replayer.finish, Replayer.finish]
        apply (similar.flush alike).followedBy
        intro r t alike
        apply (similar.read alike).bind
        intro a b r t known alike
        exact .pure (congrArg State.tally known) alike
      apply finished.bindSame
      intro tally r t alike
      exact .pure rfl alike

/-- Related runs make the same calls with the same answers, through related states. -/
theorem exists_reaches (calls : List Call) :
    ∀ {r : Run σ} {t : Run τ}, related r t →
      ∃ steps r' steps' t', p.Reaches r steps r' ∧ q.Reaches t steps' t' ∧
        steps.map Step.call = calls ∧
          List.Forall₂ (fun one two => one.call = two.call ∧ one.answer = two.answer ∧
            related one.after two.after) steps steps' ∧ related r' t' := by
  induction calls with
  | nil =>
      intro r t alike
      exact ⟨[], r, [], t, .start, .start, rfl, .nil, alike⟩
  | cons call rest inductionHypothesis =>
      intro r t alike
      have first : ∃ answer r' t', (p.answer call).run r = some (answer, r') ∧
          (q.answer call).run t = some (answer, t') ∧ related r' t' := by
        cases similar.answer call alike with
        | ok left right value state =>
            cases value
            exact ⟨_, _, _, left, right, state⟩
        | error left right state => exact ⟨_, _, _, left, right, state⟩
      rcases first with ⟨answer, r', t', left, right, state⟩
      obtain ⟨steps, last, steps', last', reached, reached', asked, same, related'⟩ :=
        inductionHypothesis state
      exact ⟨_, last, _, last', .trans (.step call .start left) reached,
        .trans (.step call .start right) reached', congrArg (call :: ·) asked,
        .cons ⟨rfl, rfl, state⟩ same, related'⟩

end Similar

/-! ## A destination that fails now and then -/

/-- A replay with the same settings over another destination. -/
def Replayer.over (p : Replayer σ) (d : Destination τ) : Replayer τ where
  session := { p.session with destination := d }
  settings := p.settings

/-- Two replays have come to the same, and what the second one has sent are the attempts
at the acknowledged batches. -/
structure Alike (probe : Document) (ready : τ → Prop) (r : Run σ) (t : Run τ) : Prop where
  state : r.state = t.state
  acknowledged : r.acknowledged = t.acknowledged
  ready : ready t.world.outside
  attempts : ∃ sent, World.commands t.world.trace = sent.flatten ∧
    List.Forall₂ (Attempts probe) t.acknowledged sent

namespace Alike

variable {probe : Document} {ready : τ → Prop} {r : Run σ} {t : Run τ}

theorem record (events : List Event) (reports : ∀ event ∈ events, event.isReport = true)
    (alike : Alike probe ready r t) : Alike probe ready (r.record events) (t.record events) where
  state := alike.state
  acknowledged := by
    rw [r.acknowledged_record reports, t.acknowledged_record reports, alike.acknowledged]
  ready := alike.ready
  attempts := by
    rw [t.acknowledged_record reports]
    obtain ⟨sent, commands, attempts⟩ := alike.attempts
    exact ⟨sent, (commands_append_reports _ reports).trans commands, attempts⟩

theorem update (f : State → State) (alike : Alike probe ready r t) :
    Alike probe ready (r.update f) (t.update f) where
  state := congrArg f alike.state
  acknowledged := alike.acknowledged
  ready := alike.ready
  attempts := alike.attempts

end Alike

theorem run_inWorld {α : Type} {x : Act (World σ) Fault α} {r : Run σ}
    {result : Except Fault α} {w : World σ} (run : x.run r.world = some (result, w)) :
    (Replayer.inWorld x).run r = some (result, { r with world := w }) := by
  rw [Replayer.inWorld, Act.run_within, run]
  rfl

/-- A destination that fails within the floors of patience is as good as one that never
fails. -/
theorem similar_alike {p : Replayer σ} {d : Destination τ} {ready : τ → Prop}
    (patient : p.session.IsPatient)
    (agreeable : ∀ o command, ∃ reply, p.session.batchAnswer o command = .ok reply)
    (steady : (p.over d).session.IsSteady ready) :
    Similar p (p.over d) (Alike (p.over d).session.probeCommand ready) where
  limits := rfl
  state alike := alike.state
  update f alike := alike.update f
  record events reports alike := alike.record events reports
  applied := by
    intro r t entries nonempty alike
    obtain ⟨reply, answered⟩ := agreeable r.world.outside (p.session.command entries)
    obtain ⟨_, w, _, left, _, _⟩ :=
      Session.exists_run_applyBatch patient nonempty (.accepted answered)
    obtain ⟨o, serves, readyAgain⟩ := steady t.world.outside alike.ready entries nonempty
    have patientOver : (p.over d).session.IsPatient := patient
    obtain ⟨_, u, sent, right, attempts, leads⟩ :=
      Session.exists_run_applyBatch patientOver nonempty serves
    have heard := Session.applyBatch_ends entries r.world _ w left
    have heard' := Session.applyBatch_ends entries t.world _ u right
    refine .ok (run_inWorld left) (run_inWorld right) trivial ⟨alike.state, ?_, ?_, ?_⟩
    · have same := alike.acknowledged
      rw [Run.acknowledged] at same ⊢
      rw [heard, same]
      exact heard'.symm
    · rw [leads.outside]
      exact readyAgain
    · obtain ⟨earlier, commands, before⟩ := alike.attempts
      refine ⟨earlier ++ [sent], ?_, ?_⟩
      · rw [leads.commands, commands, List.flatten_append, List.flatten_singleton]
      · rw [Run.acknowledged, heard']
        exact List.rel_append before (.cons attempts .nil)

/-- Let one destination accept every command at once, and let another one fail to apply
each batch at most as often as the floor of attempts says, for reasons that pass, and fail
at most as many probes after each failure as the floor of probes allows.  Whatever time
either of them takes, the same calls on two replays with the same settings all end, come
to the same, and lead through the same states and the same acknowledged batches.

All that the second destination hears are the attempts at these batches, one batch after
the other: equal commands, with nothing but probes between two of them. -/
theorem transient_failures_transparent {p : Replayer σ} {d : Destination τ}
    {ready : τ → Prop} (outside : σ) {flaky : τ} (patient : p.session.IsPatient)
    (agreeable : ∀ o command, ∃ reply, p.session.batchAnswer o command = .ok reply)
    (steady : (p.over d).session.IsSteady ready) (begins : ready flaky) (calls : List Call) :
    ∃ steps r steps' r',
      p.Reaches (.initial ⟨outside, []⟩) steps r ∧
        (p.over d).Reaches (.initial ⟨flaky, []⟩) steps' r' ∧
        steps.map Step.call = calls ∧
        List.Forall₂ (fun one two => one.call = two.call ∧ one.answer = two.answer ∧
          one.after.state = two.after.state ∧
            one.after.acknowledged = two.after.acknowledged) steps steps' ∧
        r.acknowledged = r'.acknowledged ∧
        ∃ sent, World.commands r'.world.trace = sent.flatten ∧
          List.Forall₂ (Attempts (p.over d).session.probeCommand) r'.acknowledged sent := by
  have similar := similar_alike patient agreeable steady
  have alike : Alike (p.over d).session.probeCommand ready
      (Run.initial ⟨outside, []⟩) (Run.initial ⟨flaky, []⟩) :=
    ⟨rfl, rfl, begins, [], rfl, .nil⟩
  obtain ⟨steps, r, steps', r', reached, reached', asked, same, last⟩ :=
    similar.exists_reaches calls alike
  refine ⟨steps, r, steps', r', reached, reached', asked, same.imp ?_, last.acknowledged,
    last.attempts⟩
  rintro one two ⟨call, answer, after⟩
  exact ⟨call, answer, after.state, after.acknowledged⟩

/-! ## A destination that recovers in time -/

/-- A destination that does not get through to a primary at first, fails to recover once,
and then recovers and accepts the batch. -/
def flaky : Destination (Fin 4) where
  now _ := 0
  run o _ _ :=
    (if o < 2 then .ok [("ok", .int32 0), ("code", .int32 10107)] else .ok [("ok", .int32 1)],
      o + 1)
  pause o _ := o

/-- The first attempt at a batch fails, and so does the first probe; the second ones
succeed. -/
theorem isSteady_flaky : ((modest agreeable).over flaky).session.IsSteady (· = 0) := by
  rintro o rfl entries -
  have failed (o : Fin 4) (command : Document) (early : o < 2) :
      ∃ failure, ((modest agreeable).over flaky).session.FailsFor failure o command := by
    refine ⟨.command (Reply.commandError [("ok", .int32 0), ("code", .int32 10107)]), ?_, by rfl⟩
    simp only [Session.answer, Replayer.over, flaky, early, if_true]
    rfl
  have answered (o : Fin 4) (command : Document) (late : ¬ o < 2) :
      ∃ reply, ((modest agreeable).over flaky).session.batchAnswer o command = .ok reply := by
    refine ⟨?reply, ?answered⟩
    case answered =>
      simp only [Session.batchAnswer, Session.answer, Replayer.over, flaky, late, if_false]
      rfl
  obtain ⟨_, attemptFails⟩ := failed 0 _ (by decide)
  obtain ⟨_, probeFails⟩ := failed 1 _ (by decide)
  obtain ⟨_, probeSucceeds⟩ := answered 2 _ (by decide)
  obtain ⟨_, attemptSucceeds⟩ := answered 3 _ (by decide)
  exact ⟨0, .repeated attemptFails (.asleep probeFails (.awake probeSucceeds))
    (.accepted attemptSucceeds), rfl⟩

theorem flaky_transparent :
    ∃ steps r steps' r',
      (modest agreeable).Reaches (.initial ⟨(), []⟩) steps r ∧
        ((modest agreeable).over flaky).Reaches (.initial ⟨0, []⟩) steps' r' ∧
          steps.map Step.call = [.apply (insertAt 1), .finish] ∧
            r.acknowledged = r'.acknowledged := by
  have patient : (modest agreeable).session.IsPatient := by
    constructor <;> decide
  have answers (o : Unit) (command : Document) :
      ∃ reply, (modest agreeable).session.batchAnswer o command = .ok reply := ⟨_, rfl⟩
  obtain ⟨steps, r, steps', r', reached, reached', asked, _, same, _⟩ :=
    transient_failures_transparent () patient answers isSteady_flaky rfl
      [.apply (insertAt 1), .finish]
  exact ⟨steps, r, steps', r', reached, reached', asked, same⟩

end LogReplay.Replay
