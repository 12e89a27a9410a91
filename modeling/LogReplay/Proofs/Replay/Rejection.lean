/-
Module: LogReplay.Proofs.Replay.Rejection
Purpose: Entries that are rejected leave nothing behind but a count.
Main exports:
  rejection?, Step.isRejected, Run.following, Replayer.answer_following, Unmoved,
  Replayer.HidesRejections, Replayer.hides_rejections
-/
import LogReplay.Proofs.Replay.InOrder
import LogReplay.Proofs.Session.Past
import LogReplay.Proofs.Session.Unfolding
import Mathlib.Data.List.Forall2

/-!
An entry is rejected if it cannot be placed, if the ledger refuses it, or if it belongs to
no transaction and cannot be encoded.  All of this is found out before anything is sent or
remembered, so a rejected entry leaves the state as it was, except that it may have been
counted as an entry.

What a replay does afterwards depends neither on that count nor on what has happened: its
acts commute with putting other events before those that have happened, and with counting
more entries.  So the other calls of a run are a run without the rejected ones, and come to
the same.
-/

namespace LogReplay.Replay

open Bson (Document Timestamp)
open Transaction

variable {σ : Type}

/-! ## What a replay does not look at -/

/-- More entries have been counted. -/
def Tally.withMore (more : Nat) (t : Tally) : Tally :=
  { t with entries := t.entries + more }

def State.withMore (more : Nat) (st : State) : State :=
  { st with tally := st.tally.withMore more }

/-- The same run, with other events before those that have happened, and with more entries
counted. -/
def Run.following (earlier : List Event) (more : Nat) (r : Run σ) : Run σ where
  world := r.world.following earlier
  state := r.state.withMore more

namespace Replayer

variable {earlier : List Event} {more : Nat}

theorem update_commutes {f : State → State}
    (commute : ∀ st, f (st.withMore more) = (f st).withMore more) :
    (Act.change (Run.update f) : Act (Run σ) Fault Unit).CommutesWith
      (Run.following earlier more) :=
  .change fun r => congrArg (Run.mk (r.world.following earlier)) (commute r.state)

theorem record_following (events : List Event) (r : Run σ) :
    (r.following earlier more).record events = (r.record events).following earlier more := by
  rw [Run.record, Run.record, Run.following, Run.following, World.following, World.following,
    List.append_assoc]

theorem record_commutes (events : List Event) :
    (Act.change (Run.record events) : Act (Run σ) Fault Unit).CommutesWith
      (Run.following earlier more) :=
  .change (record_following events)

theorem inWorld_commutes {α : Type} {x : Act (World σ) Fault α}
    (commutes : x.CommutesWith (World.following earlier)) :
    (inWorld x).CommutesWith (Run.following earlier more) :=
  commutes.within (fun _ => rfl) fun _ _ => rfl

variable (p : Replayer σ)

theorem applyBatch_commutes (documents : List Document) :
    (inWorld (p.session.applyBatch documents)).CommutesWith (Run.following earlier more) :=
  inWorld_commutes (p.session.applyBatch_commutes documents)

theorem flush_commutes : p.flush.CommutesWith (Run.following earlier more) := by
  refine .readThen (fun _ => rfl) fun r => ?_
  dsimp only
  split
  · exact .pure ()
  · refine .bind (update_commutes ?_) fun _ => .bind (p.applyBatch_commutes _) fun _ =>
      .bind (update_commutes ?_) fun _ => update_commutes ?_
    all_goals exact fun _ => rfl

theorem applyPlain_commutes (entry : Entry) :
    (p.applyPlain entry).CommutesWith (Run.following earlier more) := by
  rw [applyPlain]
  split
  · exact .fail _
  · refine .readThen (fun _ => rfl) fun r => ?_
    have pushes (bytes : Nat) : (do
        Act.change (Run.update fun st => { st with pending := st.pending.push entry bytes })
        Act.change (Run.count fun t => { t with operations := t.operations + 1 }) :
          Act (Run σ) Fault Unit).CommutesWith (Run.following earlier more) := by
      refine .bind (update_commutes ?_) fun _ => update_commutes ?_
      all_goals exact fun _ => rfl
    split
    · exact p.flush_commutes.bind fun _ => pushes _
    · exact pushes _

theorem sendTransactionBatch_commutes (batch : Batch) :
    (p.sendTransactionBatch batch).CommutesWith (Run.following earlier more) :=
  (p.applyBatch_commutes _).bind fun _ => update_commutes fun _ => rfl

theorem makeRoom_commutes (batch : Batch) (bytes : Nat) :
    (p.makeRoom batch bytes).CommutesWith (Run.following earlier more) := by
  rw [makeRoom]
  split
  · exact (p.sendTransactionBatch_commutes batch).bind fun _ => .pure _
  · exact .pure batch

theorem sendOperations_commutes (operations : List (Except Fault Entry)) :
    ∀ batch handedOut, (p.sendOperations batch handedOut operations).CommutesWith
      (Run.following earlier more) := by
  induction operations with
  | nil =>
      intro batch handedOut
      refine (record_commutes _).bind fun _ => ?_
      split
      · exact .pure ()
      · exact p.sendTransactionBatch_commutes batch
  | cons head rest inductionHypothesis =>
      intro batch handedOut
      cases head with
      | error fault => exact .fail fault
      | ok operation =>
          rw [sendOperations]
          split
          · exact (record_commutes _).bind fun _ => .fail _
          · exact ((p.makeRoom_commutes batch _).onFault (record_following _)).bind fun _ =>
              inductionHypothesis _ _

theorem applyCommitted_commutes (id : Identity) :
    (p.applyCommitted id).CommutesWith (Run.following earlier more) :=
  .readThen (fun _ => rfl) fun _ => (Act.CommutesWith.ofExcept _).bind fun _ =>
    p.sendOperations_commutes _ _ _

theorem purge_commutes (id : Identity) :
    (purge id : Act (Run σ) Fault Unit).CommutesWith (Run.following earlier more) := by
  refine .readThen (fun _ => rfl) fun _ => .bind (update_commutes ?_) fun _ => record_commutes _
  exact fun _ => rfl

theorem enter_commutes (place : Placement) (entry : Entry) :
    (enter place entry : Act (Run σ) Fault Unit).CommutesWith (Run.following earlier more) := by
  refine .readThen (fun _ => rfl) fun _ => .bind (.ofExcept _) fun _ =>
    .bind (update_commutes ?_) fun _ => .bind (record_commutes _) fun _ => update_commutes ?_
  all_goals exact fun _ => rfl

theorem conclude_commutes (place : Placement) (timestamp : Timestamp) :
    (p.conclude place timestamp).CommutesWith (Run.following earlier more) := by
  rw [conclude]
  split
  · refine .bind p.flush_commutes fun _ => .bind (p.applyCommitted_commutes _) fun _ =>
      .bind (purge_commutes _) fun _ => .bind (update_commutes ?_) fun _ => update_commutes ?_
    all_goals exact fun _ => rfl
  split
  · refine .bind (purge_commutes _) fun _ => update_commutes ?_
    exact fun _ => rfl
  · exact .pure ()

theorem apply_commutes (entry : Entry) :
    (p.apply entry).CommutesWith (Run.following earlier more) := by
  refine .bind (record_commutes _) fun _ => .bind (.ofExcept _) fun place =>
    .bind (update_commutes ?_) fun _ => ?_
  · intro st
    rw [State.withMore, State.withMore, Tally.withMore, Tally.withMore, Nat.add_right_comm]
  split
  · exact .bind (enter_commutes place entry) fun _ => p.conclude_commutes place _
  · exact p.applyPlain_commutes entry

end Replayer

/-! ## Rejected entries -/

/-- The fault for which an entry is rejected, if it is. -/
def rejection? (l : Ledger) (e : Entry) : Option Fault :=
  match Placement.ofEntry e with
  | .error fault => some fault
  | .ok place =>
      if place.isTransactional then
        match l.add place e with
        | .error fault => some fault
        | .ok _ => none
      else if e.encodedLength?.isNone then some .unencodable else none

/-- The entry of the step was rejected. -/
def Step.isRejected (step : Step σ) : Bool :=
  step.call.entry?.any fun e => (rejection? step.before.state.ledger e).isSome

/-- Nothing has been done but that so many entries were counted and something was
reported. -/
structure Unmoved (before after : Run σ) (counted : Nat) : Prop where
  outside : after.world.outside = before.world.outside
  reports : ∃ events, after.world.trace = before.world.trace ++ events ∧
    ∀ event ∈ events, event.isReport = true
  state : after.state = before.state.withMore counted

namespace Replayer

variable (p : Replayer σ)

/-- A rejected entry is counted if it can be placed, and nothing else is done. -/
theorem run_apply_of_rejection {r : Run σ} {entry : Entry} {fault : Fault}
    (rejected : rejection? r.state.ledger entry = some fault) :
    (p.apply entry).run r = some (.error fault,
      (r.record (placementEvents entry)).update
        (State.withMore (Placement.ofEntry entry).isOk.toNat)) := by
  rw [apply, Act.run_bind_ok (Act.run_change _ _)]
  rw [rejection?] at rejected
  cases placed : Placement.ofEntry entry with
  | error fault' =>
      rw [placed] at rejected
      cases rejected
      rfl
  | ok place =>
      rw [placed] at rejected
      rw [Act.run_bind_ok (Act.run_ofExcept _ _), Act.run_bind_ok (Act.run_change _ _)]
      dsimp only at rejected
      cases inside : place.isTransactional with
      | true =>
          rw [inside, if_pos rfl] at rejected
          rw [if_pos rfl]
          have refused : r.state.ledger.add place entry = .error fault := by
            cases added : r.state.ledger.add place entry with
            | error other =>
                rw [added] at rejected
                exact congrArg Except.error (Option.some.inj rejected)
            | ok ledger =>
                rw [added] at rejected
                cases rejected
          refine Act.run_bind_error ?_ _
          rw [enter, Act.run_bind_ok (Act.run_read _)]
          refine Act.run_bind_error ?_ _
          exact congrArg (fun result => some (result, _)) refused
      | false =>
          rw [inside, if_neg Bool.false_ne_true] at rejected
          rw [if_neg Bool.false_ne_true, applyPlain]
          cases measured : entry.encodedLength? with
          | none =>
              rw [measured] at rejected
              cases rejected
              rfl
          | some bytes =>
              rw [measured] at rejected
              cases rejected

theorem unmoved_of_rejection (r : Run σ) (entry : Entry) (counted : Nat) :
    Unmoved r ((r.record (placementEvents entry)).update (State.withMore counted)) counted where
  outside := rfl
  reports := ⟨placementEvents entry, rfl, fun _ => isReport_of_mem_placementEvents⟩
  state := rfl

end Replayer

/-! ## Runs that differ in the number of entries -/

def Tally.uncounted (t : Tally) : Tally :=
  { t with entries := 0 }

/-- What a replay remembers, without the number of entries. -/
def State.uncounted (st : State) : State :=
  { st with tally := st.tally.uncounted }

namespace Answer

/-- The answer of a replay that has counted more entries. -/
def withMore (more : Nat) (answer : Answer) : Answer :=
  answer.map (Option.map (Tally.withMore more))

/-- What a call comes to, without the number of entries. -/
def uncounted (answer : Answer) : Answer :=
  answer.map (Option.map Tally.uncounted)

theorem uncounted_withMore (more : Nat) (answer : Answer) :
    (answer.withMore more).uncounted = answer.uncounted := by
  rcases answer with _ | _ | _ <;> rfl

end Answer

/-- The runs have come to the same but for the number of entries, and have sent the same
commands. -/
structure SameButCount (r t : Run σ) : Prop where
  outside : r.world.outside = t.world.outside
  commands : World.commands r.world.trace = World.commands t.world.trace
  state : r.state.uncounted = t.state.uncounted

/-- The run as if nothing had happened and no entry had been counted. -/
def Run.bare (r : Run σ) : Run σ where
  world := ⟨r.world.outside, []⟩
  state := r.state.uncounted

theorem Run.bare_following (r : Run σ) :
    r.bare.following r.world.trace r.state.tally.entries = r := by
  obtain ⟨⟨outside, trace⟩, ⟨ledger, pending, tally, lastApplied⟩⟩ := r
  simp [Run.following, Run.bare, World.following, State.withMore, State.uncounted,
    Tally.withMore, Tally.uncounted]

namespace SameButCount

variable {r t u : Run σ}

theorem refl (r : Run σ) : SameButCount r r :=
  ⟨rfl, rfl, rfl⟩

theorem trans (one : SameButCount r t) (two : SameButCount t u) : SameButCount r u :=
  ⟨one.outside.trans two.outside, one.commands.trans two.commands, one.state.trans two.state⟩

theorem of_unmoved {counted : Nat} (unmoved : Unmoved r t counted) : SameButCount t r where
  outside := unmoved.outside
  commands := by
    obtain ⟨events, trace, reports⟩ := unmoved.reports
    rw [trace, commands_append_reports _ reports]
  state := by
    rw [unmoved.state]
    rfl

theorem bare_eq (same : SameButCount r t) : r.bare = t.bare := by
  rw [Run.bare, Run.bare, same.outside, same.state]

/-- What is done after the same commands leads to the same commands. -/
theorem following {one two : List Event} (commands : World.commands one = World.commands two)
    (more others : Nat) (last : Run σ) :
    SameButCount (last.following one more) (last.following two others) where
  outside := rfl
  commands := by
    rw [Run.following, Run.following, World.following, World.following,
      World.commands_append, World.commands_append, commands]
  state := rfl

end SameButCount

namespace Replayer

variable {p : Replayer σ} {earlier : List Event} {more : Nat}

/-- An act that hands out nothing does the same after other events. -/
theorem run_silently_following {x : Act (Run σ) Fault Unit}
    (commutes : x.CommutesWith (Run.following earlier more)) (r : Run σ) :
    (do
        x
        pure none : Act (Run σ) Fault (Option Tally)).run (r.following earlier more) =
      ((do
        x
        pure none : Act (Run σ) Fault (Option Tally)).run r).map fun (answer, t) =>
          (Answer.withMore more answer, t.following earlier more) := by
  rw [Act.run_bind, Act.run_bind, commutes r]
  rcases x.run r with _ | ⟨_ | ⟨⟩, t⟩ <;> rfl

/-- A call does the same after other events; only a finish hands out the count. -/
theorem answer_following (call : Call) (r : Run σ) :
    (p.answer call).run (r.following earlier more) =
      ((p.answer call).run r).map fun (answer, t) =>
        (Answer.withMore more answer, t.following earlier more) := by
  cases call with
  | apply entry => exact run_silently_following (p.apply_commutes entry) r
  | flush => exact run_silently_following p.flush_commutes r
  | finish =>
      rw [answer, finish, Act.run_bind, Act.run_bind, Act.run_bind, Act.run_bind,
        p.flush_commutes r]
      rcases p.flush.run r with _ | ⟨_ | ⟨⟩, t⟩ <;> rfl

end Replayer

/-- The same call, with the same answer but for the count. -/
structure SameStep (one two : Step σ) : Prop where
  call : one.call = two.call
  answer : one.answer.uncounted = two.answer.uncounted
  before : SameButCount one.before two.before
  after : SameButCount one.after two.after

namespace Replayer

variable {p : Replayer σ}

theorem exists_same_step {r t : Run σ} (same : SameButCount r t) {call : Call}
    {answer : Answer} {r' : Run σ} (ended : (p.answer call).run r = some (answer, r')) :
    ∃ answer' t', (p.answer call).run t = some (answer', t') ∧
      SameStep ⟨call, answer, r, r'⟩ ⟨call, answer', t, t'⟩ := by
  rw [← r.bare_following, answer_following] at ended
  obtain ⟨⟨bare, last⟩, ran, led⟩ := Option.map_eq_some_iff.mp ended
  cases led
  have follows : (p.answer call).run t = ((p.answer call).run r.bare).map fun (answer, last) =>
      (Answer.withMore t.state.tally.entries answer,
        last.following t.world.trace t.state.tally.entries) := by
    rw [← answer_following, same.bare_eq, t.bare_following]
  refine ⟨Answer.withMore t.state.tally.entries bare,
    last.following t.world.trace t.state.tally.entries, ?_, rfl, ?_, same,
    .following same.commands _ _ last⟩
  · rw [follows, ran]
    rfl
  · rw [Answer.uncounted_withMore, Answer.uncounted_withMore]

/-- A step with a rejected entry fails, and leaves everything but the count. -/
theorem unmoved_of_isRejected {step : Step σ}
    (ended : (p.answer step.call).run step.before = some (step.answer, step.after))
    (rejected : step.isRejected = true) :
    step.answer.isOk = false ∧ ∃ counted, Unmoved step.before step.after counted := by
  obtain ⟨call, answer, before, after⟩ := step
  cases call with
  | flush | finish => cases rejected
  | apply entry =>
      obtain ⟨fault, refused⟩ : ∃ fault, rejection? before.state.ledger entry = some fault :=
        Option.isSome_iff_exists.mp rejected
      have failed := Act.run_bind_error (p.run_apply_of_rejection refused)
        fun _ => (pure none : Act (Run σ) Fault (Option Tally))
      cases failed.symm.trans ended
      exact ⟨rfl, _, unmoved_of_rejection before entry _⟩

/-- The calls of a run without the rejected ones come to the same. -/
theorem Reaches.exists_without_rejected {start r : Run σ} {steps : List (Step σ)}
    (reached : p.Reaches start steps r) :
    ∃ others t, p.Reaches start others t ∧
      List.Forall₂ SameStep (steps.filter fun step => !step.isRejected) others ∧
        SameButCount r t := by
  induction reached with
  | start => exact ⟨[], start, .start, .nil, .refl start⟩
  | @step steps before after answer call earlier ended inductionHypothesis =>
      obtain ⟨others, t, reached, same, last⟩ := inductionHypothesis
      rw [List.filter_append]
      cases rejected : Step.isRejected ⟨call, answer, before, after⟩ with
      | true =>
          obtain ⟨-, counted, unmoved⟩ := unmoved_of_isRejected ended rejected
          rw [List.filter_cons_of_neg (by rw [rejected]; decide), List.filter_nil,
            List.append_nil]
          exact ⟨others, t, reached, same, (SameButCount.of_unmoved unmoved).trans last⟩
      | false =>
          obtain ⟨answer', t', ended', sameStep⟩ := exists_same_step last ended
          rw [List.filter_cons_of_pos (by rw [rejected]; rfl), List.filter_nil]
          exact ⟨_, t', .step call reached ended', List.rel_append same (.cons sameStep .nil),
            sameStep.after⟩

/-- Rejected entries might as well not have been in the log. -/
structure HidesRejections (p : Replayer σ) : Prop where
  /-- In any state, a rejected entry fails with the fault for which it is rejected.  It is
  counted if it can be placed; nothing is sent, and nothing else is remembered. -/
  untouched : ∀ (r : Run σ) (entry : Entry) (fault : Fault),
    rejection? r.state.ledger entry = some fault →
      ∃ t, (p.apply entry).run r = some (.error fault, t) ∧
        Unmoved r t (Placement.ofEntry entry).isOk.toNat
  /-- In any run, the other calls are a run from the same start that comes to the same, but
  for the count: call by call the answers, the commands and the states around it. -/
  deletable : ∀ (start r : Run σ) (steps : List (Step σ)), p.Reaches start steps r →
    ∃ others t, p.Reaches start others t ∧
      List.Forall₂ SameStep (steps.filter fun step => !step.isRejected) others ∧
        SameButCount r t

/-- Everything for which an entry may be rejected is checked before anything is sent or
remembered: its place, its step in the ledger, and its encoding, also where it would have
overflowed the waiting batch.  So whatever other calls of a run fail for, its rejected
entries can be deleted. -/
theorem hides_rejections (p : Replayer σ) : p.HidesRejections where
  untouched := by
    intro r entry fault rejected
    exact ⟨_, p.run_apply_of_rejection rejected, unmoved_of_rejection r entry _⟩
  deletable := fun _ _ _ reached => reached.exists_without_rejected

end Replayer

/-! ## A log with one rejected entry of each kind -/

/-- Between two inserts an entry whose flag is not a truth value, one that continues a
transaction that never began, and one with a name that cannot be encoded. -/
def spoilt : List Entry :=
  [insertAt 1,
   partAt 2 [("partialTxn", .int32 1)],
   { partAt 3 [("partialTxn", .boolean true)] with previous := some ⟨⟨1, 1⟩, none⟩ },
   { insertAt 4 with body := [(String.singleton (Char.ofNat 0), .int32 1)] },
   insertAt 5]

/-- Three entries are rejected, of which two are counted.  Without them the run is three
calls long, and comes to the same. -/
theorem spoilt_without_rejected :
    ∃ steps r others t,
      (modest agreeable).Reaches (.initial ⟨(), []⟩) steps r ∧
        appliedEntries steps = spoilt ∧
        steps.map Step.isRejected = [false, true, true, true, false, false] ∧
        steps.map (fun step => step.answer.isOk) = [true, false, false, false, true, true] ∧
        r.state.tally.entries = 4 ∧
        (modest agreeable).Reaches (.initial ⟨(), []⟩) others t ∧ others.length = 3 ∧
        SameButCount r t := by
  have computed : ((modest agreeable).perform (spoilt.map .apply ++ [.finish])
      (.initial ⟨(), []⟩)).map (fun run => (run.1.map Step.isRejected,
        run.1.map fun step => step.answer.isOk, run.2.state.tally.entries)) =
        some ([false, true, true, true, false, false],
          [true, false, false, false, true, true], 4) := by
    decide +kernel
  obtain ⟨⟨steps, r⟩, performed, found⟩ := Option.map_eq_some_iff.mp computed
  simp only [Prod.mk.injEq] at found
  obtain ⟨rejected, succeeded, counted⟩ := found
  obtain ⟨reached, asked⟩ := Replayer.reaches_of_perform performed
  obtain ⟨others, t, without, same, last⟩ :=
    (modest agreeable).hides_rejections.deletable _ r steps reached
  have entries : appliedEntries steps = spoilt := by
    rw [appliedEntries_eq_filterMap_call, asked]
    rfl
  have kept : (steps.filter fun step => !step.isRejected).length = 3 := by
    rw [← List.countP_eq_length_filter]
    have counts := congrArg (List.countP fun rejected => !rejected) rejected
    rwa [List.countP_map] at counts
  exact ⟨steps, r, others, t, reached, entries, rejected, succeeded, counted, without,
    same.length_eq.symm.trans kept, last⟩

end LogReplay.Replay
