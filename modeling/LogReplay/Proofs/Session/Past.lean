/-
Module: LogReplay.Proofs.Session.Past
Purpose: A session does the same whatever has happened before it.
Main exports:
  World.following, Session.retrying_commutes, Session.applyBatch_commutes
-/
import LogReplay.Proofs.Act.Commuting
import LogReplay.Session.Writing

/-!
A session adds events to what has happened, and never reads them: all that it does depends
on the destination alone.  So its acts commute with putting other events before those that
have happened.
-/

namespace LogReplay

open Bson (Document)

variable {σ α : Type}

/-- The same world, with other events before those that have happened. -/
def World.following (earlier : List Event) (w : World σ) : World σ :=
  { w with trace := earlier ++ w.trace }

namespace Session

variable {earlier : List Event} {ε : Type} (s : Session σ)

theorem note_commutes (event : Event) :
    (note event : Act (World σ) ε Unit).CommutesWith (World.following earlier) := by
  refine .change fun w => ?_
  rw [World.record, World.record, World.following, World.following, List.append_assoc]

theorem now_commutes : (s.now : Act (World σ) ε Span).CommutesWith (World.following earlier) :=
  .readThen (fun _ => rfl) fun _ => .pure _

theorem elapsedSince_commutes (start : Span) :
    (s.elapsedSince start : Act (World σ) ε Span).CommutesWith (World.following earlier) :=
  s.now_commutes.bind fun _ => .pure _

theorem sleep_commutes (span : Span) :
    (s.sleep span : Act (World σ) ε Unit).CommutesWith (World.following earlier) :=
  .bind (.change fun _ => rfl) fun _ => note_commutes _

theorem send_commutes (database : String) (command : Document) :
    (s.send database command).CommutesWith (World.following earlier) := by
  intro w
  rw [Act.run, Act.run, send, send]
  simp [World.following, World.record]

theorem perform_commutes (database : String) (command : Document) :
    (s.perform database command).CommutesWith (World.following earlier) :=
  (s.send_commutes database command).bind fun _ => .pure _

theorem sendBatch_commutes (entries : List Document) (bypass : Bool) :
    (s.sendBatch entries bypass).CommutesWith (World.following earlier) :=
  (s.send_commutes _ _).bind fun _ => .ofExcept _

theorem probe_commutes (recovery : Recovery) :
    (s.probe recovery).CommutesWith (World.following earlier) := by
  cases recovery with
  | byWriting => exact (s.sendBatch_commutes _ _).bind fun _ => .pure _
  | byAsking => exact s.perform_commutes _ _

theorem probing_commutes (recovery : Recovery) (start : Span) (patience : Nat) :
    ∀ probes,
      (s.probing recovery start patience probes).CommutesWith (World.following earlier) := by
  induction patience with
  | zero => exact fun _ => .outlasted
  | succ patience inductionHypothesis =>
      intro probes
      refine (s.sleep_commutes _).bind fun _ => (s.probe_commutes recovery).outcome.bind ?_
      rintro (failure | ⟨⟩)
      · refine (s.elapsedSince_commutes start).bind fun _ => (note_commutes _).bind fun _ => ?_
        split
        · exact inductionHypothesis _
        · exact .fail _
      · exact note_commutes _

section

variable {attempt : Bool → Act (World σ) Failure α}
  (attempted : ∀ isRetry, (attempt isRetry).CommutesWith (World.following earlier))
include attempted

theorem attemptOnce_commutes (isRetry : Bool) :
    (attemptOnce attempt isRetry).CommutesWith (World.following earlier) :=
  (note_commutes _).bind fun _ => (attempted isRetry).outcome

theorem afterFailure_commutes (recovery : Recovery) (operation : String) (start : Span)
    (patience : Nat) :
    ∀ retries failure, (s.afterFailure recovery operation attempt start patience retries
      failure).CommutesWith (World.following earlier) := by
  induction patience with
  | zero => exact fun _ _ => .outlasted
  | succ patience inductionHypothesis =>
      intro retries failure
      rw [afterFailure]
      split
      · exact .fail _
      refine (s.elapsedSince_commutes start).bind fun elapsed => ?_
      split
      · exact (note_commutes _).bind fun _ => .fail _
      · refine (note_commutes _).bind fun _ => (s.probing_commutes recovery start _ _).bind
          fun _ => (attemptOnce_commutes attempted true).bind ?_
        rintro (failure | value)
        · exact inductionHypothesis _ _
        · exact .pure value

/-- A repetition looks back as little as its attempts do. -/
theorem retrying_commutes (recovery : Recovery) (operation : String) :
    (s.retrying recovery operation attempt).CommutesWith (World.following earlier) := by
  refine (attemptOnce_commutes attempted false).bind ?_
  rintro (failure | value)
  · exact s.now_commutes.bind fun start =>
      s.afterFailure_commutes attempted recovery operation start _ _ _
  · exact .pure value

end

theorem attemptBatch_commutes (entries : List Document) (bypass : Bool) :
    (s.attemptBatch entries bypass).CommutesWith (World.following earlier) := by
  refine s.now_commutes.bind fun start => (s.sendBatch_commutes entries bypass).outcome.bind ?_
  rintro (failure | reply)
  · exact (s.elapsedSince_commutes start).bind fun _ => (note_commutes _).bind fun _ => .fail _
  · exact (s.elapsedSince_commutes start).bind fun _ => (note_commutes _).bind fun _ => .pure _

/-- Applying a batch does the same whatever has happened before. -/
theorem applyBatch_commutes (entries : List Document) :
    (s.applyBatch entries).CommutesWith (World.following earlier) := by
  rw [applyBatch, applyBatchWith]
  split
  · exact .fail _
  · exact s.retrying_commutes (fun _ => s.attemptBatch_commutes entries _) _ _

end Session

end LogReplay
