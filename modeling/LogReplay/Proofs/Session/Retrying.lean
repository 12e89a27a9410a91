/-
Module: LogReplay.Proofs.Session.Retrying
Purpose: What holds after an operation that is repeated until it succeeds, from
  what holds after one attempt.
Main exports:
  Session.Mends, Session.retrying_ends_of_mends, Session.Keeps, Session.retrying_ends
-/
import LogReplay.Proofs.Act.Ends
import LogReplay.Session.Retrying

/-!
Between two attempts a session sleeps, probes and leaves remarks.  What is known after a
failed attempt holds until a probe succeeds, and what is known after such a probe is
where the next attempt begins.  So there is one rule for a repetition: from what its
first attempt comes to and what a retry comes to follows what all of it comes to,
however often and for whatever reason it failed before.

Where one property holds throughout, and no failed attempt breaks it, it still holds
when the last attempt begins; and when the repetition is given up, the property is all
that is left.
-/

namespace LogReplay

/-- Remarks are left by the loop of attempts itself. -/
def Event.isRemark : Event → Bool
  | .attempted _ | .retrying _ _ _ | .gaveUp _ _ | .probed _ => true
  | _ => false

/-- Remarks that are left between deeds. -/
def Event.isAside : Event → Bool
  | .retrying _ _ _ | .gaveUp _ _ | .probed _ => true
  | _ => false

theorem Event.isRemark_of_isAside {event : Event} (aside : event.isAside = true) :
    event.isRemark = true := by
  cases event <;> first | rfl | cases aside

namespace Session

variable {σ α : Type}

/-- What a failed attempt may leave (`broken`) survives remarks between attempts, pauses
and probes that fail; a probe that succeeds turns it into what the next attempt begins with
(`mended`). -/
structure Mends (s : Session σ) (recovery : Recovery) (broken mended : World σ → Prop) :
    Prop where
  remarked : ∀ {w event}, event.isAside = true → broken w → broken (w.record event)
  slept : ∀ {w}, broken w →
    (s.sleep s.policy.recoverSleep : Act (World σ) Fault Unit).Ends w fun _ t => broken t
  probed : ∀ {w}, broken w → (s.probe recovery).Ends w fun result t =>
    match result with
    | .ok () => mended (t.record (.probed .recovered))
    | .error _ => broken t

/-- Neither remarks nor recoveries of the session break the property. -/
structure Keeps (s : Session σ) (recovery : Recovery) (holds : World σ → Prop) : Prop where
  remarked : ∀ {w event}, event.isRemark = true → holds w → holds (w.record event)
  slept : ∀ {w}, holds w →
    (s.sleep s.policy.recoverSleep : Act (World σ) Fault Unit).Ends w fun _ t => holds t
  probed : ∀ {w}, holds w → (s.probe recovery).Ends w fun _ t => holds t

variable {s : Session σ} {recovery : Recovery} {holds : World σ → Prop}

theorem ends_note {ε : Type} {event : Event} {w : World σ}
    {post : Except ε Unit → World σ → Prop} :
    (note event : Act (World σ) ε Unit).Ends w post ↔ post (.ok ()) (w.record event) :=
  Act.ends_change _

theorem ends_now {ε : Type} {w : World σ} {post : Except ε Span → World σ → Prop} :
    (s.now : Act (World σ) ε Span).Ends w post ↔
      post (.ok (s.destination.now w.outside)) w :=
  Act.ends_iff_of_run rfl

theorem ends_elapsedSince {ε : Type} {start : Span} {w : World σ}
    {post : Except ε Span → World σ → Prop} :
    (s.elapsedSince start : Act (World σ) ε Span).Ends w post ↔
      post (.ok (s.destination.now w.outside - start)) w :=
  Act.ends_iff_of_run rfl

variable {broken mended : World σ → Prop}

theorem Keeps.mends (keeps : s.Keeps recovery holds) : s.Mends recovery holds holds where
  remarked := fun aside => keeps.remarked (Event.isRemark_of_isAside aside)
  slept := keeps.slept
  probed := by
    intro w held
    refine (keeps.probed held).mono ?_
    rintro (failure | ⟨⟩) t probed
    · exact probed
    · exact keeps.remarked rfl probed

theorem probing_ends (mends : s.Mends recovery broken mended) {start : Span} (patience : Nat) :
    ∀ {probes : Nat} {w : World σ}, broken w →
      (s.probing recovery start patience probes).Ends w fun result t =>
        match result with
        | .ok () => mended t
        | .error fault => fault.commandFailure? = none ∧ broken t := by
  induction patience with
  | zero =>
      intro probes w held
      exact Act.ends_outlasted
  | succ patience inductionHypothesis =>
      intro probes w held
      rw [probing, Act.ends_bind]
      intro pause t slept
      have rested : broken t := mends.slept held pause t slept
      cases slept
      rw [Act.ends_bind, Act.ends_outcome]
      refine (mends.probed rested).mono ?_
      rintro (failure | ⟨⟩) u probed
      · simp only [Act.ends_bind, ends_elapsedSince, ends_note]
        have judged : broken (u.record (.probed
            (s.judgeProbe failure (probes + 1) (s.destination.now u.outside - start)))) :=
          mends.remarked rfl probed
        split
        · exact inductionHypothesis judged
        · exact (Act.ends_fail _).mpr ⟨rfl, judged⟩
      · exact ends_note.mpr probed

variable {attempt : Bool → Act (World σ) Failure α} {post : Except Fault α → World σ → Prop}

/-- What an attempt may come to: `post` if it succeeds or fails for good, and a world that
a recovery can mend if it failed for a reason that passes. -/
def Attempted (broken : World σ → Prop) (post : Except Fault α → World σ → Prop) :
    Except Failure α → World σ → Prop
  | .ok value, t => post (.ok value) t
  | .error failure, t =>
      (failure.isReconnectable = true → broken t) ∧
        (failure.isReconnectable = false → post (.error (.command failure)) t)

theorem attemptOnce_ends {isRetry : Bool} {w : World σ}
    (attempted : (attempt isRetry).Ends (w.record (.attempted isRetry))
      (Attempted broken post)) :
    (attemptOnce attempt isRetry).Ends w fun result t =>
      ∃ outcome, result = .ok outcome ∧ Attempted broken post outcome t := by
  rw [attemptOnce, Act.ends_bind, ends_note, Act.ends_outcome]
  refine attempted.mono ?_
  intro outcome t ended
  exact ⟨outcome, rfl, ended⟩

/-- Attempts after a recovery begin in a mended world. -/
def RetriesEnd (broken mended : World σ → Prop) (attempt : Bool → Act (World σ) Failure α)
    (post : Except Fault α → World σ → Prop) : Prop :=
  ∀ w, mended w → (attempt true).Ends (w.record (.attempted true)) (Attempted broken post)

theorem afterFailure_ends (mends : s.Mends recovery broken mended)
    (retried : RetriesEnd broken mended attempt post)
    (abandoned : ∀ {fault w}, fault.commandFailure? = none → broken w → post (.error fault) w)
    {operation : String} {start : Span} (patience : Nat) :
    ∀ {retries : Nat} {failure : Failure} {w : World σ},
      Attempted broken post (.error failure) w →
        (s.afterFailure recovery operation attempt start patience retries failure).Ends w
          post := by
  induction patience with
  | zero =>
      intro retries failure w failed
      exact Act.ends_outlasted
  | succ patience inductionHypothesis =>
      intro retries failure w failed
      rw [afterFailure]
      split
      · next final =>
        rw [Bool.not_eq_true'] at final
        exact (Act.ends_fail _).mpr (failed.2 final)
      next passing =>
      rw [Bool.not_eq_true', Bool.not_eq_false] at passing
      simp only [Act.ends_bind, ends_elapsedSince]
      split
      · simp only [Act.ends_bind, ends_note, Act.ends_fail]
        exact abandoned rfl (mends.remarked rfl (failed.1 passing))
      · simp only [Act.ends_bind, ends_note]
        refine (probing_ends mends s.patience (mends.remarked rfl (failed.1 passing))).mono ?_
        rintro (fault | ⟨⟩) t recovered
        · exact abandoned recovered.1 recovered.2
        refine (attemptOnce_ends (retried t recovered)).mono ?_
        rintro _ u ⟨failure | value, rfl, ended⟩
        · exact inductionHypothesis ended
        · exact (Act.ends_pure value).mpr ended

/-- The rule for a repetition: what its first attempt comes to, what its retries come to
from a mended world, and what is left when it is given up. -/
theorem retrying_ends_of_mends (mends : s.Mends recovery broken mended)
    (retried : RetriesEnd broken mended attempt post)
    (abandoned : ∀ {fault w}, fault.commandFailure? = none → broken w → post (.error fault) w)
    {operation : String} {w : World σ}
    (first : (attempt false).Ends (w.record (.attempted false)) (Attempted broken post)) :
    (s.retrying recovery operation attempt).Ends w post := by
  refine Act.ends_bind.mpr ((attemptOnce_ends first).mono ?_)
  rintro _ t ⟨failure | value, rfl, ended⟩
  · simp only [Act.ends_bind, ends_now]
    exact afterFailure_ends mends retried abandoned s.patience ended
  · exact (Act.ends_pure value).mpr ended

/-- What does not fail for a reason that passes is not repeated. -/
theorem retrying_ends_of_first {operation : String} {w : World σ}
    (first : (attempt false).Ends (w.record (.attempted false))
      (Attempted (fun _ => False) post)) :
    (s.retrying recovery operation attempt).Ends w post :=
  have mends : s.Mends recovery (fun _ => False) (fun _ => False) :=
    ⟨fun _ => id, False.elim, False.elim⟩
  retrying_ends_of_mends mends (fun _ => False.elim) (fun _ => False.elim) first

/-! ## Properties that every attempt keeps -/

/-- What a single attempt is to achieve: `post` if it succeeds, and nothing but the
property if it fails. -/
def AttemptEnds (holds : World σ → Prop) (attempt : Bool → Act (World σ) Failure α)
    (post : Except Fault α → World σ → Prop) : Prop :=
  ∀ isRetry w, holds w → (attempt isRetry).Ends w fun result t =>
    match result with
    | .ok value => post (.ok value) t
    | .error _ => holds t

/-- What one successful attempt achieves from wherever the property holds, the
repetition achieves if it succeeds. -/
theorem retrying_ends (keeps : s.Keeps recovery holds)
    (attempted : AttemptEnds holds attempt post)
    (abandoned : ∀ {fault w}, holds w → post (.error fault) w) {operation : String}
    {w : World σ} (held : holds w) :
    (s.retrying recovery operation attempt).Ends w post := by
  have every (isRetry : Bool) (u : World σ) (heldThere : holds u) :
      (attempt isRetry).Ends (u.record (.attempted isRetry)) (Attempted holds post) := by
    refine (attempted isRetry _ (keeps.remarked rfl heldThere)).mono ?_
    rintro (failure | value) t ended
    · exact ⟨fun _ => ended, fun _ => abandoned ended⟩
    · exact ended
  exact retrying_ends_of_mends keeps.mends (fun u heldThere => every true u heldThere)
    (fun _ heldThere => abandoned heldThere) (every false w held)

/-- What no attempt breaks, no repetition breaks. -/
theorem retrying_preserves (keeps : s.Keeps recovery holds)
    (attempted : ∀ isRetry, (attempt isRetry).Preserves holds) {operation : String} :
    (s.retrying recovery operation attempt).Preserves holds := by
  intro w held
  refine retrying_ends keeps ?_ (fun kept => kept) held
  intro isRetry u heldThere
  refine (attempted isRetry u heldThere).mono ?_
  rintro (failure | value) t kept <;> exact kept

end Session

end LogReplay
