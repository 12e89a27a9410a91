/-
Module: LogReplay.Proofs.Session.Protocol
Purpose: What a repeated operation does, one deed after the other, and what it comes to.
Main exports:
  Deed, Session.Does, Account, Account.Orderly, Account.ComesTo,
  Session.retrying_keeps_protocol
-/
import LogReplay.Proofs.Session.Retrying

/-!
Seen from outside, a repeated operation makes attempts, pauses and sends probes.
`Does` follows these deeds from one world to another, whatever an attempt may do to the
world.  An `Account` is the only form that the list of deeds can have: an attempt, then
recoveries with an attempt after each, and in the end possibly a recovery that failed.

What the operation comes to can be read off the account: off its last attempt, or off
the last probe of the recovery that failed.  Floors are compared with the time that has
passed since the first attempt failed.
-/

namespace LogReplay

/-- How an attempt or a probe went. -/
structure Try (α : Type) where
  outcome : Except Failure α
  /-- The time on the clock when it ended. -/
  ended : Span

/-- What a repeated operation does, apart from the remarks it leaves. -/
inductive Deed (α : Type) where
  | attempted (isRetry : Bool) (went : Try α)
  | paused (span : Span)
  | probed (went : Try Unit)

/-- These deeds, one after the other, lead from a world to another. -/
inductive Session.Does {σ α : Type} (s : Session σ) (recovery : Recovery)
    (attempt : Bool → Act (World σ) Failure α) :
    World σ → List (Deed α) → World σ → Prop where
  | nothing (w : World σ) : Does s recovery attempt w [] w
  | aside {w t : World σ} {deeds : List (Deed α)} {event : Event}
      (quiet : event.isAside = true)
      (later : Does s recovery attempt (w.record event) deeds t) :
      Does s recovery attempt w deeds t
  | attempted {w u t : World σ} {deeds : List (Deed α)} {isRetry : Bool}
      {outcome : Except Failure α}
      (ended : (attempt isRetry).run (w.record (.attempted isRetry)) = some (outcome, u))
      (later : Does s recovery attempt u deeds t) :
      Does s recovery attempt w
        (.attempted isRetry ⟨outcome, s.destination.now u.outside⟩ :: deeds) t
  | paused {w u t : World σ} {deeds : List (Deed α)} {span : Span}
      (slept : (s.sleep span : Act (World σ) Fault Unit).run w = some (.ok (), u))
      (later : Does s recovery attempt u deeds t) :
      Does s recovery attempt w (.paused span :: deeds) t
  | probed {w u t : World σ} {deeds : List (Deed α)} {outcome : Except Failure Unit}
      (ended : (s.probe recovery).run w = some (outcome, u))
      (later : Does s recovery attempt u deeds t) :
      Does s recovery attempt w
        (.probed ⟨outcome, s.destination.now u.outside⟩ :: deeds) t

/-! ## Accounts -/

/-- A recovery that succeeded, and the attempt after it. -/
structure Renewal (α : Type) where
  probes : List (Try Unit)
  attempt : Try α

/-- An attempt, then recoveries with an attempt after each, and possibly a recovery that
failed. -/
structure Account (α : Type) where
  first : Try α
  renewals : List (Renewal α)
  /-- The probes of the recovery that failed, if one did. -/
  lost : Option (List (Try Unit))

/-- In a recovery each probe comes after a pause. -/
def recoveryDeeds {α : Type} (pause : Span) (probes : List (Try Unit)) : List (Deed α) :=
  probes.flatMap fun probe => [.paused pause, .probed probe]

def Renewal.deeds {α : Type} (pause : Span) (r : Renewal α) : List (Deed α) :=
  recoveryDeeds pause r.probes ++ [.attempted true r.attempt]

/-- The deeds that follow an attempt. -/
def laterDeeds {α : Type} (pause : Span) (renewals : List (Renewal α))
    (lost : Option (List (Try Unit))) : List (Deed α) :=
  renewals.flatMap (Renewal.deeds pause) ++ recoveryDeeds pause (lost.getD [])

namespace Account

variable {α : Type}

/-- Only the first attempt is not a retry. -/
def deeds (pause : Span) (a : Account α) : List (Deed α) :=
  .attempted false a.first :: laterDeeds pause a.renewals a.lost

def attempts (a : Account α) : List (Try α) :=
  a.first :: a.renewals.map Renewal.attempt

def last (a : Account α) : Try α :=
  a.attempts.getLast (List.cons_ne_nil _ _)

/-- The probes of each recovery, whether it succeeded or not. -/
def recoveries (a : Account α) : List (List (Try Unit)) :=
  a.renewals.map Renewal.probes ++ a.lost.toList

end Account

theorem laterDeeds_cons {α : Type} (pause : Span) (r : Renewal α) (renewals : List (Renewal α))
    (lost : Option (List (Try Unit))) :
    laterDeeds pause (r :: renewals) lost =
      recoveryDeeds pause r.probes ++ [.attempted true r.attempt] ++
        laterDeeds pause renewals lost := by
  simp only [laterDeeds, List.flatMap_cons, Renewal.deeds, List.append_assoc]

/-! ## When a recovery begins, and how it ends -/

/-- It failed for a reason that passes. -/
def Try.IsTransient {α : Type} (went : Try α) : Prop :=
  ∃ failure, went.outcome = .error failure ∧ failure.isReconnectable = true

section Floors

variable (p : Retry.Policy) (start : Span)

/-- After so many others, all these probes failed for reasons that pass, and each before
patience was exhausted. -/
def ProbesPersist (others : Nat) (probes : List (Try Unit)) : Prop :=
  ∀ k probe, probes[k]? = some probe →
    probe.IsTransient ∧ p.reconnectExhausted (others + k + 1) (probe.ended - start) = false

/-- The last probe succeeded, and only the last one. -/
def ProbesSucceed (others : Nat) (probes : List (Try Unit)) : Prop :=
  ∃ failed final, probes = failed ++ [final] ∧ ProbesPersist p start others failed ∧
    final.outcome = .ok ()

/-- The last probe failed for a reason that does not pass, or when patience was
exhausted, and only the last one. -/
def ProbesFail (others : Nat) (probes : List (Try Unit)) (failure : Failure) (elapsed : Span) :
    Prop :=
  ∃ failed final, probes = failed ++ [final] ∧ ProbesPersist p start others failed ∧
    final.outcome = .error failure ∧ elapsed = final.ended - start ∧
      (failure.isReconnectable = true →
        p.reconnectExhausted (others + probes.length) elapsed = true)

theorem ProbesPersist.cons {p : Retry.Policy} {start : Span} {others : Nat} {probe : Try Unit}
    {probes : List (Try Unit)} (transient : probe.IsTransient)
    (floors : p.reconnectExhausted (others + 1) (probe.ended - start) = false)
    (later : ProbesPersist p start (others + 1) probes) :
    ProbesPersist p start others (probe :: probes) := by
  intro k found known
  cases k with
  | zero =>
      cases known
      exact ⟨transient, floors⟩
  | succ k =>
      rw [← Nat.add_assoc, Nat.add_right_comm others k 1]
      exact later k found known

theorem ProbesFail.unique {p : Retry.Policy} {start : Span} {others : Nat}
    {probes : List (Try Unit)} {failure failure' : Failure} {elapsed elapsed' : Span}
    (one : ProbesFail p start others probes failure elapsed)
    (two : ProbesFail p start others probes failure' elapsed') :
    failure = failure' ∧ elapsed = elapsed' := by
  obtain ⟨_, final, rfl, _, outcome, rfl, _⟩ := one
  obtain ⟨_, final', same, _, outcome', rfl, _⟩ := two
  obtain ⟨_, last⟩ := List.append_inj' same rfl
  cases last
  rw [outcome, Except.error.injEq] at outcome'
  exact ⟨outcome', rfl⟩

end Floors

/-- A recovery begins only after an attempt that failed for a reason that passes, before
patience was exhausted; another attempt begins only after a recovery that succeeded. -/
structure Account.Orderly {α : Type} (p : Retry.Policy) (a : Account α) : Prop where
  begun : ∀ k went, a.attempts[k]? = some went → k < a.recoveries.length →
    went.IsTransient ∧ p.commandExhausted k (went.ended - a.first.ended) = false
  recovered : ∀ r ∈ a.renewals, ProbesSucceed p a.first.ended 0 r.probes
  lost : ∀ probes, a.lost = some probes →
    ∃ failure elapsed, ProbesFail p a.first.ended 0 probes failure elapsed

/-- What the operation comes to, read off the account. -/
structure Account.ComesTo {α : Type} (target : String) (p : Retry.Policy) (a : Account α)
    (result : Except Fault α) : Prop where
  ok_iff : ∀ value, result = .ok value ↔ a.last.outcome = .ok value
  command_iff : ∀ failure, result = .error (.command failure) ↔
    a.last.outcome = .error failure ∧ failure.isReconnectable = false
  retriesExhausted_iff : ∀ attempts elapsed failure,
    result = .error (.retriesExhausted attempts elapsed failure) ↔
      (a.last.outcome = .error failure ∧ failure.isReconnectable = true ∧
        p.minAttempts ≤ a.attempts.length - 1 ∧
          p.minDuration ≤ a.last.ended - a.first.ended) ∧
      attempts = a.attempts.length ∧ elapsed = a.last.ended - a.first.ended
  reconnectFailed_iff : ∀ name probes elapsed failure,
    result = .error (.reconnectFailed name probes elapsed failure) ↔
      ∃ lost, a.lost = some lost ∧ ProbesFail p a.first.ended 0 lost failure elapsed ∧
        probes = lost.length ∧ name = target
  /-- No other fault is handed out. -/
  blamed : ∀ fault, result = .error fault →
    fault.isRetryable = false ∧ fault.failure?.isSome = true

/-! ## The account, attempt by attempt -/

/-- What follows an attempt that was the latest of so many after the first. -/
inductive Follows {α : Type} (target : String) (p : Retry.Policy) (start : Span) :
    (retries : Nat) → Try α → List (Renewal α) → Option (List (Try Unit)) →
      Except Fault α → Prop where
  | succeeded {retries : Nat} {went : Try α} {value : α}
      (outcome : went.outcome = .ok value) :
      Follows target p start retries went [] none (.ok value)
  | refused {retries : Nat} {went : Try α} {failure : Failure}
      (outcome : went.outcome = .error failure)
      (final : failure.isReconnectable = false) :
      Follows target p start retries went [] none (.error (.command failure))
  | exhausted {retries : Nat} {went : Try α} {failure : Failure}
      (outcome : went.outcome = .error failure)
      (passing : failure.isReconnectable = true)
      (floors : p.commandExhausted retries (went.ended - start) = true) :
      Follows target p start retries went [] none
        (.error (.retriesExhausted (retries + 1) (went.ended - start) failure))
  | lost {retries : Nat} {went : Try α} {probes : List (Try Unit)} {failure : Failure}
      {elapsed : Span} (transient : went.IsTransient)
      (floors : p.commandExhausted retries (went.ended - start) = false)
      (fail : ProbesFail p start 0 probes failure elapsed) :
      Follows target p start retries went [] (some probes)
        (.error (.reconnectFailed target probes.length elapsed failure))
  | renewed {retries : Nat} {went next : Try α} {probes : List (Try Unit)}
      {renewals : List (Renewal α)} {lost : Option (List (Try Unit))}
      {result : Except Fault α} (transient : went.IsTransient)
      (floors : p.commandExhausted retries (went.ended - start) = false)
      (succeed : ProbesSucceed p start 0 probes)
      (later : Follows target p start (retries + 1) next renewals lost result) :
      Follows target p start retries went (⟨probes, next⟩ :: renewals) lost result

namespace Follows

variable {α : Type} {target : String} {p : Retry.Policy} {start : Span} {retries : Nat}
  {went : Try α} {renewals : List (Renewal α)} {lost : Option (List (Try Unit))}
  {result : Except Fault α}

/-- An attempt that a recovery follows. -/
theorem begun (follows : Follows target p start retries went renewals lost result) :
    ∀ k attempt, (went :: renewals.map Renewal.attempt)[k]? = some attempt →
      k < (renewals.map Renewal.probes ++ lost.toList).length →
        attempt.IsTransient ∧
          p.commandExhausted (retries + k) (attempt.ended - start) = false := by
  induction follows with
  | succeeded | refused | exhausted =>
      intro k attempt _ before
      exact absurd before (Nat.not_lt_zero k)
  | lost transient floors =>
      intro k attempt found before
      obtain rfl : k = 0 := Nat.lt_one_iff.mp before
      cases found
      exact ⟨transient, floors⟩
  | @renewed retries went next probes renewals lost result transient floors _ _
      inductionHypothesis =>
      intro k attempt found before
      cases k with
      | zero =>
          cases found
          exact ⟨transient, floors⟩
      | succ k =>
          rw [← Nat.add_assoc, Nat.add_right_comm]
          exact inductionHypothesis k attempt found (Nat.lt_of_succ_lt_succ before)

theorem recovered (follows : Follows target p start retries went renewals lost result) :
    ∀ r ∈ renewals, ProbesSucceed p start 0 r.probes := by
  induction follows with
  | succeeded | refused | exhausted | lost => exact List.forall_mem_nil _
  | renewed _ _ succeed _ inductionHypothesis =>
      exact List.forall_mem_cons.mpr ⟨succeed, inductionHypothesis⟩

theorem fails_of_lost (follows : Follows target p start retries went renewals lost result) :
    ∀ probes, lost = some probes →
      ∃ failure elapsed, ProbesFail p start 0 probes failure elapsed := by
  induction follows with
  | succeeded | refused | exhausted =>
      intro probes lost
      cases lost
  | lost _ _ fail =>
      intro probes lost
      cases lost
      exact ⟨_, _, fail⟩
  | renewed _ _ _ _ inductionHypothesis => exact inductionHypothesis

/-- What follows the last attempt. -/
theorem last (follows : Follows target p start retries went renewals lost result) :
    Follows target p start (retries + renewals.length)
      ((went :: renewals.map Renewal.attempt).getLast (List.cons_ne_nil _ _)) [] lost result := by
  induction follows with
  | succeeded outcome => exact .succeeded outcome
  | refused outcome final => exact .refused outcome final
  | exhausted outcome passing floors => exact .exhausted outcome passing floors
  | lost transient floors fail => exact .lost transient floors fail
  | renewed _ _ _ _ inductionHypothesis =>
      rw [List.length_cons, Nat.add_comm _ 1, ← Nat.add_assoc]
      exact inductionHypothesis

/-! What an operation comes to after its last attempt. -/

theorem ok_iff (final : Follows target p start retries went [] lost result) (value : α) :
    result = .ok value ↔ went.outcome = .ok value := by
  cases final with
  | succeeded outcome => rw [outcome, Except.ok.injEq, Except.ok.injEq]
  | refused outcome | exhausted outcome => simp [outcome]
  | lost transient =>
      obtain ⟨failure, outcome, _⟩ := transient
      simp [outcome]

theorem command_iff (final : Follows target p start retries went [] lost result)
    (failure : Failure) :
    result = .error (.command failure) ↔
      went.outcome = .error failure ∧ failure.isReconnectable = false := by
  cases final with
  | succeeded outcome => simp [outcome]
  | refused outcome final =>
      simp only [outcome, Except.error.injEq, Fault.command.injEq]
      constructor
      · rintro rfl
        exact ⟨rfl, final⟩
      · exact And.left
  | exhausted outcome passing =>
      simp only [outcome, Except.error.injEq, reduceCtorEq, false_iff]
      rintro ⟨rfl, final⟩
      exact Bool.false_ne_true (final.symm.trans passing)
  | lost transient =>
      obtain ⟨_, outcome, passing⟩ := transient
      simp only [outcome, Except.error.injEq, reduceCtorEq, false_iff]
      rintro ⟨rfl, final⟩
      exact Bool.false_ne_true (final.symm.trans passing)

theorem retriesExhausted_iff (final : Follows target p start retries went [] lost result)
    (attempts : Nat) (elapsed : Span) (failure : Failure) :
    result = .error (.retriesExhausted attempts elapsed failure) ↔
      (went.outcome = .error failure ∧ failure.isReconnectable = true ∧
        p.commandExhausted retries (went.ended - start) = true) ∧
      attempts = retries + 1 ∧ elapsed = went.ended - start := by
  cases final with
  | succeeded outcome => simp [outcome]
  | refused outcome final =>
      simp only [outcome, Except.error.injEq, reduceCtorEq, false_iff]
      rintro ⟨⟨rfl, passing, _⟩, _⟩
      exact Bool.false_ne_true (final.symm.trans passing)
  | exhausted outcome passing floors =>
      simp only [outcome, Except.error.injEq, Fault.retriesExhausted.injEq]
      constructor
      · rintro ⟨rfl, rfl, rfl⟩
        exact ⟨⟨rfl, passing, floors⟩, rfl, rfl⟩
      · rintro ⟨⟨rfl, _, _⟩, rfl, rfl⟩
        exact ⟨rfl, rfl, rfl⟩
  | lost _ below => simp [below]

theorem reconnectFailed_iff (final : Follows target p start retries went [] lost result)
    (name : String) (probes : Nat) (elapsed : Span) (failure : Failure) :
    result = .error (.reconnectFailed name probes elapsed failure) ↔
      ∃ failed, lost = some failed ∧ ProbesFail p start 0 failed failure elapsed ∧
        probes = failed.length ∧ name = target := by
  cases final with
  | succeeded | refused | exhausted => simp
  | @lost _ _ failed _ _ _ _ fail =>
      simp only [Except.error.injEq, Fault.reconnectFailed.injEq]
      constructor
      · rintro ⟨rfl, rfl, rfl, rfl⟩
        exact ⟨failed, rfl, fail, rfl, rfl⟩
      · rintro ⟨_, ⟨⟩, otherwise, rfl, rfl⟩
        obtain ⟨rfl, rfl⟩ := fail.unique otherwise
        exact ⟨rfl, rfl, rfl, rfl⟩

theorem blamed (final : Follows target p start retries went [] lost result) (fault : Fault)
    (failed : result = .error fault) :
    fault.isRetryable = false ∧ fault.failure?.isSome = true := by
  cases final with
  | succeeded => cases failed
  | refused _ final =>
      cases failed
      exact ⟨final, rfl⟩
  | exhausted | lost =>
      cases failed
      exact ⟨rfl, rfl⟩

end Follows

namespace Account

variable {α : Type} {target : String} {p : Retry.Policy} {a : Account α}
  {result : Except Fault α}

theorem orderly_of_follows
    (follows : Follows target p a.first.ended 0 a.first a.renewals a.lost result) :
    a.Orderly p where
  begun := by
    intro k went found before
    rw [← Nat.zero_add k]
    exact follows.begun k went found before
  recovered := follows.recovered
  lost := follows.fails_of_lost

theorem length_attempts (a : Account α) : a.attempts.length = a.renewals.length + 1 := by
  rw [attempts, List.length_cons, List.length_map]

theorem comesTo_of_follows
    (follows : Follows target p a.first.ended 0 a.first a.renewals a.lost result) :
    a.ComesTo target p result := by
  have final : Follows target p a.first.ended a.renewals.length a.last [] a.lost result := by
    rw [← Nat.zero_add a.renewals.length]
    exact follows.last
  refine ⟨final.ok_iff, final.command_iff, ?_, final.reconnectFailed_iff, final.blamed⟩
  intro attempts elapsed failure
  rw [final.retriesExhausted_iff, a.length_attempts, Nat.add_sub_cancel,
    Retry.Policy.commandExhausted, Bool.and_eq_true, decide_eq_true_iff, decide_eq_true_iff]

end Account

/-! ## What a run does -/

namespace Session

variable {σ α : Type} {s : Session σ} {recovery : Recovery}
  {attempt : Bool → Act (World σ) Failure α}

theorem Does.trans {w u t : World σ} {deeds later : List (Deed α)}
    (one : s.Does recovery attempt w deeds u) (two : s.Does recovery attempt u later t) :
    s.Does recovery attempt w (deeds ++ later) t := by
  induction one with
  | nothing => exact two
  | aside quiet _ inductionHypothesis => exact .aside quiet (inductionHypothesis two)
  | attempted ended _ inductionHypothesis => exact .attempted ended (inductionHypothesis two)
  | paused slept _ inductionHypothesis => exact .paused slept (inductionHypothesis two)
  | probed ended _ inductionHypothesis => exact .probed ended (inductionHypothesis two)

/-- What the probes of a recovery come to. -/
def ProbesEnd (s : Session σ) (start : Span) (others : Nat) (probes : List (Try Unit)) :
    Except Fault Unit → Prop
  | .ok () => ProbesSucceed s.policy start others probes
  | .error fault => ∃ failure elapsed,
      ProbesFail s.policy start others probes failure elapsed ∧
        fault = .reconnectFailed s.settings.destinationName (others + probes.length) elapsed
          failure

theorem ProbesEnd.cons {start : Span} {others : Nat} {probe : Try Unit}
    {probes : List (Try Unit)} {result : Except Fault Unit} (transient : probe.IsTransient)
    (floors : s.policy.reconnectExhausted (others + 1) (probe.ended - start) = false)
    (later : s.ProbesEnd start (others + 1) probes result) :
    s.ProbesEnd start others (probe :: probes) result := by
  have count : others + 1 + probes.length = others + (probe :: probes).length := by
    rw [List.length_cons]
    omega
  cases result with
  | ok =>
      obtain ⟨failed, final, rfl, persist, succeeded⟩ := later
      exact ⟨probe :: failed, final, rfl, .cons transient floors persist, succeeded⟩
  | error fault =>
      obtain ⟨failure, elapsed, ⟨failed, final, rfl, persist, outcome, passed, patience⟩, rfl⟩ :=
        later
      rw [count] at patience ⊢
      exact ⟨failure, elapsed,
        ⟨probe :: failed, final, rfl, .cons transient floors persist, outcome, passed, patience⟩,
        rfl⟩

theorem judgeProbe_eq_stillFailing_iff {failure : Failure} {probes : Nat} {elapsed : Span} :
    s.judgeProbe failure probes elapsed = .stillFailing ↔
      failure.isReconnectable = true ∧ s.policy.reconnectExhausted probes elapsed = false := by
  rw [judgeProbe]
  split
  · simp_all
  · split <;> simp_all

variable (s recovery attempt)

theorem probing_does (start : Span) (patience : Nat) : ∀ {others : Nat} {w : World σ},
    (s.probing recovery start patience others).Ends w fun result t =>
      ∃ probes, s.Does recovery attempt w (recoveryDeeds s.policy.recoverSleep probes) t ∧
        s.ProbesEnd start others probes result := by
  induction patience with
  | zero =>
      intro others w
      exact Act.ends_outlasted
  | succ patience inductionHypothesis =>
      intro others w
      rw [probing, Act.ends_bind]
      intro rest u slept
      cases slept
      rw [Act.ends_bind, Act.ends_outcome]
      intro outcome v probed
      have oneProbe : s.Does recovery attempt w
          [.paused s.policy.recoverSleep, .probed ⟨outcome, s.destination.now v.outside⟩] v :=
        .paused rfl (.probed probed (.nothing v))
      cases outcome with
      | ok =>
          refine ends_note.mpr ⟨[⟨.ok (), s.destination.now v.outside⟩], ?_, ?_⟩
          · exact oneProbe.trans (.aside rfl (.nothing _))
          · exact ⟨[], _, rfl, fun k probe found => (by cases found), rfl⟩
      | error failure =>
          simp only [Act.ends_bind, ends_elapsedSince, ends_note]
          split
          · next goesOn =>
            obtain ⟨passing, floors⟩ := judgeProbe_eq_stillFailing_iff.mp goesOn
            refine (@inductionHypothesis (others + 1) _).mono ?_
            rintro result t ⟨probes, does, probesEnd⟩
            refine ⟨⟨.error failure, s.destination.now v.outside⟩ :: probes, ?_, ?_⟩
            · exact oneProbe.trans (.aside rfl does)
            · exact probesEnd.cons ⟨failure, rfl, passing⟩ floors
          · next ended =>
            refine (Act.ends_fail _).mpr
              ⟨[⟨.error failure, s.destination.now v.outside⟩], ?_, failure, _, ?_, rfl⟩
            · exact oneProbe.trans (.aside rfl (.nothing _))
            · refine ⟨[], _, rfl, fun k probe found => (by cases found), rfl, rfl, ?_⟩
              intro passing
              -- A failure that passes ends the recovery only when patience is exhausted.
              refine eq_true_of_ne_false fun floors => ended ?_
              exact judgeProbe_eq_stillFailing_iff.mpr ⟨passing, by simpa using floors⟩

theorem attemptOnce_does (isRetry : Bool) (w : World σ) :
    (attemptOnce attempt isRetry).Ends w fun result t =>
      ∃ outcome, result = .ok outcome ∧
        s.Does recovery attempt w
          [.attempted isRetry ⟨outcome, s.destination.now t.outside⟩] t := by
  rw [attemptOnce, Act.ends_bind, ends_note, Act.ends_outcome]
  intro outcome t ended
  exact ⟨outcome, rfl, .attempted ended (.nothing t)⟩

/-- What follows a failed attempt after so many retries. -/
theorem afterFailure_does (operation : String) (start : Span) (patience : Nat) :
    ∀ {retries : Nat} {failure : Failure} {w : World σ},
      (s.afterFailure recovery operation attempt start patience retries failure).Ends w
        fun result t => ∃ renewals lost,
          s.Does recovery attempt w (laterDeeds s.policy.recoverSleep renewals lost) t ∧
            Follows s.settings.destinationName s.policy start retries
              ⟨.error failure, s.destination.now w.outside⟩ renewals lost result := by
  induction patience with
  | zero =>
      intro retries failure w
      exact Act.ends_outlasted
  | succ patience inductionHypothesis =>
      intro retries failure w
      rw [afterFailure]
      split
      · next final =>
        refine (Act.ends_fail _).mpr ⟨[], none, .nothing w, .refused rfl ?_⟩
        simpa using final
      next passing =>
      simp only [Bool.not_eq_true', Bool.not_eq_false] at passing
      simp only [Act.ends_bind, ends_elapsedSince]
      split
      · next floors =>
        simp only [Act.ends_bind, ends_note, Act.ends_fail]
        exact ⟨[], none, .aside rfl (.nothing _), .exhausted rfl passing floors⟩
      · next floors =>
        rw [Bool.not_eq_true] at floors
        simp only [Act.ends_bind, ends_note]
        -- Only a recovery that succeeds is followed by an attempt, with the same case split.
        refine (s.probing_does recovery attempt start s.patience).mono ?_
        rintro recovered t ⟨probes, does, probesEnd⟩
        have asked := Does.aside rfl does
        cases recovered with
        | error fault =>
            obtain ⟨reason, elapsed, fail, rfl⟩ := probesEnd
            refine ⟨[], some probes, asked, ?_⟩
            rw [Nat.zero_add]
            exact .lost ⟨failure, rfl, passing⟩ floors fail
        | ok =>
            refine (s.attemptOnce_does recovery attempt true t).mono ?_
            rintro _ u ⟨outcome, rfl, attempted⟩
            have renewed := asked.trans attempted
            cases outcome with
            | ok value =>
                refine (Act.ends_pure value).mpr
                  ⟨[⟨probes, ⟨.ok value, s.destination.now u.outside⟩⟩], none, ?_, ?_⟩
                · rw [laterDeeds_cons]
                  exact renewed.trans (.nothing u)
                · exact .renewed ⟨failure, rfl, passing⟩ floors probesEnd (.succeeded rfl)
            | error next =>
                refine inductionHypothesis.mono ?_
                rintro result v ⟨renewals, lost, later, follows⟩
                refine ⟨⟨probes, ⟨.error next, s.destination.now u.outside⟩⟩ :: renewals, lost,
                  ?_, ?_⟩
                · rw [laterDeeds_cons]
                  exact renewed.trans later
                · exact .renewed ⟨failure, rfl, passing⟩ floors probesEnd follows

theorem retrying_does (operation : String) (w : World σ) :
    (s.retrying recovery operation attempt).Ends w fun result t =>
      ∃ account : Account α,
        s.Does recovery attempt w (account.deeds s.policy.recoverSleep) t ∧
          Follows s.settings.destinationName s.policy account.first.ended 0 account.first
            account.renewals account.lost result := by
  refine Act.ends_bind.mpr ((s.attemptOnce_does recovery attempt false w).mono ?_)
  rintro _ u ⟨outcome, rfl, attempted⟩
  cases outcome with
  | ok value =>
      exact (Act.ends_pure value).mpr
        ⟨⟨⟨.ok value, s.destination.now u.outside⟩, [], none⟩, attempted, .succeeded rfl⟩
  | error failure =>
      simp only [Act.ends_bind, ends_now]
      refine (s.afterFailure_does recovery attempt operation _ s.patience).mono ?_
      rintro result t ⟨renewals, lost, later, follows⟩
      exact ⟨⟨⟨.error failure, s.destination.now u.outside⟩, renewals, lost⟩,
        attempted.trans later, follows⟩

variable {s recovery attempt}

/-- Whatever an attempt may do, an operation that is repeated makes a first attempt, and
then recovers and attempts again in turn; possibly the last recovery fails.  A recovery
begins only after a failure that passes, with a pause before each of its probes, and only
one that succeeds is followed by an attempt.

It succeeds exactly if its last attempt does.  It hands out the failure of its last
attempt exactly if that does not pass; it gives up exactly if the last attempt failed for
a reason that passes and both floors were reached; and it reports a lost session exactly
if the last recovery failed. -/
theorem retrying_keeps_protocol {operation : String} {w t : World σ} {result : Except Fault α}
    (ended : (s.retrying recovery operation attempt).run w = some (result, t)) :
    ∃ account : Account α,
      s.Does recovery attempt w (account.deeds s.policy.recoverSleep) t ∧
        account.Orderly s.policy ∧
          account.ComesTo s.settings.destinationName s.policy result := by
  obtain ⟨account, does, follows⟩ :=
    s.retrying_does recovery attempt operation w result t ended
  exact ⟨account, does, Account.orderly_of_follows follows, Account.comesTo_of_follows follows⟩

end Session

/-! ## A destination that recovers, and fails again -/

/-- A destination that moves from failure to failure, and is well for one command in
between.  Its clock moves while it is left alone. -/
def relapsing : Destination (Span × List Bool) where
  now o := o.1
  run o _ _ :=
    match o.2 with
    | false :: rest => (.ok [("ok", .int32 0), ("code", .int32 10107)], (o.1, rest))
    | true :: rest => (.ok [("ok", .int32 1)], (o.1, rest))
    | [] => (.ok [("ok", .int32 1)], o)
  pause o span := (o.1 + span, o.2)

/-- A session that gives up after one retry and two probes, but not before 20 ms. -/
def hasty : Session (Span × List Bool) where
  destination := relapsing
  settings := .testing
  policy := ⟨1, 2, Span.ofMilliseconds 20, Span.ofMilliseconds 10⟩
  patience := 4

/-- The failure that a destination reports when it is not a primary. -/
def notPrimary : Failure :=
  .command (Reply.commandError [("ok", .int32 0), ("code", .int32 10107)])

/-- One attempt at reaching the destination. -/
def ping (_ : Bool) : Act (World (Span × List Bool)) Failure Unit :=
  hasty.perform "admin" [("ping", .int32 1)]

/-- The first probe fails and the second one does not; the retry then fails at the moment
at which both floors are reached. -/
theorem hasty_gives_up_at_floors :
    ∃ (start t : World (Span × List Bool)) (account : Account Unit),
      (hasty.retryingWrite "ping" ping).run start =
        some (.error (.retriesExhausted 2 (Span.ofMilliseconds 20) notPrimary), t) ∧
      hasty.Does .byWriting ping start (account.deeds (Span.ofMilliseconds 10)) t ∧
      account.attempts.length = 2 ∧ account.last.outcome = .error notPrimary ∧
        account.last.ended - account.first.ended = Span.ofMilliseconds 20 := by
  obtain ⟨t, ended⟩ : ∃ t,
      (hasty.retryingWrite "ping" ping).run ⟨(0, [false, false, true, false]), []⟩ =
        some (.error (.retriesExhausted 2 (Span.ofMilliseconds 20) notPrimary), t) :=
    ⟨_, rfl⟩
  obtain ⟨account, does, _, comesTo⟩ := Session.retrying_keeps_protocol ended
  obtain ⟨⟨outcome, _⟩, attempts, elapsed⟩ := (comesTo.retriesExhausted_iff _ _ _).mp rfl
  exact ⟨_, t, account, ended, does, attempts.symm, outcome, elapsed.symm⟩

end LogReplay
