/-
Module: LogReplay.Proofs.Session.Bounded
Purpose: How many attempts and probes a repeated operation makes at most, however long it
  keeps failing.
Main exports:
  Retry.Policy.enoughRetries, Retry.Policy.enoughProbes, Session.KeepsTime, Session.Timely,
  Account.KeepsPace, Session.retrying_halts, Session.retrying_is_bounded
-/
import LogReplay.Proofs.Act.Halts
import LogReplay.Proofs.Session.Attempt
import LogReplay.Proofs.Session.Protocol
import Mathlib.Algebra.Order.Floor.Div

/-!
A repetition is given up when two floors have been reached together, and only one of them
counts.  The other one is a length of time, so it is reached only if time passes.  Between
two attempts there is a recovery, and before each of its probes a pause.  So after some
number of pauses the second floor has been reached as well, whatever the commands take.

Time is counted from the first failure throughout.  A recovery may therefore stop on its
first probe, and does so if the floors were reached before it began.
-/

namespace LogReplay

/-! ## Floors and pauses -/

namespace Retry.Policy

variable (p : Policy)

/-- After so many retries with a pause before each, a command has reached both floors. -/
def enoughRetries : Nat :=
  max p.minAttempts (p.minDuration ⌈/⌉ p.recoverSleep)

/-- After so many probes with a pause before each, a recovery has reached both floors; it
makes at least one. -/
def enoughProbes : Nat :=
  max (max p.minReconnectAttempts (p.minDuration ⌈/⌉ p.recoverSleep)) 1

variable {p} {count : Nat} {elapsed : Span}

/-- As long as the floors have not been reached together, there have been few pauses. -/
theorem lt_of_floors {floor : Nat} (pausing : 0 < p.recoverSleep)
    (passed : count * p.recoverSleep ≤ elapsed)
    (unmet : (floor ≤ count && p.minDuration ≤ elapsed : Bool) = false) :
    count < max floor (p.minDuration ⌈/⌉ p.recoverSleep) := by
  by_contra! many
  obtain ⟨often, long⟩ := max_le_iff.mp many
  rw [ceilDiv_le_iff_le_mul pausing, Nat.mul_comm] at long
  have met : (floor ≤ count && p.minDuration ≤ elapsed : Bool) = true := by
    rw [Bool.and_eq_true, decide_eq_true_iff, decide_eq_true_iff]
    exact ⟨often, Nat.le_trans long passed⟩
  exact Bool.false_ne_true (unmet.symm.trans met)

theorem lt_enoughRetries (pausing : 0 < p.recoverSleep)
    (passed : count * p.recoverSleep ≤ elapsed)
    (unmet : p.commandExhausted count elapsed = false) : count < p.enoughRetries :=
  lt_of_floors pausing passed unmet

theorem lt_enoughProbes (pausing : 0 < p.recoverSleep)
    (passed : count * p.recoverSleep ≤ elapsed)
    (unmet : p.reconnectExhausted count elapsed = false) : count < p.enoughProbes :=
  Nat.lt_of_lt_of_le (lt_of_floors pausing passed unmet) (Nat.le_max_left _ _)

theorem enoughProbes_pos : 0 < p.enoughProbes :=
  Nat.le_max_right _ _

end Retry.Policy

/-! ## Accounts that keep pace -/

variable {α : Type}

/-- Each retry, and each probe of a recovery, ended after as many pauses. -/
structure Account.KeepsPace (pause : Span) (a : Account α) : Prop where
  attempts : ∀ (k : Nat) went, a.attempts[k]? = some went → a.first.ended + k * pause ≤ went.ended
  probes : ∀ probes ∈ a.recoveries, ∀ (k : Nat) probe, probes[k]? = some probe →
    a.first.ended + (k + 1) * pause ≤ probe.ended

/-- Only the last probe of a recovery can be one too many. -/
theorem ProbesPersist.length_lt {p : Retry.Policy} {start : Span} {failed : List (Try Unit)}
    (persist : ProbesPersist p start 0 failed) (pausing : 0 < p.recoverSleep)
    (paced : ∀ (k : Nat) probe, failed[k]? = some probe →
      start + (k + 1) * p.recoverSleep ≤ probe.ended) :
    failed.length < p.enoughProbes := by
  rcases List.eq_nil_or_concat failed with rfl | ⟨others, probe, rfl⟩
  · exact Retry.Policy.enoughProbes_pos
  · rw [List.concat_eq_append] at persist paced ⊢
    have last : (others ++ [probe])[others.length]? = some probe := List.getElem?_concat_length
    have unmet := (persist _ _ last).2
    have passed := paced _ _ last
    rw [List.length_append, List.length_singleton]
    rw [Nat.zero_add] at unmet
    exact Retry.Policy.lt_enoughProbes pausing (Nat.le_sub_of_add_le' passed) unmet

namespace Account

variable {p : Retry.Policy} {a : Account α}

/-- A recovery ends with a probe after which it is over, and the others left it going. -/
theorem Orderly.exists_failed (orderly : a.Orderly p) {probes : List (Try Unit)}
    (member : probes ∈ a.recoveries) :
    ∃ failed final, probes = failed ++ [final] ∧ ProbesPersist p a.first.ended 0 failed := by
  rcases List.mem_append.mp member with renewed | lost
  · obtain ⟨r, among, rfl⟩ := List.mem_map.mp renewed
    obtain ⟨failed, final, whole, persist, _⟩ := orderly.recovered r among
    exact ⟨failed, final, whole, persist⟩
  · obtain ⟨_, _, failed, final, whole, persist, _⟩ :=
      orderly.lost probes (Option.mem_toList.mp lost)
    exact ⟨failed, final, whole, persist⟩

theorem KeepsPace.length_probes_le (paced : a.KeepsPace p.recoverSleep)
    (orderly : a.Orderly p) (pausing : 0 < p.recoverSleep) {probes : List (Try Unit)}
    (member : probes ∈ a.recoveries) : probes.length ≤ p.enoughProbes := by
  have times := paced.probes probes member
  obtain ⟨failed, final, rfl, persist⟩ := orderly.exists_failed member
  rw [List.length_append, List.length_singleton]
  refine persist.length_lt pausing fun k probe found => times k probe ?_
  rw [List.getElem?_append_left (List.getElem?_eq_some_iff.mp found).1, found]

theorem KeepsPace.length_attempts_le (paced : a.KeepsPace p.recoverSleep)
    (orderly : a.Orderly p) (pausing : 0 < p.recoverSleep) :
    a.attempts.length ≤ p.enoughRetries + 1 := by
  have few : a.attempts.length ≤ a.recoveries.length + 1 := by
    rw [a.length_attempts, recoveries, List.length_append, List.length_map]
    omega
  have enough : a.recoveries.length ≤ a.attempts.length := by
    rw [a.length_attempts, recoveries, List.length_append, List.length_map]
    exact Nat.add_le_add_left (by cases a.lost <;> simp) _
  rcases Nat.eq_zero_or_pos a.recoveries.length with none | several
  · omega
  -- The attempt before the last recovery had not reached both floors.
  obtain ⟨went, found⟩ : ∃ went, a.attempts[a.recoveries.length - 1]? = some went :=
    ⟨_, List.getElem?_eq_getElem (by omega)⟩
  have unmet := (orderly.begun _ went found (by omega)).2
  have passed := paced.attempts _ went found
  have below := Retry.Policy.lt_enoughRetries pausing (Nat.le_sub_of_add_le' passed) unmet
  omega

end Account

/-! ## The time that deeds take -/

namespace Session

variable {σ : Type}

/-- The clock does not go back, and runs on while a session pauses. -/
structure KeepsTime (s : Session σ) : Prop where
  ran : ∀ o database command,
    s.destination.now o ≤ s.destination.now (s.destination.run o database command).2
  paused : ∀ o, s.destination.now o + s.policy.recoverSleep ≤
    s.destination.now (s.destination.pause o s.policy.recoverSleep)

/-- The act comes to an end, and not before it began. -/
def TakesTime (s : Session σ) {ε β : Type} (x : Act (World σ) ε β) : Prop :=
  ∀ w, x.Halts w ∧
    x.Ends w fun _ t => s.destination.now w.outside ≤ s.destination.now t.outside

/-- Every attempt comes to an end, and not before it began. -/
def Timely (s : Session σ) (attempt : Bool → Act (World σ) Failure α) : Prop :=
  ∀ isRetry, s.TakesTime (attempt isRetry)

variable {s : Session σ} {recovery : Recovery} {attempt : Bool → Act (World σ) Failure α}

theorem KeepsTime.probe (keeps : s.KeepsTime) (recovery : Recovery) :
    s.TakesTime (s.probe recovery) := by
  intro w
  cases recovery with
  | byWriting =>
      have run := s.run_waitForMajority w
      exact ⟨⟨_, _, run⟩, (Act.ends_iff_of_run run).mpr (keeps.ran _ _ _)⟩
  | byAsking =>
      have run := s.run_perform "admin" [("isMaster", .int32 1)] w
      exact ⟨⟨_, _, run⟩, (Act.ends_iff_of_run run).mpr (keeps.ran _ _ _)⟩

/-- How the time at which a deed began is related to that at which it ended. -/
def Lasts (s : Session σ) (began ended : Span) : Deed α → Prop
  | .paused span => span = s.policy.recoverSleep → began + span ≤ ended
  | .attempted _ went => began ≤ ended ∧ went.ended = ended
  | .probed went => began ≤ ended ∧ went.ended = ended

/-- The first deed of several lasts until the others begin. -/
theorem Does.exists_lasts {w t : World σ} {deed : Deed α} {later : List (Deed α)}
    (keeps : s.KeepsTime) (timely : s.Timely attempt)
    (does : s.Does recovery attempt w (deed :: later) t) :
    ∃ u, s.Lasts (s.destination.now w.outside) (s.destination.now u.outside) deed ∧
      s.Does recovery attempt u later t := by
  generalize whole : deed :: later = deeds at does
  induction does with
  | nothing => cases whole
  | aside _ _ inductionHypothesis => exact inductionHypothesis whole
  | @attempted w u t deeds isRetry outcome ended rest =>
      cases whole
      exact ⟨u, ⟨(timely isRetry (w.record (.attempted isRetry))).2 _ _ ended, rfl⟩, rest⟩
  | @paused w u t deeds span slept rest =>
      cases whole
      cases slept
      exact ⟨_, fun same => same ▸ keeps.paused w.outside, rest⟩
  | @probed w u t deeds outcome ended rest =>
      cases whole
      exact ⟨u, ⟨(keeps.probe recovery w).2 _ _ ended, rfl⟩, rest⟩

/-- Without deeds the destination is left alone. -/
theorem Does.outside_eq {w t : World σ} (does : s.Does recovery attempt w [] t) :
    t.outside = w.outside := by
  generalize whole : ([] : List (Deed α)) = deeds at does
  induction does with
  | nothing => rfl
  | aside _ _ inductionHypothesis => exact inductionHypothesis whole
  | attempted | paused | probed => cases whole

/-- What ends so many pauses after a moment ends one more after a moment a pause before. -/
theorem add_pauses_le {began rested ended pause count : Nat} (one : began + pause ≤ rested)
    (others : rested + count * pause ≤ ended) : began + (count + 1) * pause ≤ ended := by
  rw [Nat.succ_mul]
  omega

/-- In a recovery a pause lies before each probe. -/
theorem Does.recovery_keeps_pace (keeps : s.KeepsTime) (timely : s.Timely attempt)
    {probes : List (Try Unit)} : ∀ {w t : World σ} {later : List (Deed α)},
      s.Does recovery attempt w (recoveryDeeds s.policy.recoverSleep probes ++ later) t →
        (∀ (k : Nat) probe, probes[k]? = some probe →
          s.destination.now w.outside + (k + 1) * s.policy.recoverSleep ≤ probe.ended) ∧
        ∃ u, s.destination.now w.outside + probes.length * s.policy.recoverSleep ≤
            s.destination.now u.outside ∧
          s.Does recovery attempt u later t := by
  induction probes with
  | nil =>
      intro w t later does
      refine ⟨fun k probe found => (by cases found), w, ?_, does⟩
      rw [List.length_nil, Nat.zero_mul, Nat.add_zero]
  | cons probe rest inductionHypothesis =>
      intro w t later does
      obtain ⟨v, rested, does⟩ := does.exists_lasts keeps timely
      obtain ⟨u, ⟨asked, ended⟩, does⟩ := does.exists_lasts keeps timely
      obtain ⟨others, z, long, does⟩ := inductionHypothesis does
      have began := Nat.le_trans (rested rfl) asked
      constructor
      · intro k found known
        cases k with
        | zero =>
            cases known
            rw [Nat.zero_add, Nat.one_mul, ended]
            exact began
        | succ k =>
            exact add_pauses_le began (others k found known)
      · exact ⟨z, add_pauses_le began long, does⟩

/-- After a failure, each recovery takes a pause at least, and each of its probes one. -/
theorem Does.later_keeps_pace (keeps : s.KeepsTime) (timely : s.Timely attempt)
    {lost : Option (List (Try Unit))} {renewals : List (Renewal α)} :
    ∀ {w t : World σ}, (∀ r ∈ renewals, r.probes ≠ []) →
      s.Does recovery attempt w (laterDeeds s.policy.recoverSleep renewals lost) t →
        (∀ (k : Nat) r, renewals[k]? = some r →
          s.destination.now w.outside + (k + 1) * s.policy.recoverSleep ≤ r.attempt.ended) ∧
        ∀ probes ∈ renewals.map Renewal.probes ++ lost.toList, ∀ (k : Nat) probe,
          probes[k]? = some probe →
            s.destination.now w.outside + (k + 1) * s.policy.recoverSleep ≤ probe.ended := by
  induction renewals with
  | nil =>
      intro w t _ does
      refine ⟨fun k r found => (by cases found), ?_⟩
      intro probes member
      obtain rfl : lost = some probes := Option.mem_toList.mp member
      have deeds : laterDeeds s.policy.recoverSleep ([] : List (Renewal α)) (some probes) =
          recoveryDeeds s.policy.recoverSleep probes ++ [] := (List.append_nil _).symm
      rw [deeds] at does
      exact (does.recovery_keeps_pace keeps timely).1
  | cons r rest inductionHypothesis =>
      intro w t filled does
      obtain ⟨some, others⟩ := List.forall_mem_cons.mp filled
      rw [laterDeeds_cons, List.append_assoc] at does
      obtain ⟨own, v, rested, does⟩ := does.recovery_keeps_pace keeps timely
      obtain ⟨u, ⟨attempted, ended⟩, does⟩ := does.exists_lasts keeps timely
      obtain ⟨retries, probes⟩ := inductionHypothesis others does
      have long : s.destination.now w.outside + s.policy.recoverSleep ≤
          s.destination.now u.outside :=
        calc s.destination.now w.outside + s.policy.recoverSleep
          _ ≤ s.destination.now w.outside + r.probes.length * s.policy.recoverSleep :=
            Nat.add_le_add_left (Nat.le_mul_of_pos_left _ (List.length_pos_of_ne_nil some)) _
          _ ≤ s.destination.now v.outside := rested
          _ ≤ s.destination.now u.outside := attempted
      constructor
      · intro k found known
        cases k with
        | zero =>
            cases known
            rw [Nat.zero_add, Nat.one_mul, ended]
            exact long
        | succ k => exact add_pauses_le long (retries k found known)
      · refine List.forall_mem_cons.mpr ⟨own, fun asked member k probe found => ?_⟩
        have passed := probes asked member k probe found
        exact Nat.le_trans (Nat.add_le_add_right (Nat.le_of_add_right_le long) _) passed

/-- An account that is what a session did keeps pace with the clock. -/
theorem Does.keepsPace (keeps : s.KeepsTime) (timely : s.Timely attempt) {a : Account α}
    {w t : World σ} (filled : ∀ r ∈ a.renewals, r.probes ≠ [])
    (does : s.Does recovery attempt w (a.deeds s.policy.recoverSleep) t) :
    a.KeepsPace s.policy.recoverSleep := by
  obtain ⟨u, ⟨_, ended⟩, does⟩ := does.exists_lasts keeps timely
  obtain ⟨retries, probes⟩ := does.later_keeps_pace keeps timely filled
  rw [← ended] at retries probes
  refine ⟨?_, probes⟩
  intro k went found
  cases k with
  | zero =>
      cases found
      rw [Nat.zero_mul, Nat.add_zero]
  | succ k =>
      rw [Account.attempts, List.getElem?_cons_succ, List.getElem?_map,
        Option.map_eq_some_iff] at found
      obtain ⟨r, known, rfl⟩ := found
      exact retries k r known

/-! ## Repetitions come to an end -/

theorem run_sleep {ε : Type} (s : Session σ) (span : Span) (w : World σ) :
    (s.sleep span : Act (World σ) ε Unit).run w = some (.ok (), World.record (.slept span)
      { w with outside := s.destination.pause w.outside span }) :=
  rfl

theorem run_now {ε : Type} (s : Session σ) (w : World σ) :
    (s.now : Act (World σ) ε Span).run w = some (.ok (s.destination.now w.outside), w) :=
  rfl

theorem run_elapsedSince {ε : Type} (s : Session σ) (start : Span) (w : World σ) :
    (s.elapsedSince start : Act (World σ) ε Span).run w =
      some (.ok (s.destination.now w.outside - start), w) :=
  rfl

theorem run_note {ε : Type} (event : Event) (w : World σ) :
    (note event : Act (World σ) ε Unit).run w = some (.ok (), w.record event) :=
  rfl

/-- A recovery halts if it is given as many rounds as it may need. -/
theorem probing_halts (keeps : s.KeepsTime) (pausing : 0 < s.policy.recoverSleep)
    {start : Span} (patience : Nat) : ∀ {probes : Nat} {w : World σ},
      start + probes * s.policy.recoverSleep ≤ s.destination.now w.outside →
      probes < s.policy.enoughProbes → s.policy.enoughProbes ≤ probes + patience →
        (s.probing recovery start patience probes).Halts w := by
  induction patience with
  | zero =>
      intro probes w _ few enough
      exact absurd few (Nat.not_lt.mpr enough)
  | succ patience inductionHypothesis =>
      intro probes w passed few enough
      rw [probing, Act.halts_bind_of_run (s.run_sleep _ w), Act.halts_bind, Act.halts_outcome,
        Act.ends_outcome]
      obtain ⟨halts, ends⟩ := keeps.probe recovery
        (World.record (.slept s.policy.recoverSleep)
          { w with outside := s.destination.pause w.outside s.policy.recoverSleep })
      refine ⟨halts, ends.mono ?_⟩
      rintro (failure | ⟨⟩) u asked
      · have long : start + (probes + 1) * s.policy.recoverSleep ≤
            s.destination.now u.outside := by
          rw [Nat.succ_mul, ← Nat.add_assoc]
          exact Nat.le_trans (Nat.add_le_add_right passed _)
            (Nat.le_trans (keeps.paused w.outside) asked)
        dsimp only
        rw [Act.halts_bind_of_run (s.run_elapsedSince start u),
          Act.halts_bind_of_run (run_note _ u)]
        split
        · next goesOn =>
          have unmet := (judgeProbe_eq_stillFailing_iff.mp goesOn).2
          have below := Retry.Policy.lt_enoughProbes pausing (Nat.le_sub_of_add_le' long) unmet
          exact inductionHypothesis long below (by omega)
        · exact Act.halts_fail _
      · exact ⟨_, _, run_note _ u⟩

theorem recover_halts (keeps : s.KeepsTime) (pausing : 0 < s.policy.recoverSleep)
    (patient : s.policy.enoughProbes ≤ s.patience) {start : Span} {w : World σ}
    (began : start ≤ s.destination.now w.outside) : (s.recover recovery start).Halts w := by
  refine probing_halts keeps pausing s.patience ?_ Retry.Policy.enoughProbes_pos ?_
  · rwa [Nat.zero_mul, Nat.add_zero]
  · rwa [Nat.zero_add]

/-- A recovery that succeeds has taken a pause. -/
theorem recover_takes_pause (keeps : s.KeepsTime) (timely : s.Timely attempt) {start : Span}
    {w : World σ} : (s.recover recovery start).Ends w fun result t => result = .ok () →
      s.destination.now w.outside + s.policy.recoverSleep ≤ s.destination.now t.outside := by
  refine (s.probing_does recovery attempt start s.patience).mono ?_
  rintro _ t ⟨probes, does, probed⟩ rfl
  obtain ⟨failed, final, rfl, _⟩ := probed
  rw [← List.append_nil (recoveryDeeds _ _)] at does
  obtain ⟨_, u, long, does⟩ := does.recovery_keeps_pace keeps timely
  rw [does.outside_eq]
  refine Nat.le_trans (Nat.add_le_add_left (Nat.le_mul_of_pos_left _ ?_) _) long
  rw [List.length_append]
  exact Nat.succ_pos _

theorem attemptOnce_halts (timely : s.Timely attempt) (isRetry : Bool) :
    s.TakesTime (attemptOnce attempt isRetry) := by
  intro w
  obtain ⟨halts, ends⟩ := timely isRetry (w.record (.attempted isRetry))
  constructor
  · rw [attemptOnce, Act.halts_bind_of_run (run_note _ w), Act.halts_outcome]
    exact halts
  · rw [attemptOnce, Act.ends_bind, ends_note, Act.ends_outcome]
    exact ends

/-- What follows a failed attempt halts if it is given as many rounds as it may need. -/
theorem afterFailure_halts (keeps : s.KeepsTime) (timely : s.Timely attempt)
    (pausing : 0 < s.policy.recoverSleep) (patient : s.policy.enoughProbes ≤ s.patience)
    {operation : String} {start : Span} (patience : Nat) :
    ∀ {retries : Nat} {failure : Failure} {w : World σ},
      start + retries * s.policy.recoverSleep ≤ s.destination.now w.outside →
      s.policy.enoughRetries < retries + patience → retries ≤ s.policy.enoughRetries →
        (s.afterFailure recovery operation attempt start patience retries failure).Halts w := by
  induction patience with
  | zero =>
      intro retries failure w _ enough few
      exact absurd few (Nat.not_le.mpr enough)
  | succ patience inductionHypothesis =>
      intro retries failure w passed enough few
      rw [afterFailure]
      split
      · exact Act.halts_fail _
      rw [Act.halts_bind_of_run (s.run_elapsedSince start w)]
      split
      · rw [Act.halts_bind_of_run (run_note _ w)]
        exact Act.halts_fail _
      next unmet =>
      rw [Bool.not_eq_true] at unmet
      have below := Retry.Policy.lt_enoughRetries pausing (Nat.le_sub_of_add_le' passed) unmet
      rw [Act.halts_bind_of_run (run_note _ w), Act.halts_bind]
      refine ⟨recover_halts keeps pausing patient (Nat.le_of_add_right_le passed), ?_⟩
      refine (recover_takes_pause keeps timely).mono ?_
      rintro (fault | ⟨⟩) t rested
      · trivial
      rw [Act.halts_bind]
      obtain ⟨halts, ends⟩ := attemptOnce_halts timely true t
      refine ⟨halts, ends.mono ?_⟩
      rintro (fault | failure | value) u attempted
      · trivial
      · have long : start + (retries + 1) * s.policy.recoverSleep ≤
            s.destination.now u.outside := by
          rw [Nat.succ_mul, ← Nat.add_assoc]
          exact Nat.le_trans (Nat.add_le_add_right passed _)
            (Nat.le_trans (rested rfl) attempted)
        exact inductionHypothesis long (by omega) below
      · exact Act.halts_pure value

/-- A repetition halts if it is given as many rounds as it may need. -/
theorem retrying_halts (keeps : s.KeepsTime) (timely : s.Timely attempt)
    (pausing : 0 < s.policy.recoverSleep)
    (patient : max (s.policy.enoughRetries + 1) s.policy.enoughProbes ≤ s.patience)
    (recovery : Recovery) (operation : String) (w : World σ) :
    (s.retrying recovery operation attempt).Halts w := by
  obtain ⟨retries, probes⟩ := max_le_iff.mp patient
  obtain ⟨halts, _⟩ := attemptOnce_halts timely false w
  rw [retrying, Act.halts_bind]
  refine ⟨halts, ?_⟩
  rintro (fault | failure | value) t _
  · trivial
  · dsimp only
    rw [Act.halts_bind_of_run (s.run_now t)]
    refine afterFailure_halts keeps timely pausing probes s.patience ?_ ?_ (Nat.zero_le _)
    · rw [Nat.zero_mul, Nat.add_zero]
    · rw [Nat.zero_add]
      exact retries
  · exact Act.halts_pure value

/-! ## More patience changes nothing -/

/-- The session with another patience. -/
def withPatience (s : Session σ) (patience : Nat) : Session σ :=
  { s with patience }

@[simp] theorem policy_withPatience (s : Session σ) (patience : Nat) :
    (s.withPatience patience).policy = s.policy :=
  rfl

theorem probing_withPatience (s : Session σ) (recovery : Recovery) (start : Span)
    (more patience : Nat) : ∀ {probes : Nat},
      (s.withPatience more).probing recovery start patience probes =
        s.probing recovery start patience probes := by
  induction patience with
  | zero =>
      intro probes
      rfl
  | succ patience inductionHypothesis =>
      intro probes
      rw [probing, probing, inductionHypothesis]
      rfl

theorem probing_approximates (s : Session σ) (recovery : Recovery) (start : Span)
    (patience : Nat) : ∀ {more probes : Nat}, patience ≤ more →
      (s.probing recovery start patience probes).Approximates
        (s.probing recovery start more probes) := by
  induction patience with
  | zero =>
      intro more probes _
      exact Act.approximates_of_outlasted _
  | succ patience inductionHypothesis =>
      intro more probes less
      obtain ⟨more, rfl⟩ := Nat.exists_eq_add_of_lt less
      rw [probing, probing]
      refine .bind_same fun _ => .bind_same fun outcome => ?_
      cases outcome with
      | ok => exact .refl _
      | error failure =>
          refine .bind_same fun elapsed => .bind_same fun _ => ?_
          split
          · exact inductionHypothesis (Nat.le_add_right _ _)
          · exact .refl _

theorem afterFailure_approximates (s : Session σ) (recovery : Recovery) (operation : String)
    (attempt : Bool → Act (World σ) Failure α) (start : Span) {patient : Nat}
    (less : s.patience ≤ patient) (patience : Nat) :
    ∀ {more retries : Nat} {failure : Failure}, patience ≤ more →
      (s.afterFailure recovery operation attempt start patience retries failure).Approximates
        ((s.withPatience patient).afterFailure recovery operation attempt start more retries
          failure) := by
  have recovers :
      (s.recover recovery start).Approximates ((s.withPatience patient).recover recovery start) := by
    rw [recover, recover, probing_withPatience]
    exact s.probing_approximates recovery start s.patience less
  induction patience with
  | zero =>
      intro more retries failure _
      exact Act.approximates_of_outlasted _
  | succ patience inductionHypothesis =>
      intro more retries failure fewer
      obtain ⟨more, rfl⟩ := Nat.exists_eq_add_of_lt fewer
      rw [afterFailure, afterFailure]
      split
      · exact .refl _
      refine .bind_same fun elapsed => ?_
      rw [policy_withPatience]
      split
      · exact .refl _
      refine .bind_same fun _ => .bind recovers fun _ => .bind_same fun outcome => ?_
      cases outcome with
      | ok => exact .refl _
      | error next => exact inductionHypothesis (Nat.le_add_right _ _)

/-- A repetition that comes to an end comes to the same one with more patience. -/
theorem retrying_approximates (s : Session σ) (recovery : Recovery) (operation : String)
    (attempt : Bool → Act (World σ) Failure α) {patient : Nat} (less : s.patience ≤ patient) :
    (s.retrying recovery operation attempt).Approximates
      ((s.withPatience patient).retrying recovery operation attempt) := by
  rw [retrying, retrying]
  refine .bind_same fun outcome => ?_
  cases outcome with
  | ok => exact .refl _
  | error failure =>
      refine .bind_same fun start => ?_
      exact s.afterFailure_approximates recovery operation attempt start less s.patience less

/-! ## The bounds -/

/-- A repetition comes to an end, however long it keeps failing, if pauses take time and
attempts and commands do not take forever.  It makes at most one attempt more than there are
retries to one floor or pauses to the other, and the probes of each of its recoveries are
bounded in the same way.

A patience that allows for so many rounds is enough, and any other that is enough leads to
the same end. -/
theorem retrying_is_bounded (keeps : s.KeepsTime) (timely : s.Timely attempt)
    (pausing : 0 < s.policy.recoverSleep)
    (patient : max (s.policy.enoughRetries + 1) s.policy.enoughProbes ≤ s.patience)
    (recovery : Recovery) (operation : String) (w : World σ) :
    ∃ result t, ∃ account : Account α,
      (∀ patience, s.patience ≤ patience →
        ((s.withPatience patience).retrying recovery operation attempt).run w =
          some (result, t)) ∧
      s.Does recovery attempt w (account.deeds s.policy.recoverSleep) t ∧
      account.ComesTo s.settings.destinationName s.policy result ∧
      account.attempts.length ≤
        max s.policy.minAttempts (s.policy.minDuration ⌈/⌉ s.policy.recoverSleep) + 1 ∧
      ∀ probes ∈ account.recoveries, probes.length ≤
        max (max s.policy.minReconnectAttempts
          (s.policy.minDuration ⌈/⌉ s.policy.recoverSleep)) 1 := by
  obtain ⟨result, t, ended⟩ := retrying_halts keeps timely pausing patient recovery operation w
  obtain ⟨account, does, orderly, comesTo⟩ := retrying_keeps_protocol ended
  have filled : ∀ r ∈ account.renewals, r.probes ≠ [] := by
    intro r among
    obtain ⟨failed, final, whole, _⟩ := orderly.recovered r among
    rw [whole]
    exact List.concat_ne_nil _ _
  have paced := does.keepsPace keeps timely filled
  refine ⟨result, t, account, fun patience less => ?_, does, comesTo,
    paced.length_attempts_le orderly pausing,
    fun probes member => paced.length_probes_le orderly pausing member⟩
  exact s.retrying_approximates recovery operation attempt less w _ ended

end Session

/-! ## A bound that is reached -/

theorem hasty_keepsTime : hasty.KeepsTime where
  ran := by
    rintro ⟨now, _ | ⟨_ | _, later⟩⟩ database command <;> exact Nat.le_refl now
  paused := fun _ => Nat.le_refl _

theorem hasty_timely_ping : hasty.Timely ping := by
  intro isRetry w
  have run := hasty.run_perform "admin" [("ping", .int32 1)] w
  exact ⟨⟨_, _, run⟩, (Act.ends_iff_of_run run).mpr (hasty_keepsTime.ran _ _ _)⟩

/-- One retry would be enough for the count, but two pauses are needed for the time: an
operation that always fails, on a destination that is well for the probes, is attempted
three times. -/
theorem hasty_attempts_three_times :
    ∃ t, ∃ account : Account Unit,
      (hasty.retryingWrite "ping" ping).run ⟨(0, [false, true, false, true, false]), []⟩ =
        some (.error (.retriesExhausted 3 (Span.ofMilliseconds 20) notPrimary), t) ∧
      account.attempts.length = 3 ∧ account.attempts.length ≤ hasty.policy.enoughRetries + 1 ∧
        ∀ probes ∈ account.recoveries, probes.length ≤ 2 := by
  obtain ⟨t, failed⟩ : ∃ t,
      (hasty.retryingWrite "ping" ping).run ⟨(0, [false, true, false, true, false]), []⟩ =
        some (.error (.retriesExhausted 3 (Span.ofMilliseconds 20) notPrimary), t) :=
    ⟨_, rfl⟩
  obtain ⟨result, t', account, ended, _, comesTo, attempts, probes⟩ :=
    Session.retrying_is_bounded hasty_keepsTime hasty_timely_ping (by decide) (by decide)
      .byWriting "ping" ⟨(0, [false, true, false, true, false]), []⟩
  cases failed.symm.trans (ended hasty.patience (Nat.le_refl _))
  obtain ⟨_, counted, _⟩ := (comesTo.retriesExhausted_iff _ _ _).mp rfl
  exact ⟨t, account, failed, counted.symm, attempts, probes⟩

end LogReplay
