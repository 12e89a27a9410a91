/-
Module: LogReplay.Proofs.Session.Transient
Purpose: A batch is applied if every failure on the way passes soon enough.
Main exports:
  Attempts, Session.Recovers, Session.Serves, Session.exists_run_applyBatch
-/
import LogReplay.Proofs.Session.Acknowledged

/-!
The floors of patience count failures, and both counts are off by one from the number of
attempts: a batch may fail as often as there are attempts to be made at least, and a
recovery one time fewer than there are probes.  Time does not matter as long as a count
stays below its floor, since patience is exhausted only when both are reached.

`Serves` and `Recovers` follow a destination through the attempts at one batch and the
probes in between.  Within these bounds the batch is applied, and all that the
destination has seen of it are equal commands with probes between them.
-/

namespace LogReplay

open Bson (Document)

/-- The commands that are sent for one batch: the same at each attempt, and at least one
probe between two attempts. -/
inductive Attempts (probe command : Document) : List (String × Document) → Prop where
  | once : Attempts probe command [("admin", command)]
  | again {rest : List (String × Document)} (probes : Nat)
      (later : Attempts probe command rest) :
      Attempts probe command
        (("admin", command) :: (List.replicate (probes + 1) ("admin", probe) ++ rest))

/-- From one world to another, these commands were sent, and the destination has come to
this state. -/
structure Leads {σ : Type} (w : World σ) (o : σ) (sent : List (String × Document))
    (t : World σ) : Prop where
  outside : t.outside = o
  commands : World.commands t.trace = World.commands w.trace ++ sent

namespace Leads

variable {σ : Type} {w t u : World σ} {o o' : σ} {sent later : List (String × Document)}

theorem trans (one : Leads w o sent t) (two : Leads t o' later u) :
    Leads w o' (sent ++ later) u where
  outside := two.outside
  commands := by rw [two.commands, one.commands, List.append_assoc]

/-- Only commands are read off a trace. -/
theorem record {event : Event} (silent : World.commands [event] = []) (leads : Leads w o sent t) :
    Leads w o sent (t.record event) where
  outside := leads.outside
  commands := by
    rw [World.trace_record, World.commands, List.filterMap_append, ← World.commands,
      ← World.commands, silent, List.append_nil, leads.commands]

theorem refl (w : World σ) : Leads w w.outside [] w :=
  ⟨rfl, (List.append_nil _).symm⟩

end Leads

namespace Session

variable {σ : Type} (s : Session σ)

/-- The state of the destination after a command. -/
def next (o : σ) (command : Document) : σ :=
  (s.destination.run o "admin" command).2

/-- The state of the destination after the pause before a probe. -/
def rested (o : σ) : σ :=
  s.destination.pause o s.policy.recoverSleep

/-- The command fails, for a reason that passes. -/
def FailsFor (failure : Failure) (o : σ) (command : Document) : Prop :=
  s.answer o "admin" command = .error failure ∧ failure.isReconnectable = true

/-- From one state to another a recovery succeeds, after so many failed probes at the
most. -/
inductive Recovers : Nat → σ → σ → Prop where
  | awake {failures : Nat} {o : σ} {reply : ApplyOpsReply}
      (answered : s.batchAnswer (s.rested o) s.probeCommand = .ok reply) :
      Recovers failures o (s.next (s.rested o) s.probeCommand)
  | asleep {failures : Nat} {o o' : σ} {failure : Failure}
      (failed : s.FailsFor failure (s.rested o) s.probeCommand)
      (later : Recovers failures (s.next (s.rested o) s.probeCommand) o') :
      Recovers (failures + 1) o o'

/-- The most probes that may fail within a recovery. -/
def probeFailures : Nat :=
  max s.policy.minReconnectAttempts 1 - 1

/-- From one state to another the attempts at a command succeed, after so many failed
ones at the most, each of them with a recovery after it. -/
inductive Serves (command : Document) : Nat → σ → σ → Prop where
  | accepted {failures : Nat} {o : σ} {reply : ApplyOpsReply}
      (answered : s.batchAnswer o command = .ok reply) :
      Serves command failures o (s.next o command)
  | repeated {failures : Nat} {o o' o'' : σ} {failure : Failure}
      (failed : s.FailsFor failure o command)
      (recovered : s.Recovers s.probeFailures (s.next o command) o')
      (later : Serves command failures o' o'') : Serves command (failures + 1) o o''

/-- Wherever the destination is ready, it applies any batch after few enough failures, and
is ready again. -/
def IsSteady (ready : σ → Prop) : Prop :=
  ∀ o, ready o → ∀ entries ≠ [],
    ∃ o', s.Serves (s.command entries) s.policy.minAttempts o o' ∧ ready o'

/-- The loops of the session are given enough rounds to reach the floors. -/
def IsPatient : Prop :=
  s.policy.minAttempts ≤ s.patience ∧ s.probeFailures < s.patience

variable {s}

theorem FailsFor.batchAnswer {failure : Failure} {o : σ} {command : Document}
    (failed : s.FailsFor failure o command) : s.batchAnswer o command = .error failure := by
  rw [Session.batchAnswer, failed.1]
  rfl

theorem leads_heard (w : World σ) (command : Document) :
    Leads w (s.next w.outside command) [("admin", command)] (s.heard w "admin" command) where
  outside := rfl
  commands := by
    rw [heard, World.commands, List.filterMap_append]
    rfl

/-! ## Probes -/

/-- The world after a pause and a probe. -/
def afterProbe (s : Session σ) (w : World σ) : World σ :=
  s.heard
    (World.record (.slept s.policy.recoverSleep) { w with outside := s.rested w.outside })
    "admin" s.probeCommand

theorem leads_afterProbe (w : World σ) :
    Leads w (s.next (s.rested w.outside) s.probeCommand) [("admin", s.probeCommand)]
      (s.afterProbe w) := by
  have rested : Leads w (s.rested w.outside) []
      (World.record (.slept s.policy.recoverSleep) { w with outside := s.rested w.outside }) :=
    Leads.record rfl ⟨rfl, (List.append_nil _).symm⟩
  exact rested.trans (leads_heard _ s.probeCommand)

/-- Another probe is sent while the count of those that failed is below its floor. -/
theorem judgeProbe_eq {failure : Failure} (passing : failure.isReconnectable = true)
    {probes : Nat} (below : probes < s.policy.minReconnectAttempts) (elapsed : Span) :
    s.judgeProbe failure probes elapsed = .stillFailing := by
  have notYet : s.policy.reconnectExhausted probes elapsed = false := by
    rw [Retry.Policy.reconnectExhausted, decide_eq_false (Nat.not_le.mpr below),
      Bool.false_and]
  simp only [judgeProbe, passing, notYet, Bool.not_true, Bool.false_eq_true, if_false]

/-- One round of a recovery. -/
theorem run_probing (start : Span) (patience probes : Nat) (w : World σ) :
    (s.probing .byWriting start (patience + 1) probes).run w =
      match s.batchAnswer (s.rested w.outside) s.probeCommand with
      | .ok _ => some (.ok (), (s.afterProbe w).record (.probed .recovered))
      | .error failure =>
          let elapsed := s.destination.now (s.afterProbe w).outside - start
          let verdict := s.judgeProbe failure (probes + 1) elapsed
          let judged := (s.afterProbe w).record (.probed verdict)
          if verdict = .stillFailing then
            (s.probing .byWriting start patience (probes + 1)).run judged
          else
            some (.error (.reconnectFailed s.settings.destinationName (probes + 1) elapsed
              failure), judged) := by
  have slept : (s.sleep s.policy.recoverSleep : Act (World σ) Fault Unit).run w =
      some (.ok (), World.record (.slept s.policy.recoverSleep)
        { w with outside := s.rested w.outside }) := rfl
  have probed : ((s.probe .byWriting).outcome : Act (World σ) Fault _).run
      (World.record (.slept s.policy.recoverSleep) { w with outside := s.rested w.outside }) =
        some (.ok ((s.batchAnswer (s.rested w.outside) s.probeCommand).map fun _ => ()),
          s.afterProbe w) := by
    rw [Act.run_outcome, probe, run_waitForMajority]
    rfl
  rw [probing, Act.run_bind_ok slept, Act.run_bind_ok probed]
  cases s.batchAnswer (s.rested w.outside) s.probeCommand with
  | ok reply => rfl
  | error failure =>
      have elapsed : (s.elapsedSince start : Act (World σ) Fault Span).run (s.afterProbe w) =
          some (.ok (s.destination.now (s.afterProbe w).outside - start), s.afterProbe w) :=
        rfl
      dsimp only [Except.map]
      rw [Act.run_bind_ok elapsed]
      by_cases goesOn : s.judgeProbe failure (probes + 1)
          (s.destination.now (s.afterProbe w).outside - start) = .stillFailing
      · simp only [goesOn, if_true]
        rfl
      · simp only [goesOn, if_false]
        rfl

theorem exists_run_probing {start : Span} {failures : Nat} {o o' : σ}
    (recovers : s.Recovers failures o o') :
    ∀ {patience probes : Nat} {w : World σ}, w.outside = o → failures < patience →
      probes + failures < max s.policy.minReconnectAttempts 1 →
        ∃ t sent,
          (s.probing .byWriting start patience probes).run w = some (.ok (), t) ∧
            Leads w o' (List.replicate (sent + 1) ("admin", s.probeCommand)) t := by
  induction recovers with
  | @awake failures o reply answered =>
      rintro patience probes w rfl enough below
      obtain ⟨rounds, rfl⟩ := Nat.exists_eq_add_one.mpr (Nat.zero_lt_of_lt enough)
      refine ⟨(s.afterProbe w).record (.probed .recovered), 0, ?_, ?_⟩
      · rw [run_probing, answered]
      · exact (leads_afterProbe w).record rfl
  | @asleep failures o o' failure failed later inductionHypothesis =>
      rintro patience probes w rfl enough below
      obtain ⟨rounds, rfl⟩ := Nat.exists_eq_add_one.mpr (Nat.zero_lt_of_lt enough)
      have goesOn (elapsed : Span) :
          s.judgeProbe failure (probes + 1) elapsed = .stillFailing :=
        judgeProbe_eq failed.2 (by omega) elapsed
      let judged := (s.afterProbe w).record (.probed .stillFailing)
      have leads : Leads w (s.next (s.rested w.outside) s.probeCommand)
          [("admin", s.probeCommand)] judged := (leads_afterProbe w).record rfl
      obtain ⟨t, sent, run, rest⟩ := @inductionHypothesis rounds (probes + 1) judged rfl
        (Nat.lt_of_succ_lt_succ enough) (by omega)
      refine ⟨t, sent + 1, ?_, leads.trans rest⟩
      rw [run_probing, failed.batchAnswer]
      simp only [goesOn, if_true]
      exact run

/-- A recovery succeeds if few enough probes fail. -/
theorem exists_run_recover (start : Span) {o' : σ} {w : World σ} (patient : s.IsPatient)
    (recovers : s.Recovers s.probeFailures w.outside o') :
    ∃ t sent,
      (s.recover .byWriting start).run w = some (.ok (), t) ∧
        Leads w o' (List.replicate (sent + 1) ("admin", s.probeCommand)) t := by
  apply exists_run_probing recovers rfl patient.2
  rw [probeFailures]
  omega

/-! ## Attempts -/

/-- One attempt at a batch, and what it came to. -/
theorem exists_run_attemptOnce (s : Session σ) (entries : List Document) (bypass : Bool)
    (isRetry : Bool) (w : World σ) :
    ∃ t,
      (attemptOnce (fun _ => s.attemptBatch entries bypass) isRetry).run w =
          some (.ok (s.batchAnswer w.outside (s.batchCommand entries bypass)), t) ∧
        Leads w (s.next w.outside (s.batchCommand entries bypass))
          [("admin", s.batchCommand entries bypass)] t := by
  let began := w.record (.attempted isRetry)
  have noted : (note (.attempted isRetry) : Act (World σ) Fault Unit).run w =
      some (.ok (), began) := rfl
  have start : Leads w w.outside [] began := (Leads.refl w).record rfl
  refine ⟨?t, ?ran, ?leads⟩
  case ran =>
    rw [attemptOnce, Act.run_bind_ok noted, Act.run_outcome, run_attemptBatch]
    rfl
  case leads => exact (start.trans (leads_heard began _)).record rfl

variable {entries : List Document} {bypass : Bool}

/-- One round after a failed attempt that is worth a retry: a recovery, and another
attempt. -/
theorem exists_run_round {start : Span} {patience retries : Nat} {failure : Failure}
    {w : World σ} {o : σ} (patient : s.IsPatient) (passing : failure.isReconnectable = true)
    (recovers : s.Recovers s.probeFailures w.outside o)
    (below : retries < s.policy.minAttempts) :
    ∃ t probes,
      (s.afterFailure .byWriting "applyOps" (fun _ => s.attemptBatch entries bypass) start
          (patience + 1) retries failure).run w =
        (match s.batchAnswer o (s.batchCommand entries bypass) with
          | .ok reply => some (.ok reply, t)
          | .error failure =>
              (s.afterFailure .byWriting "applyOps" (fun _ => s.attemptBatch entries bypass)
                start patience (retries + 1) failure).run t) ∧
      Leads w (s.next o (s.batchCommand entries bypass))
        (List.replicate (probes + 1) ("admin", s.probeCommand) ++
          [("admin", s.batchCommand entries bypass)]) t := by
  let elapsed := s.destination.now w.outside - start
  let retried : Event := .retrying s.settings.destinationName "applyOps" failure.isNetwork
  have notYet : s.policy.commandExhausted retries elapsed = false := by
    rw [Retry.Policy.commandExhausted, decide_eq_false (Nat.not_le.mpr below), Bool.false_and]
  have timed : (s.elapsedSince start : Act (World σ) Fault Span).run w =
      some (.ok elapsed, w) := rfl
  have noted : (note retried : Act (World σ) Fault Unit).run w =
      some (.ok (), w.record retried) := rfl
  rw [← World.outside_record retried w] at recovers
  obtain ⟨t, probes, recovered, probed⟩ := exists_run_recover start patient recovers
  obtain ⟨u, attempted, sent⟩ := s.exists_run_attemptOnce entries bypass true t
  refine ⟨u, probes, ?_, ?_⟩
  · rw [afterFailure, passing, Bool.not_true, if_neg Bool.false_ne_true,
      Act.run_bind_ok timed, notYet, if_neg Bool.false_ne_true, Act.run_bind_ok noted,
      Act.run_bind_ok recovered, Act.run_bind_ok attempted, probed.outside]
    cases s.batchAnswer o (s.batchCommand entries bypass) <;> rfl
  · have start : Leads w w.outside [] (w.record retried) := (Leads.refl w).record rfl
    rw [probed.outside] at sent
    exact start.trans (probed.trans sent)

/-- Attempts go on after a failed one until one succeeds, if few enough fail. -/
theorem exists_run_afterFailure {start : Span} {failures : Nat} {o o' : σ}
    (patient : s.IsPatient) (serves : s.Serves (s.batchCommand entries bypass) failures o o') :
    ∀ {patience retries : Nat} {failure : Failure} {w : World σ},
      failure.isReconnectable = true → s.Recovers s.probeFailures w.outside o →
        failures < patience → retries + failures < s.policy.minAttempts →
          ∃ reply t probes rest,
            (s.afterFailure .byWriting "applyOps" (fun _ => s.attemptBatch entries bypass) start
                patience retries failure).run w = some (.ok reply, t) ∧
              Attempts s.probeCommand (s.batchCommand entries bypass) rest ∧
                Leads w o'
                  (List.replicate (probes + 1) ("admin", s.probeCommand) ++ rest) t := by
  induction serves with
  | @accepted failures o reply answered =>
      intro patience retries failure w passing recovers enough below
      obtain ⟨rounds, rfl⟩ := Nat.exists_eq_add_one.mpr (Nat.zero_lt_of_lt enough)
      obtain ⟨t, probes, run, leads⟩ :=
        exists_run_round patient passing recovers (Nat.lt_of_le_of_lt (Nat.le_add_right _ _) below)
      rw [answered] at run
      exact ⟨reply, t, probes, _, run, .once, leads⟩
  | @repeated failures o o' o'' failure failed recovered later inductionHypothesis =>
      intro patience retries former w passing recovers enough below
      obtain ⟨rounds, rfl⟩ := Nat.exists_eq_add_one.mpr (Nat.zero_lt_of_lt enough)
      obtain ⟨t, probes, run, leads⟩ :=
        exists_run_round patient passing recovers (Nat.lt_of_le_of_lt (Nat.le_add_right _ _) below)
      rw [failed.batchAnswer] at run
      rw [← leads.outside] at recovered
      obtain ⟨reply, u, more, rest, runRest, attempts, leadsRest⟩ :=
        @inductionHypothesis rounds (retries + 1) failure t failed.2 recovered
          (Nat.lt_of_succ_lt_succ enough) (by omega)
      refine ⟨reply, u, probes, _, run.trans runRest, .again more attempts, ?_⟩
      have whole := leads.trans leadsRest
      rw [List.append_assoc, List.singleton_append] at whole
      exact whole

/-- A batch is applied if few enough attempts at it fail, and few enough probes after
each of them. -/
theorem exists_run_applyBatch {o' : σ} {w : World σ} (patient : s.IsPatient)
    (nonempty : entries ≠ [])
    (serves : s.Serves (s.command entries) s.policy.minAttempts w.outside o') :
    ∃ reply t sent,
      (s.applyBatch entries).run w = some (.ok reply, t) ∧
        Attempts s.probeCommand (s.command entries) sent ∧ Leads w o' sent t := by
  have waiting : ¬ entries.isEmpty = true :=
    fun empty => nonempty (List.isEmpty_iff.mp empty)
  rw [applyBatch, applyBatchWith, if_neg waiting, retryingWrite, retrying]
  obtain ⟨t, attempted, leads⟩ :=
    s.exists_run_attemptOnce entries s.settings.bypassValidation false w
  rw [Act.run_bind_ok attempted]
  rw [command] at serves ⊢
  generalize budget : s.policy.minAttempts = attempts at serves
  cases serves with
  | @accepted _ _ reply answered =>
      rw [answered]
      exact ⟨reply, t, _, rfl, .once, leads⟩
  | @repeated failures _ o _ failure failed recovered later =>
      rw [failed.batchAnswer]
      have timed : (s.now : Act (World σ) Fault Span).run t =
          some (.ok (s.destination.now t.outside), t) := rfl
      rw [← leads.outside] at recovered
      have below : 0 + failures < s.policy.minAttempts := by omega
      have enough : failures < s.patience := by
        have rounds := patient.1
        omega
      obtain ⟨reply, u, probes, rest, run, attempts, leadsRest⟩ :=
        exists_run_afterFailure patient later failed.2 recovered enough below
      exact ⟨reply, u, _, (Act.run_bind_ok timed _).trans run, .again probes attempts,
        leads.trans leadsRest⟩

end Session

end LogReplay
