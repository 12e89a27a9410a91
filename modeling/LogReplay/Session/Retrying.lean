/-
Module: LogReplay.Session.Retrying
Purpose: Repeating what failed for a passing reason, after the session has been
  recovered.
Main exports:
  Recovery, Session.recover, Session.retrying
-/
import LogReplay.Session

/-!
A failure that is worth a retry leaves open whether the command took effect.
Before the next attempt the session is recovered: after a pause, a probe is sent,
again and again until one succeeds.  For operations that write, the probe is an
entry that does nothing, applied by a majority; the next attempt then sees
whatever an earlier one has achieved.

Two things end the repetition other than success: a failure of another kind, and
exhausted patience.  The time is counted from the first failure, for the attempts
and for the probes of all recoveries alike.
-/

namespace LogReplay

/-- How a session is probed. -/
inductive Recovery where
  /-- By writing an entry that does nothing. -/
  | byWriting
  /-- By asking a question. -/
  | byAsking
deriving DecidableEq, Repr

namespace Session

variable {σ α : Type}

/-- Sends one probe. -/
def probe (s : Session σ) (recovery : Recovery) : Act (World σ) Failure Unit :=
  match recovery with
  | .byWriting => s.waitForMajority
  | .byAsking => s.perform "admin" [("isMaster", .int32 1)]

/-- What a failed probe leads to, as the latest of so many. -/
def judgeProbe (s : Session σ) (failure : Failure) (probes : Nat) (elapsed : Span) : Probe :=
  if !failure.isReconnectable then .hopeless
  else if s.policy.reconnectExhausted probes elapsed then .exhausted
  else .stillFailing

/-- Probes after so many failed ones, for as many rounds as there is patience. -/
def probing (s : Session σ) (recovery : Recovery) (start : Span) :
    (patience : Nat) → (probes : Nat) → Act (World σ) Fault Unit
  | 0, _ => Act.outlasted
  | patience + 1, probes => do
      s.sleep s.policy.recoverSleep
      match ← (s.probe recovery).outcome with
      | .ok () => note (.probed .recovered)
      | .error failure =>
          let elapsed ← s.elapsedSince start
          let verdict := s.judgeProbe failure (probes + 1) elapsed
          note (.probed verdict)
          if verdict = .stillFailing then probing s recovery start patience (probes + 1)
          else
            Act.fail
              (.reconnectFailed s.settings.destinationName (probes + 1) elapsed failure)

/-- Waits until the session is usable again; patience is measured from `start`. -/
def recover (s : Session σ) (recovery : Recovery) (start : Span) : Act (World σ) Fault Unit :=
  s.probing recovery start s.patience 0

/-- One attempt, told whether it is a retry, and what it came to. -/
def attemptOnce (attempt : Bool → Act (World σ) Failure α) (isRetry : Bool) :
    Act (World σ) Fault (Except Failure α) := do
  note (.attempted isRetry)
  (attempt isRetry).outcome

/-- What follows a failed attempt after so many retries. -/
def afterFailure (s : Session σ) (recovery : Recovery) (operation : String)
    (attempt : Bool → Act (World σ) Failure α) (start : Span) :
    (patience : Nat) → (retries : Nat) → Failure → Act (World σ) Fault α
  | 0, _, _ => Act.outlasted
  | patience + 1, retries, failure =>
      if !failure.isReconnectable then Act.fail (.command failure)
      else do
        let elapsed ← s.elapsedSince start
        if s.policy.commandExhausted retries elapsed then
          note (.gaveUp operation elapsed)
          Act.fail (.retriesExhausted (retries + 1) elapsed failure)
        else
          note (.retrying s.settings.destinationName operation failure.isNetwork)
          s.recover recovery start
          match ← attemptOnce attempt true with
          | .ok value => pure value
          | .error failure =>
              afterFailure s recovery operation attempt start patience (retries + 1) failure

/-- Attempts an operation until it succeeds, fails for good, or patience is
exhausted. -/
def retrying (s : Session σ) (recovery : Recovery) (operation : String)
    (attempt : Bool → Act (World σ) Failure α) : Act (World σ) Fault α := do
  match ← attemptOnce attempt false with
  | .ok value => pure value
  | .error failure =>
      let start ← s.now
      s.afterFailure recovery operation attempt start s.patience 0 failure

/-- Attempts an operation that writes. -/
def retryingWrite (s : Session σ) (operation : String)
    (attempt : Bool → Act (World σ) Failure α) : Act (World σ) Fault α :=
  s.retrying .byWriting operation attempt

/-- Attempts an operation that only reads. -/
def retryingRead (s : Session σ) (operation : String)
    (attempt : Bool → Act (World σ) Failure α) : Act (World σ) Fault α :=
  s.retrying .byAsking operation attempt

end Session

end LogReplay
