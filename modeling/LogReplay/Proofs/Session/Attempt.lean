/-
Module: LogReplay.Proofs.Session.Attempt
Purpose: What a single attempt sends, what it comes to, and what it notes.
Main exports:
  Session.answer, Session.batchAnswer, Session.run_sendBatch, Session.run_attemptBatch
-/
import LogReplay.Session.Writing

/-!
A single command always ends: with the lifted reply, or with a failure.  So each
attempt has one equation that says what it comes to and which events it adds.
-/

namespace LogReplay.Session

open Bson

variable {σ : Type} (s : Session σ)

/-- What a command comes to. -/
def answer (o : σ) (database : String) (command : Document) : Except Failure Document :=
  (s.destination.run o database command).1.bind Reply.lift

/-- The world after a command. -/
def heard (w : World σ) (database : String) (command : Document) : World σ where
  outside := (s.destination.run w.outside database command).2
  trace := w.trace ++ [.commanded database command (s.answer w.outside database command)]

/-- What a batch comes to. -/
def batchAnswer (o : σ) (command : Document) : Except Failure ApplyOpsReply :=
  (s.answer o "admin" command).bind ApplyOpsReply.ofDocument

theorem run_send (database : String) (command : Document) (w : World σ) :
    (s.send database command).run w =
      some (s.answer w.outside database command, s.heard w database command) :=
  rfl

theorem run_perform (database : String) (command : Document) (w : World σ) :
    (s.perform database command).run w =
      some ((s.answer w.outside database command).map fun _ => (),
        s.heard w database command) := by
  rw [perform, Act.run_bind, run_send]
  cases s.answer w.outside database command <;> rfl

theorem run_sendBatch (entries : List Document) (bypass : Bool) (w : World σ) :
    (s.sendBatch entries bypass).run w =
      some (s.batchAnswer w.outside (s.batchCommand entries bypass),
        s.heard w "admin" (s.batchCommand entries bypass)) := by
  rw [sendBatch, Act.run_bind, run_send, batchAnswer]
  cases s.answer w.outside "admin" (s.batchCommand entries bypass) <;> rfl

/-- The command that probes a session by writing. -/
def probeCommand : Document :=
  s.batchCommand [s.noop] true

theorem run_waitForMajority (w : World σ) :
    s.waitForMajority.run w =
      some ((s.batchAnswer w.outside s.probeCommand).map fun _ => (),
        s.heard w "admin" s.probeCommand) := by
  rw [waitForMajority, Act.run_bind, run_sendBatch, probeCommand]
  cases s.batchAnswer w.outside (s.batchCommand [s.noop] true) <;> rfl

/-- An attempt at a batch sends one command, and notes how it went. -/
theorem run_attemptBatch (entries : List Document) (bypass : Bool) (w : World σ) :
    let command := s.batchCommand entries bypass
    let result := s.batchAnswer w.outside command
    let after := s.heard w "admin" command
    (s.attemptBatch entries bypass).run w =
      some (result, after.record (.batchAttempted entries result.isOk
        (s.destination.now after.outside - s.destination.now w.outside))) := by
  intro command result after
  have began : (s.now : Act (World σ) Failure Span).run w =
      some (.ok (s.destination.now w.outside), w) := rfl
  have sent : ((s.sendBatch entries bypass).outcome : Act (World σ) Failure _).run w =
      some (.ok result, after) := by
    rw [Act.run_outcome, run_sendBatch]
    rfl
  rw [attemptBatch, Act.run_bind_ok began, Act.run_bind_ok sent]
  cases result <;> rfl

end LogReplay.Session
