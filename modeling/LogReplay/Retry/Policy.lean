/-
Module: LogReplay.Retry.Policy
Purpose: For how long a transient failure is put up with.
Main exports:
  Policy, Policy.commandExhausted, Policy.reconnectExhausted
-/
import LogReplay.Span

/-!
Patience has two floors, and it is exhausted only when both are reached: a number
of failed attempts, and a length of time.  Commands and the probes of a recovery
have counts of their own but share the time.
-/

namespace LogReplay.Retry

structure Policy where
  minAttempts : Nat
  minReconnectAttempts : Nat
  minDuration : Span
  /-- The pause before each probe of a recovery. -/
  recoverSleep : Span
deriving DecidableEq, Repr

namespace Policy

def standard : Policy where
  minAttempts := 10
  minReconnectAttempts := 10
  minDuration := Span.ofSeconds 300
  recoverSleep := Span.ofSeconds 5

/-- Small floors, to see a command fail without a long wait. -/
def testing : Policy where
  minAttempts := 3
  minReconnectAttempts := 2
  minDuration := Span.ofMilliseconds 100
  recoverSleep := Span.ofMilliseconds 10

/-- Floors that are reached from the beginning. -/
def noRetry : Policy where
  minAttempts := 0
  minReconnectAttempts := 0
  minDuration := 0
  recoverSleep := 0

/-- A command has been repeated often enough and for long enough. -/
def commandExhausted (p : Policy) (retries : Nat) (elapsed : Span) : Bool :=
  p.minAttempts ≤ retries && p.minDuration ≤ elapsed

/-- A recovery has probed often enough and for long enough. -/
def reconnectExhausted (p : Policy) (probes : Nat) (elapsed : Span) : Bool :=
  p.minReconnectAttempts ≤ probes && p.minDuration ≤ elapsed

end Policy

end LogReplay.Retry
