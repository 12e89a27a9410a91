/-
Module: LogReplay.Destination
Purpose: The database that is written to, its clock, and what has happened so far.
Main exports:
  Destination, World, World.record
-/
import LogReplay.Act
import LogReplay.Event

/-!
A destination is known only by its answers.  It has a state of its own, of any
kind, which its clock belongs to: commands and pauses change the state, and so
may take any amount of time.

A world is a destination's state together with the events so far.
-/

namespace LogReplay

open Bson (Document)

/-- A database with a clock, on states `σ`. -/
structure Destination (σ : Type) where
  /-- The time on the clock. -/
  now : σ → Span
  /-- Runs a command on a database: the reply, or the failure to get one. -/
  run : σ → (database : String) → Document → Except Failure Document × σ
  /-- Lets at least so much time pass. -/
  pause : σ → Span → σ

/-- What the destination remembers, and what has happened. -/
structure World (σ : Type) where
  outside : σ
  trace : List Event

namespace World

/-- Adds an event at the end of what has happened. -/
def record {σ : Type} (event : Event) (w : World σ) : World σ :=
  { w with trace := w.trace ++ [event] }

/-- The commands that the destination received, in order. -/
def commands (trace : List Event) : List (String × Document) :=
  trace.filterMap fun event =>
    match event with
    | .commanded database command _ => some (database, command)
    | _ => none

@[simp] theorem trace_record {σ : Type} (event : Event) (w : World σ) :
    (w.record event).trace = w.trace ++ [event] :=
  rfl

@[simp] theorem outside_record {σ : Type} (event : Event) (w : World σ) :
    (w.record event).outside = w.outside :=
  rfl

end World

end LogReplay
