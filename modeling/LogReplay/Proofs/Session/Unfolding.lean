/-
Module: LogReplay.Proofs.Session.Unfolding
Purpose: The events that lead from one world to another, and the commands among them.
Main exports:
  Destination.onward, Session.Unfolds, Session.UnfoldsWithin
-/
import LogReplay.Proofs.Session.Attempt
import LogReplay.Proofs.Session.Retrying

/-!
A session changes a destination by commands and pauses only, and it records both.  So the
events that were added to a trace also tell what has become of the destination: its state
is what replaying them leaves.

Which commands an operation may send is a relation.  An operation that is repeated sends
what its attempts send, and probes.
-/

namespace LogReplay

open Bson (Document)

variable {σ : Type}

/-- What an event leaves of a destination. -/
def Destination.onward (d : Destination σ) (o : σ) : Event → σ
  | .commanded database command _ => (d.run o database command).2
  | .slept span => d.pause o span
  | _ => o

/-- The destination does not notice the event. -/
def Event.isSilent : Event → Bool
  | .commanded _ _ _ | .slept _ => false
  | _ => true

theorem Event.isSilent_of_isRemark {event : Event} (remark : event.isRemark = true) :
    event.isSilent = true := by
  cases event <;> first | rfl | cases remark

theorem Destination.onward_of_isSilent (d : Destination σ) (o : σ) {event : Event}
    (silent : event.isSilent = true) : d.onward o event = o := by
  cases event <;> first | rfl | cases silent

theorem World.commands_append (events later : List Event) :
    World.commands (events ++ later) = World.commands events ++ World.commands later :=
  List.filterMap_append

theorem World.commands_of_isSilent {event : Event} (silent : event.isSilent = true) :
    World.commands [event] = [] := by
  cases event <;> first | rfl | cases silent

namespace Session

variable {s : Session σ}

theorem ends_perform {database : String} {command : Document} {w : World σ}
    {post : Except Failure Unit → World σ → Prop} :
    (s.perform database command).Ends w post ↔
      post ((s.answer w.outside database command).map fun _ => ())
        (s.heard w database command) :=
  Act.ends_iff_of_run (s.run_perform database command w)

theorem ends_waitForMajority {w : World σ} {post : Except Failure Unit → World σ → Prop} :
    s.waitForMajority.Ends w post ↔
      post ((s.batchAnswer w.outside s.probeCommand).map fun _ => ())
        (s.heard w "admin" s.probeCommand) :=
  Act.ends_iff_of_run (s.run_waitForMajority w)

/-- These events lead from one world to the other. -/
structure Unfolds (s : Session σ) (w : World σ) (events : List Event) (t : World σ) :
    Prop where
  trace : t.trace = w.trace ++ events
  outside : t.outside = events.foldl s.destination.onward w.outside

namespace Unfolds

variable {w u t : World σ} {events later : List Event}

theorem refl (s : Session σ) (w : World σ) : s.Unfolds w [] w where
  trace := (List.append_nil _).symm
  outside := rfl

theorem trans (one : s.Unfolds w events u) (two : s.Unfolds u later t) :
    s.Unfolds w (events ++ later) t where
  trace := by rw [two.trace, one.trace, List.append_assoc]
  outside := by rw [two.outside, one.outside, List.foldl_append]

theorem record (s : Session σ) (w : World σ) {event : Event} (silent : event.isSilent = true) :
    s.Unfolds w [event] (w.record event) where
  trace := rfl
  outside := (s.destination.onward_of_isSilent w.outside silent).symm

theorem heard (s : Session σ) (w : World σ) (database : String) (command : Document) :
    s.Unfolds w [.commanded database command (s.answer w.outside database command)]
      (s.heard w database command) where
  trace := rfl
  outside := rfl

theorem slept {ε : Type} (s : Session σ) (w : World σ) (span : Span) :
    (s.sleep span : Act (World σ) ε Unit).Ends w fun _ t => s.Unfolds w [.slept span] t := by
  simp only [sleep, Act.ends_bind, Act.ends_change, ends_note]
  exact ⟨rfl, rfl⟩

end Unfolds

/-- The event belongs to a recovery, or is a remark that is left around one. -/
def IsBetweenAttempts (s : Session σ) : Event → Prop
  | .slept _ => True
  | .commanded database command _ => database = "admin" ∧ command = s.probeCommand
  | event => event.isAside = true

theorem not_isBetweenAttempts (isRetry : Bool) : ¬ s.IsBetweenAttempts (.attempted isRetry) := by
  intro between
  cases between

theorem isBetweenAttempts_of_isAside {event : Event} (aside : event.isAside = true) :
    s.IsBetweenAttempts event := by
  cases event <;> first | exact aside | cases aside

/-- A property of the events so far lasts between two attempts, if it does not depend on
the events of recoveries. -/
theorem mends_unfolds (w : World σ) (holds : List Event → Prop)
    (lasts : ∀ {events event}, holds events → s.IsBetweenAttempts event →
      holds (events ++ [event])) :
    s.Mends .byWriting (fun t => ∃ events, s.Unfolds w events t ∧ holds events)
      (fun t => ∃ events, s.Unfolds w events t ∧ holds events) where
  remarked := by
    rintro t event aside ⟨events, unfolds, held⟩
    have silent := Event.isSilent_of_isRemark (Event.isRemark_of_isAside aside)
    exact ⟨_, unfolds.trans (.record s t silent), lasts held (isBetweenAttempts_of_isAside aside)⟩
  slept := by
    rintro t ⟨events, unfolds, held⟩
    refine (Unfolds.slept s t _).mono ?_
    intro _ u slept
    exact ⟨_, unfolds.trans slept, lasts held trivial⟩
  probed := by
    rintro t ⟨events, unfolds, held⟩
    have heard := unfolds.trans (.heard s t "admin" s.probeCommand)
    have probe : s.IsBetweenAttempts (.commanded "admin" s.probeCommand
        (s.answer t.outside "admin" s.probeCommand)) :=
      ⟨rfl, rfl⟩
    have still := lasts held probe
    refine ends_waitForMajority.mpr ?_
    cases s.batchAnswer t.outside s.probeCommand with
    | error failure => exact ⟨_, heard, still⟩
    | ok reply => exact ⟨_, heard.trans (.record s _ rfl), lasts still rfl⟩

/-! ## What is sent on the way -/

/-- On the way from one world to the other no other commands were sent. -/
def UnfoldsWithin (s : Session σ) (allowed : String → Document → Prop) (w t : World σ) :
    Prop :=
  ∃ events, s.Unfolds w events t ∧
    ∀ command ∈ World.commands events, allowed command.1 command.2

variable {allowed : String → Document → Prop} {w t : World σ}

theorem UnfoldsWithin.refl (w : World σ) : s.UnfoldsWithin allowed w w :=
  ⟨[], .refl s w, List.forall_mem_nil _⟩

theorem UnfoldsWithin.trans {u : World σ} (one : s.UnfoldsWithin allowed w u)
    (two : s.UnfoldsWithin allowed u t) : s.UnfoldsWithin allowed w t := by
  obtain ⟨events, first, onlyFirst⟩ := one
  obtain ⟨later, second, onlySecond⟩ := two
  refine ⟨events ++ later, first.trans second, ?_⟩
  rw [World.commands_append]
  exact List.forall_mem_append.mpr ⟨onlyFirst, onlySecond⟩

theorem UnfoldsWithin.record (within : s.UnfoldsWithin allowed w t) {event : Event}
    (silent : event.isSilent = true) : s.UnfoldsWithin allowed w (t.record event) := by
  refine within.trans ⟨[event], .record s t silent, ?_⟩
  rw [World.commands_of_isSilent silent]
  exact List.forall_mem_nil _

theorem UnfoldsWithin.heard (within : s.UnfoldsWithin allowed w t) {database : String}
    {command : Document} (permitted : allowed database command) :
    s.UnfoldsWithin allowed w (s.heard t database command) :=
  within.trans
    ⟨[_], .heard s t database command, List.forall_mem_singleton.mpr permitted⟩

theorem note_preserves_within {ε : Type} {event : Event} (silent : event.isSilent = true) :
    (note event : Act (World σ) ε Unit).Preserves (s.UnfoldsWithin allowed w) := by
  intro t within
  exact ends_note.mpr (within.record silent)

theorem perform_preserves_within {database : String} {command : Document}
    (permitted : allowed database command) :
    (s.perform database command).Preserves (s.UnfoldsWithin allowed w) := by
  intro t within
  exact ends_perform.mpr (within.heard permitted)

theorem waitForMajority_preserves_within (probes : allowed "admin" s.probeCommand) :
    s.waitForMajority.Preserves (s.UnfoldsWithin allowed w) := by
  intro t within
  exact ends_waitForMajority.mpr (within.heard probes)

/-- Recoveries send nothing but probes. -/
theorem keeps_within (probes : allowed "admin" s.probeCommand) (w : World σ) :
    s.Keeps .byWriting (s.UnfoldsWithin allowed w) where
  remarked := by
    intro t event remark within
    exact within.record (Event.isSilent_of_isRemark remark)
  slept := by
    intro t within
    refine (Unfolds.slept s t _).mono ?_
    intro _ u unfolds
    exact within.trans ⟨_, unfolds, List.forall_mem_nil _⟩
  probed := by
    intro t within
    exact waitForMajority_preserves_within probes t within

theorem retryingWrite_preserves_within {α : Type} {attempt : Bool → Act (World σ) Failure α}
    (probes : allowed "admin" s.probeCommand)
    (attempted : ∀ isRetry, (attempt isRetry).Preserves (s.UnfoldsWithin allowed w))
    {operation : String} :
    (s.retryingWrite operation attempt).Preserves (s.UnfoldsWithin allowed w) :=
  retrying_preserves (keeps_within probes w) attempted

end Session

end LogReplay
