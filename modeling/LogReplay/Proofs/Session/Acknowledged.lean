/-
Module: LogReplay.Proofs.Session.Acknowledged
Purpose: The batches that a destination has acknowledged, read off a trace.
Main exports:
  acknowledged, carried, Session.carried_batchCommand, Session.applyBatch_ends
-/
import LogReplay.Proofs.Session.Attempt
import LogReplay.Proofs.Session.Retrying

/-!
A batch may be sent many times before it is acknowledged, and probes are sent in
between.  What counts is the command of the last attempt: the one that was sent last
when the trace notes that the batch was applied.

From such a command the entries can be read again: it carries them as they are,
followed by a closing command exactly if there is more than one.
-/

namespace LogReplay

open Bson

/-! ## Reading a trace -/

/-- What has been read of a trace. -/
structure Reading where
  /-- The command that was sent last. -/
  latest : Option Document
  /-- The commands of the batches that were applied. -/
  applied : List Document

def Reading.start : Reading :=
  ⟨none, []⟩

def Reading.next (seen : Reading) : Event → Reading
  | .commanded _ command _ => { seen with latest := some command }
  | .batchAttempted _ true _ => { seen with applied := seen.applied ++ seen.latest.toList }
  | _ => seen

/-- The commands by which batches were applied, one for each batch. -/
def acknowledged (trace : List Event) : List Document :=
  (trace.foldl Reading.next .start).applied

/-- The event does not say that a batch was applied. -/
def Event.isQuiet : Event → Bool
  | .batchAttempted _ true _ => false
  | _ => true

theorem acknowledged_snoc {trace : List Event} {event : Event} (quiet : event.isQuiet = true) :
    acknowledged (trace ++ [event]) = acknowledged trace := by
  rw [acknowledged, List.foldl_append]
  cases event with
  | batchAttempted entries succeeded elapsed =>
      cases succeeded with
      | false => rfl
      | true => cases quiet
  | _ => rfl

theorem acknowledged_append {trace events : List Event}
    (quiet : ∀ event ∈ events, event.isQuiet = true) :
    acknowledged (trace ++ events) = acknowledged trace := by
  induction events generalizing trace with
  | nil => rw [List.append_nil]
  | cons event rest inductionHypothesis =>
      have later : ∀ other ∈ rest, other.isQuiet = true :=
        fun other member => quiet other (List.mem_cons_of_mem event member)
      rw [List.append_cons, inductionHypothesis later]
      exact acknowledged_snoc (quiet event List.mem_cons_self)

theorem acknowledged_applied (trace : List Event) (database : String) (command : Document)
    (outcome : Except Failure Document) (entries : List Document) (elapsed : Span) :
    acknowledged
        (trace ++ [.commanded database command outcome] ++
          [.batchAttempted entries true elapsed]) =
      acknowledged trace ++ [command] := by
  simp [acknowledged, Reading.next]

/-! ## Reading a command -/

/-- The entries that a command applies, without the closing command that follows more
than one. -/
def carried (command : Document) : List Document :=
  match command.field? "applyOps" with
  | some (.array items) =>
      let operations := items.filterMap Value.document?
      if 1 < operations.length then operations.dropLast else operations
  | _ => []

namespace Session

variable {σ : Type} (s : Session σ)

theorem field?_batchCommand (entries : List Document) (bypass : Bool) :
    (s.batchCommand entries bypass).field? "applyOps" =
      some (.array ((s.batchOperations entries).map .document)) := by
  rw [batchCommand, majority, Document.field?_put_of_ne _ (by decide)]
  simp [Document.field?_cons]

/-- Documents are read back from an array of them. -/
theorem documents_of_items (documents : List Document) :
    (documents.map Value.document).filterMap Value.document? = documents := by
  rw [List.filterMap_map]
  exact List.filterMap_some

/-- A command carries the entries it was made from. -/
theorem carried_batchCommand (entries : List Document) (bypass : Bool) :
    carried (s.batchCommand entries bypass) = entries := by
  simp only [carried, field?_batchCommand, documents_of_items, batchOperations]
  by_cases several : 1 < entries.length
  · have more : 1 < (entries ++ [s.noopCommand]).length := by
      simp only [List.length_append, List.length_singleton]
      omega
    rw [if_pos several, if_pos more, List.dropLast_concat]
  · rw [if_neg several, if_neg several]

/-! ## Applying a batch -/

variable {s}

/-- The command by which the settings have a batch applied. -/
def command (s : Session σ) (entries : List Document) : Document :=
  s.batchCommand entries s.settings.bypassValidation

/-- The commands of batches carry the entries of the batches. -/
theorem flatMap_carried_map_command (batches : List (List Document)) :
    (batches.map s.command).flatMap carried = batches.flatten := by
  induction batches with
  | nil => rfl
  | cons entries rest inductionHypothesis =>
      rw [List.map_cons, List.flatMap_cons, inductionHypothesis, command,
        carried_batchCommand, List.flatten_cons]

theorem acknowledged_heard (w : World σ) (database : String) (command : Document) :
    acknowledged (s.heard w database command).trace = acknowledged w.trace :=
  acknowledged_snoc rfl

/-- Neither remarks nor recoveries acknowledge a batch. -/
theorem keeps_acknowledged (recovery : Recovery) (batches : List Document) :
    s.Keeps recovery fun w => acknowledged w.trace = batches where
  remarked := by
    intro w event remark held
    have quiet : event.isQuiet = true := by
      cases event <;> first | rfl | cases remark
    exact (acknowledged_snoc quiet).trans held
  slept := by
    intro w held
    simp only [sleep, Act.ends_bind, Act.ends_change, ends_note]
    exact (acknowledged_snoc rfl).trans held
  probed := by
    intro w held
    cases recovery with
    | byWriting =>
        refine (Act.ends_iff_of_run (s.run_waitForMajority w)).mpr ?_
        exact (acknowledged_heard w "admin" s.probeCommand).trans held
    | byAsking =>
        refine (Act.ends_iff_of_run (s.run_perform "admin" _ w)).mpr ?_
        exact (acknowledged_heard w "admin" _).trans held

/-- A batch is acknowledged exactly if it is applied, and nothing else is. -/
theorem applyBatch_ends (entries : List Document) (w : World σ) :
    (s.applyBatch entries).Ends w fun result t =>
      match result with
      | .ok _ => acknowledged t.trace = acknowledged w.trace ++ [s.command entries]
      | .error _ => acknowledged t.trace = acknowledged w.trace := by
  rw [applyBatch, applyBatchWith]
  split
  · simp only [Act.ends_fail]
  refine retrying_ends (keeps_acknowledged .byWriting _) ?_ id rfl
  intro isRetry u held
  refine (Act.ends_iff_of_run (s.run_attemptBatch entries _ u)).mpr ?_
  cases result : s.batchAnswer u.outside (s.command entries) with
  | ok reply =>
      rw [command] at result
      rw [result, ← held]
      exact acknowledged_applied u.trace "admin" _ _ entries _
  | error failure =>
      rw [command] at result
      rw [result]
      exact (acknowledged_snoc rfl).trans ((acknowledged_heard u "admin" _).trans held)

end Session

end LogReplay
