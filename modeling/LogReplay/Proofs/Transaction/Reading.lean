/-
Module: LogReplay.Proofs.Transaction.Reading
Purpose: A reader hands out the operations of its transaction.
Main exports:
  remaining, Reader.left, Reader.next_left, Reader.drain_left, Reader.drain_ofEntries,
  Reader.drain_of_contents?
-/
import LogReplay.Proofs.Transaction.Contents
import LogReplay.Transaction.Reader

/-!
What a reader has before it is the rest of the array that it stands in, followed by the
arrays of the later entries.  Looking for the next operation takes the first of these, or
meets the first fault.

So a reader stands for the list of all results that it has left: asking for the next one
takes the head, and draining takes the whole.
-/

namespace LogReplay.Transaction

open Bson (Value)

/-- The operations after a position in the first of some entries. -/
def remaining : List Entry → Nat → List (Except Fault Entry)
  | [], _ => []
  | e :: rest, position =>
      (match innerOperations e with
        | .ok elements => (elements.drop position).map (readOperation e)
        | .error fault => [.error fault]) ++ rest.flatMap operationsOf

theorem remaining_zero (entries : List Entry) :
    remaining entries 0 = entries.flatMap operationsOf := by
  cases entries with
  | nil => rfl
  | cons e rest =>
      rw [remaining, List.flatMap_cons, operationsOf]
      rfl

/-- What is found in some operations. -/
inductive Finds : List (Except Fault Entry) → Reader.Found → Prop where
  | operation {operation : Entry} {entries : List Entry} {position : Nat} :
      Finds (.ok operation :: remaining entries position) (.operation operation entries position)
  | fault {fault : Fault} {rest : List (Except Fault Entry)} :
      Finds (.error fault :: rest) (.fault fault)
  | finished : Finds [] .finished

/-- Looking finds the first of the operations. -/
theorem finds_find (entries : List Entry) :
    ∀ position, Finds (remaining entries position) (Reader.find entries position) := by
  induction entries with
  | nil =>
      intro position
      exact .finished
  | cons e rest inductionHypothesis =>
      intro position
      rw [Reader.find, remaining]
      cases inner : innerOperations e with
      | error fault => exact .fault
      | ok elements =>
          cases element : elements[position]? with
          | none =>
              have atEnd := List.drop_eq_nil_of_le (List.getElem?_eq_none_iff.mp element)
              simp only [element, atEnd, List.map_nil, List.nil_append, ← remaining_zero]
              exact inductionHypothesis 0
          | some value =>
              obtain ⟨inside, rfl⟩ := List.getElem?_eq_some_iff.mp element
              simp only [element]
              rw [List.drop_eq_getElem_cons inside, List.map_cons, List.cons_append]
              cases read : readOperation e elements[position] with
              | error fault => exact .fault
              | ok operation =>
                  have later : remaining (e :: rest) (position + 1) =
                      (elements.drop (position + 1)).map (readOperation e) ++
                        rest.flatMap operationsOf := by rw [remaining, inner]
                  rw [← later]
                  exact .operation

/-- At most all operations of the entries are after a position. -/
theorem length_remaining_le (entries : List Entry) (position : Nat) :
    (remaining entries position).length ≤ (entries.flatMap operationsOf).length := by
  cases entries with
  | nil => exact Nat.le_refl 0
  | cons e rest =>
      rw [remaining, List.flatMap_cons, operationsOf, List.length_append, List.length_append]
      cases innerOperations e with
      | error fault => exact Nat.le_refl _
      | ok elements =>
          simp only [List.length_map, List.length_drop]
          omega

theorem length_untilFault_le {α : Type} (results : List (Except Fault α)) :
    (untilFault results).length ≤ results.length := by
  induction results with
  | nil => exact Nat.le_refl 0
  | cons result rest inductionHypothesis =>
      cases result with
      | error fault => exact Nat.succ_le_succ (Nat.zero_le _)
      | ok a => exact Nat.succ_le_succ inductionHypothesis

namespace Reader

/-- All that a reader will hand out. -/
def left (r : Reader) : List (Except Fault Entry) :=
  if r.isDone then [] else untilFault (remaining r.entries r.position)

theorem left_of_isDone {r : Reader} (done : r.isDone = true) : r.left = [] :=
  if_pos done

theorem left_ofEntries (id : Identity) (entries : List Entry) :
    (ofEntries id entries).left = operations entries := by
  rw [operations, ← remaining_zero]
  rfl

/-- The next result is the first of those that are left, and the others are left after
it. -/
theorem next_left (r : Reader) : r.next.1 = r.left.head? ∧ r.next.2.left = r.left.tail := by
  cases done : r.isDone with
  | true =>
      rw [next_of_isDone done, left_of_isDone done]
      exact ⟨rfl, rfl⟩
  | false =>
      rw [next, left, done]
      have found := finds_find r.entries r.position
      generalize remaining r.entries r.position = operations at found
      generalize find r.entries r.position = result at found
      cases found with
      | operation | fault | finished => exact ⟨rfl, rfl⟩

/-- Reading to the end collects what is left, given enough fuel, and leaves nothing. -/
theorem drainWith_left {fuel : Nat} :
    ∀ {r : Reader}, r.left.length < fuel →
      (r.drainWith fuel).1 = collect r.left ∧ (r.drainWith fuel).2.left = [] := by
  induction fuel with
  | zero =>
      intro r enough
      exact absurd enough (Nat.not_lt_zero _)
  | succ fuel inductionHypothesis =>
      intro r enough
      obtain ⟨first, others⟩ := r.next_left
      rw [drainWith]
      rcases read : r.next with ⟨_ | (fault | operation), after⟩
      · rw [read] at first others
        rw [List.head?_eq_none_iff.mp first.symm] at others ⊢
        exact ⟨rfl, others⟩
      · rw [read] at first
        obtain ⟨rest, left⟩ := List.head?_eq_some_iff.mp first.symm
        rw [left]
        exact ⟨rfl, left_of_isDone (isDone_of_next_error read)⟩
      · rw [read] at first others
        obtain ⟨rest, left⟩ := List.head?_eq_some_iff.mp first.symm
        rw [left, List.tail_cons] at others
        rw [left] at enough ⊢
        have shorter : after.left.length < fuel := by
          rw [others]
          exact Nat.lt_of_succ_lt_succ enough
        obtain ⟨collected, nothing⟩ := inductionHypothesis shorter
        rw [others] at collected
        rw [collect, ← collected]
        exact ⟨rfl, nothing⟩

/-- Draining collects all that is left, and leaves nothing. -/
theorem drain_left (r : Reader) : r.drain.1 = collect r.left ∧ r.drain.2.left = [] := by
  apply drainWith_left
  rw [left]
  split
  · exact Nat.succ_pos _
  · exact Nat.lt_succ_of_le
      (Nat.le_trans (length_untilFault_le _) (length_remaining_le r.entries r.position))

/-- Reading a whole transaction gives all its operations, or the first fault. -/
theorem drain_ofEntries (id : Identity) (entries : List Entry) :
    (ofEntries id entries).drain.1 = collect (operations entries) := by
  rw [(drain_left _).1, left_ofEntries]

end Reader

theorem collect_map_ok {α : Type} (found : List α) : collect (found.map .ok) = .ok found := by
  induction found with
  | nil => rfl
  | cons a rest inductionHypothesis =>
      rw [List.map_cons, collect, inductionHypothesis]
      rfl

/-- Reading gives the contents of a transaction that has them. -/
theorem Reader.drain_of_contents? {entries found : List Entry} (id : Identity)
    (read : contents? entries = some found) : (ofEntries id entries).drain.1 = .ok found := by
  rw [drain_ofEntries, operations_of_contents? read, collect_map_ok]

end LogReplay.Transaction
