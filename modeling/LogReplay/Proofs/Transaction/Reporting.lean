/-
Module: LogReplay.Proofs.Transaction.Reporting
Purpose: The steps of a transaction report nothing but themselves.
Main exports:
  Event.isReport, Transaction.isReport_of_mem_addEvents
-/
import LogReplay.Transaction.Reporting

/-!
What is reported of the steps of a transaction is told apart from what a destination
hears and from the attempts at its batches.
-/

namespace LogReplay

/-- The event reports a step of a transaction. -/
def Event.isReport : Event → Bool
  | .halfSession | .entered _ _ | .finalized _ _ | .purged _ _ => true
  | .readerFinished _ | .readerAbandoned => true
  | _ => false

namespace Transaction

variable {event : Event}

theorem isReport_of_mem_placementEvents {e : Entry} (member : event ∈ placementEvents e) :
    event.isReport = true := by
  unfold placementEvents at member
  split at member
  · rw [List.mem_singleton.mp member]
    rfl
  · cases member

theorem isReport_of_mem_addEvents {before after : Ledger} {place : Placement}
    (member : event ∈ before.addEvents place after) : event.isReport = true := by
  rw [Ledger.addEvents] at member
  rcases List.mem_append.mp member with ending | entering
  · split at ending
    all_goals first
      | rw [List.mem_singleton.mp ending]; rfl
      | cases ending
  · rw [List.mem_singleton.mp entering]
    rfl

theorem isReport_of_mem_purgeEvents {before : Ledger} {id : Identity}
    (member : event ∈ before.purgeEvents id) : event.isReport = true := by
  unfold Ledger.purgeEvents at member
  split at member
  · cases member
  · rw [List.mem_singleton.mp member]
    rfl

end Transaction

end LogReplay
