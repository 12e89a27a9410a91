/-
Module: LogReplay.Replay.Batch
Purpose: Entries that wait to be applied together.
Main exports:
  Batch, Batch.overflows, Batch.push
-/
import LogReplay.Entry
import LogReplay.Settings

/-!
A batch counts its bytes as entries are added.  An entry that would take a batch
over one of the two limits waits for the next one, unless the batch is empty: an
entry that is too large on its own is sent on its own.
-/

namespace LogReplay.Replay

open Bson (Document Timestamp)

structure Batch where
  /-- The entries in order. -/
  documents : List Document
  /-- The sum of their sizes. -/
  bytes : Nat
  /-- The timestamp of the last of them. -/
  last : Option Timestamp
deriving DecidableEq

namespace Batch

def empty : Batch where
  documents := []
  bytes := 0
  last := none

def isEmpty (b : Batch) : Bool :=
  b.documents.isEmpty

def size (b : Batch) : Nat :=
  b.documents.length

/-- An entry of that many bytes does not fit any more. -/
def overflows (b : Batch) (limits : ReplaySettings) (bytes : Nat) : Bool :=
  !b.isEmpty &&
    (limits.maxBatchOperations ≤ b.size || limits.maxBatchBytes < b.bytes + bytes)

/-- Adds an entry at the end. -/
def push (b : Batch) (entry : Entry) (bytes : Nat) : Batch where
  documents := b.documents ++ [entry.toDocument]
  bytes := b.bytes + bytes
  last := some entry.timestamp

@[simp] theorem size_push (b : Batch) (entry : Entry) (bytes : Nat) :
    (b.push entry bytes).size = b.size + 1 := by
  simp [size, push]

@[simp] theorem isEmpty_push (b : Batch) (entry : Entry) (bytes : Nat) :
    (b.push entry bytes).isEmpty = false := by
  simp [isEmpty, push]

@[simp] theorem overflows_empty (limits : ReplaySettings) (bytes : Nat) :
    empty.overflows limits bytes = false :=
  rfl

/-- What does not overflow stays within the number of entries. -/
theorem size_push_le {b : Batch} {limits : ReplaySettings} {entry : Entry} {bytes : Nat}
    (positive : 0 < limits.maxBatchOperations) (fits : b.overflows limits bytes = false) :
    (b.push entry bytes).size ≤ limits.maxBatchOperations := by
  rw [size_push]
  cases h : b.documents with
  | nil => simp [size, h]; omega
  | cons first rest =>
      have bound : b.size < limits.maxBatchOperations := by
        simp [overflows, isEmpty, h] at fits
        exact fits.1
      omega

end Batch

end LogReplay.Replay
