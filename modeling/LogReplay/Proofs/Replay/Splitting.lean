/-
Module: LogReplay.Proofs.Replay.Splitting
Purpose: Batches are cut greedily: one is closed only when the next entry does not fit.
Main exports:
  GreedySplit, GreedySplit.unique, Batch.Carries, Cut, cut?,
  Replayer.Reaches.splits_greedily
-/
import LogReplay.Proofs.Replay.Capacity
import LogReplay.Proofs.Replay.InOrder
import Mathlib.Data.List.Chain
import Mathlib.Data.List.Forall2

/-!
Two loops put entries into batches: the one that waits across calls, and the one within a
commit.  Both ask whether the next entry still fits before they put it in, and both start
over with an empty batch.

Where a batch has to be closed is given by the calls alone: a commit, a flush and a finish
each end a segment, and the contents of a committed transaction are a segment of their
own.  Within a segment the batches are the greedy split of its entries, and there is only
one such split.
-/

namespace LogReplay.Replay

open Bson (Document Timestamp)
open Transaction

/-! ## Greedy splits -/

/-- The number of bytes that entries take. -/
def bytesOf : List Entry → Nat
  | [] => 0
  | e :: rest => e.encode.length + bytesOf rest

theorem bytesOf_append (entries more : List Entry) :
    bytesOf (entries ++ more) = bytesOf entries + bytesOf more := by
  induction entries with
  | nil => exact (Nat.zero_add _).symm
  | cons e rest inductionHypothesis =>
      rw [List.cons_append, bytesOf, inductionHypothesis, bytesOf, Nat.add_assoc]

theorem bytesOf_singleton (e : Entry) : bytesOf [e] = e.encode.length :=
  Nat.add_zero _

/-- Entries that may be sent together; one entry alone may be larger than the limit on
bytes. -/
structure Sendable (limits : ReplaySettings) (batch : List Entry) : Prop where
  filled : batch ≠ []
  few : batch.length ≤ limits.maxBatchOperations
  small : 1 < batch.length → bytesOf batch ≤ limits.maxBatchBytes

/-- The batch could not have taken one more entry. -/
def IsFullFor (limits : ReplaySettings) (batch : List Entry) (next : Entry) : Prop :=
  batch.length = limits.maxBatchOperations ∨
    limits.maxBatchBytes < bytesOf batch + next.encode.length

/-- The entries are cut into batches, each of which is full for the entry after it. -/
structure GreedySplit (limits : ReplaySettings) (entries : List Entry)
    (batches : List (List Entry)) : Prop where
  whole : batches.flatten = entries
  measured : ∀ e ∈ entries, e.encodedLength? = some e.encode.length
  fits : ∀ batch ∈ batches, Sendable limits batch
  greedy : batches.IsChain fun batch later => ∀ e ∈ later.head?, IsFullFor limits batch e

namespace GreedySplit

variable {limits : ReplaySettings} {entries batch : List Entry} {batches : List (List Entry)}
  {e : Entry}

theorem nil : GreedySplit limits [] [] where
  whole := rfl
  measured := List.forall_mem_nil _
  fits := List.forall_mem_nil _
  greedy := .nil

/-- One more entry goes into the last batch. -/
theorem extend (split : GreedySplit limits entries (batches ++ [batch])) (filled : batch ≠ [])
    (length : e.encodedLength? = some e.encode.length)
    (fits : Sendable limits (batch ++ [e])) :
    GreedySplit limits (entries ++ [e]) (batches ++ [batch ++ [e]]) where
  whole := by
    rw [← split.whole]
    simp
  measured := List.forall_mem_append.mpr
    ⟨split.measured, List.forall_mem_singleton.mpr length⟩
  fits := List.forall_mem_append.mpr
    ⟨(List.forall_mem_append.mp split.fits).1, List.forall_mem_singleton.mpr fits⟩
  greedy := by
    obtain ⟨earlier, _, full⟩ := List.isChain_append.mp split.greedy
    refine List.isChain_append.mpr ⟨earlier, .singleton _, ?_⟩
    intro before last later same next head
    cases same
    rw [List.head?_append_of_ne_nil _ filled] at head
    exact full before last batch rfl next head

/-- One more entry opens a batch. -/
theorem startBatch (split : GreedySplit limits entries batches)
    (length : e.encodedLength? = some e.encode.length) (fits : Sendable limits [e])
    (full : ∀ last ∈ batches.getLast?, IsFullFor limits last e) :
    GreedySplit limits (entries ++ [e]) (batches ++ [[e]]) where
  whole := by
    rw [List.flatten_append, split.whole, List.flatten_singleton]
  measured := List.forall_mem_append.mpr
    ⟨split.measured, List.forall_mem_singleton.mpr length⟩
  fits := List.forall_mem_append.mpr ⟨split.fits, List.forall_mem_singleton.mpr fits⟩
  greedy := by
    refine List.isChain_append.mpr ⟨split.greedy, .singleton _, ?_⟩
    intro last member later same next head
    cases same
    cases head
    exact full last member

theorem tail (split : GreedySplit limits entries (batch :: batches)) :
    GreedySplit limits batches.flatten batches where
  whole := rfl
  measured := by
    intro e member
    refine split.measured e ?_
    rw [← split.whole, List.flatten_cons]
    exact List.mem_append_right _ member
  fits := (List.forall_mem_cons.mp split.fits).2
  greedy := split.greedy.tail

/-- The first batch of a greedy split is as long as any batch that the entries begin with. -/
theorem length_head_le {other rest : List Entry}
    (split : GreedySplit limits entries (batch :: batches))
    (begins : entries = other ++ rest) (fits : Sendable limits other) :
    other.length ≤ batch.length := by
  by_contra! shorter
  have whole := split.whole
  rw [List.flatten_cons, begins] at whole
  obtain ⟨more, rfl⟩ : batch <+: other :=
    List.prefix_of_prefix_length_le (whole ▸ List.prefix_append _ _) (List.prefix_append _ _)
      shorter.le
  rw [List.length_append] at shorter
  rw [List.append_assoc, List.append_cancel_left_eq] at whole
  -- The batch after the first one begins with an entry that the other batch took.
  obtain ⟨next, others, rfl⟩ := List.exists_cons_of_length_pos (by omega : 0 < more.length)
  cases batches with
  | nil => cases whole
  | cons second later =>
      obtain ⟨first, following, rfl⟩ :=
        List.exists_cons_of_ne_nil (split.fits second (by simp)).filled
      cases (List.cons.inj whole).1
      have full := (List.isChain_cons_cons.mp split.greedy).1 next rfl
      have filled := List.length_pos_of_ne_nil (split.fits batch (by simp)).filled
      have few := fits.few
      have small := fits.small (by rw [List.length_append, List.length_cons]; omega)
      rw [List.length_append, List.length_cons] at few
      rw [bytesOf_append, bytesOf] at small
      rcases full with size | bytes <;> omega

theorem eq_nil_iff (split : GreedySplit limits entries batches) :
    batches = [] ↔ entries = [] := by
  have whole := split.whole
  cases batches with
  | nil => exact ⟨fun _ => whole.symm, fun _ => rfl⟩
  | cons batch rest =>
      rw [List.flatten_cons] at whole
      have filled := (split.fits batch List.mem_cons_self).filled
      constructor
      · intro none
        cases none
      · rintro rfl
        exact absurd (List.append_eq_nil_iff.mp whole).1 filled

/-- Entries have one greedy split. -/
theorem unique {others : List (List Entry)} (one : GreedySplit limits entries batches)
    (two : GreedySplit limits entries others) : batches = others := by
  induction batches generalizing entries others with
  | nil => exact (two.eq_nil_iff.mpr (one.eq_nil_iff.mp rfl)).symm
  | cons batch rest inductionHypothesis =>
      cases others with
      | nil => exact one.eq_nil_iff.mpr (two.eq_nil_iff.mp rfl)
      | cons second later =>
          have same := one.whole.trans two.whole.symm
          rw [List.flatten_cons, List.flatten_cons] at same
          have lengths : batch.length = second.length := Nat.le_antisymm
            (two.length_head_le (one.whole.symm.trans List.flatten_cons)
              (one.fits batch List.mem_cons_self))
            (one.length_head_le (two.whole.symm.trans List.flatten_cons)
              (two.fits second List.mem_cons_self))
          obtain ⟨rfl, others⟩ := List.append_inj same lengths
          rw [inductionHypothesis one.tail (others ▸ two.tail)]

end GreedySplit

/-! ## What a batch carries -/

/-- The batch was filled with these entries. -/
structure Batch.Carries (b : Batch) (entries : List Entry) : Prop where
  documents : b.documents = entries.map Entry.toDocument
  bytes : b.bytes = bytesOf entries
  last : b.last = entries.getLast?.map Entry.timestamp

namespace Batch

variable {limits : ReplaySettings} {b : Batch} {held : List Entry} {e : Entry} {bytes : Nat}

theorem carries_empty : empty.Carries [] where
  documents := rfl
  bytes := rfl
  last := rfl

theorem isEmpty_of_overflows (full : b.overflows limits bytes = true) : b.isEmpty = false := by
  rw [overflows, Bool.and_eq_true, Bool.not_eq_true'] at full
  exact full.1

theorem Carries.push (carries : b.Carries held) (measured : e.encodedLength? = some bytes) :
    (b.push e bytes).Carries (held ++ [e]) where
  documents := by
    rw [Batch.push, carries.documents, List.map_append, List.map_singleton]
  bytes := by
    rw [Batch.push, carries.bytes, bytesOf_append, bytesOf_singleton,
      Entry.length_encode_of_encodedLength? measured]
  last := by
    rw [List.getLast?_concat]
    rfl

theorem Carries.isEmpty_iff (carries : b.Carries held) : b.isEmpty = true ↔ held = [] := by
  rw [isEmpty, carries.documents, List.isEmpty_iff, List.map_eq_nil_iff]

theorem Carries.filled (carries : b.Carries held) (waiting : b.isEmpty = false) : held ≠ [] :=
  fun nothing => Bool.eq_false_iff.mp waiting (carries.isEmpty_iff.mpr nothing)

theorem Carries.size_eq (carries : b.Carries held) : b.size = held.length := by
  rw [Batch.size, carries.documents, List.length_map]

theorem Carries.sendable (carries : b.Carries held) (within : b.Within limits)
    (waiting : b.isEmpty = false) : Sendable limits held := by
  refine ⟨carries.filled waiting, carries.size_eq ▸ within.size, fun several => ?_⟩
  rw [← carries.bytes]
  exact within.several (carries.size_eq ▸ several)

/-- An entry overflows a batch that is full for it. -/
theorem Carries.isFullFor (carries : b.Carries held) (within : b.Within limits)
    (measured : e.encodedLength? = some bytes) (full : b.overflows limits bytes = true) :
    IsFullFor limits held e := by
  simp only [overflows, Bool.and_eq_true, Bool.or_eq_true, decide_eq_true_iff] at full
  rcases full.2 with operations | more
  · exact .inl (carries.size_eq ▸ Nat.le_antisymm within.size operations)
  · refine .inr ?_
    rwa [← carries.bytes, Entry.length_encode_of_encodedLength? measured]

end Batch

/-- Entries that wait are sent as one batch, if there are any. -/
def waitingBatches (held : List Entry) : List (List Entry) :=
  if held = [] then [] else [held]

theorem waitingBatches_of_ne_nil {held : List Entry} (filled : held ≠ []) :
    waitingBatches held = [held] :=
  if_neg filled

/-- A segment has been split up to its last batch, which waits and may take more. -/
structure Begun (limits : ReplaySettings) (segment : List Entry) (sent : List (List Entry))
    (held : List Entry) (b : Batch) : Prop where
  carries : b.Carries held
  within : b.Within limits
  split : GreedySplit limits segment (sent ++ waitingBatches held)
  /-- A batch is sent only to make room for an entry, which waits from then on. -/
  fresh : held = [] → sent = []

namespace Begun

variable {limits : ReplaySettings} {segment : List Entry} {sent : List (List Entry)}
  {held : List Entry} {b : Batch} {e : Entry} {bytes : Nat}

theorem nothing (limits : ReplaySettings) : Begun limits [] [] [] .empty where
  carries := Batch.carries_empty
  within := Batch.within_empty limits
  split := .nil
  fresh := fun _ => rfl

/-- An entry that fits goes into the batch that waits. -/
theorem push (begun : Begun limits segment sent held b)
    (positive : 0 < limits.maxBatchOperations) (measured : e.encodedLength? = some bytes)
    (room : b.overflows limits bytes = false) :
    Begun limits (segment ++ [e]) sent (held ++ [e]) (b.push e bytes) := by
  have carries := begun.carries.push measured
  have within := Batch.within_push e positive room
  have sendable := carries.sendable within (Batch.isEmpty_push b e bytes)
  have length := Entry.encodedLength?_eq_length_encode measured
  have split := begun.split
  refine ⟨carries, within, ?_, fun nothing => absurd nothing (List.concat_ne_nil _ _)⟩
  rw [waitingBatches_of_ne_nil (List.concat_ne_nil _ _)]
  by_cases filled : held = []
  · subst filled
    rw [begun.fresh rfl] at split ⊢
    exact split.startBatch length sendable fun _ none => (by cases none)
  · rw [waitingBatches_of_ne_nil filled] at split
    exact split.extend filled length sendable

/-- An entry that does not fit opens a batch, and the one that waited is sent. -/
theorem pushAfter (begun : Begun limits segment sent held b)
    (positive : 0 < limits.maxBatchOperations) (measured : e.encodedLength? = some bytes)
    (full : b.overflows limits bytes = true) :
    Begun limits (segment ++ [e]) (sent ++ [held]) [e] (Batch.empty.push e bytes) := by
  have carries := Batch.carries_empty.push measured
  have within := Batch.within_push e positive (Batch.overflows_empty limits bytes)
  have sendable := carries.sendable within (Batch.isEmpty_push _ e bytes)
  have length := Entry.encodedLength?_eq_length_encode measured
  have split := begun.split
  rw [waitingBatches_of_ne_nil (begun.carries.filled (Batch.isEmpty_of_overflows full))] at split
  refine ⟨carries, within, ?_, fun nothing => absurd nothing (List.cons_ne_nil _ _)⟩
  refine split.startBatch length sendable fun last member => ?_
  rw [List.getLast?_concat, Option.mem_some_iff] at member
  exact member ▸ begun.carries.isFullFor begun.within measured full

end Begun

/-- Operations that are all sent are split after what has been begun. -/
theorem Sends.split {limits : ReplaySettings} {b : Batch}
    {operations : List (Except Fault Entry)} {result : Except Fault Unit}
    {batches : List (List Document)} (sends : Sends limits b operations result batches)
    (positive : 0 < limits.maxBatchOperations) (succeeded : result = .ok ()) :
    ∀ {segment : List Entry} {sent : List (List Entry)} {held : List Entry},
      Begun limits segment sent held b →
        ∃ found later, operations = found.map .ok ∧
          GreedySplit limits (segment ++ found) (sent ++ later) ∧
            batches = later.map (·.map Entry.toDocument) := by
  induction sends with
  | finished nothing =>
      intro segment sent held begun
      have split := begun.split
      rw [begun.carries.isEmpty_iff.mp nothing] at split
      exact ⟨[], [], rfl, by rwa [List.append_nil], rfl⟩
  | @lastApplied b waiting =>
      intro segment sent held begun
      have split := begun.split
      rw [waitingBatches_of_ne_nil (begun.carries.filled waiting)] at split
      exact ⟨[], [held], rfl, by rwa [List.append_nil],
        congrArg ([·]) begun.carries.documents⟩
  | fits measured room later inductionHypothesis =>
      intro segment sent held begun
      obtain ⟨found, split, rfl, greedy, sentBatches⟩ :=
        inductionHypothesis succeeded (begun.push positive measured room)
      rw [List.append_assoc] at greedy
      exact ⟨_ :: found, split, rfl, greedy, sentBatches⟩
  | applied measured full later inductionHypothesis =>
      intro segment sent held begun
      obtain ⟨found, split, rfl, greedy, rfl⟩ :=
        inductionHypothesis succeeded (begun.pushAfter positive measured full)
      rw [List.append_assoc, List.append_assoc] at greedy
      exact ⟨_ :: found, held :: split, rfl, greedy,
        congrArg (· :: _) begun.carries.documents⟩
  | lastRefused | malformed | unencodable | refused => cases succeeded

/-! ## Where batches have to be closed -/

/-- What calls ask for, cut into segments. -/
structure Cut where
  /-- The entries that were passed on. -/
  log : List Entry
  /-- The segments that have ended. -/
  closed : List (List Entry)
  /-- The segment that goes on. -/
  current : List Entry

namespace Cut

def initial : Cut where
  log := []
  closed := []
  current := []

/-- An entry outside of transactions belongs to the current segment.  A commit ends it, and
so do the other calls; the contents of a transaction are a segment of their own. -/
def next? (c : Cut) : Call → Option Cut
  | .flush | .finish => some { c with closed := c.closed ++ [c.current], current := [] }
  | .apply e =>
      match Placement.ofEntry e with
      | .error _ => none
      | .ok place =>
          match place.role with
          | .outside => some { c with log := c.log ++ [e], current := c.current ++ [e] }
          | .single | .finalCommit =>
              (contents? (openEntries place.identity c.log ++ [e])).map fun found =>
                ⟨c.log ++ [e], c.closed ++ [c.current] ++ [found], []⟩
          | .firstOfMany | .continuation | .finalAbort => some { c with log := c.log ++ [e] }

section Placed

variable {e : Entry} {place : Placement} (placed : Placement.ofEntry e = .ok place)
include placed

theorem next?_of_outside (outside : place.isTransactional = false) (c : Cut) :
    c.next? (.apply e) = some { c with log := c.log ++ [e], current := c.current ++ [e] } := by
  have role : place.role = .outside := role_of_outside outside
  simp only [next?, placed, role]

theorem next?_of_isCommit (commits : place.isCommit = true) (c : Cut) :
    c.next? (.apply e) =
      (contents? (openEntries place.identity c.log ++ [e])).map fun found =>
        ⟨c.log ++ [e], c.closed ++ [c.current] ++ [found], []⟩ := by
  rcases role_of_isCommit commits with role | role <;> simp only [next?, placed, role]

/-- Within a transaction, only a commit ends a segment. -/
theorem next?_of_isTransactional (inside : place.isTransactional = true)
    (commits : place.isCommit = false) (c : Cut) :
    c.next? (.apply e) = some { c with log := c.log ++ [e] } := by
  simp only [next?, placed]
  cases role : place.role with
  | outside => simp [Placement.isTransactional, role] at inside
  | single | finalCommit => simp [Placement.isCommit, role] at commits
  | firstOfMany | continuation | finalAbort => rfl

end Placed

theorem log_of_next? {c d : Cut} {call : Call} (next : c.next? call = some d) :
    d.log = c.log ++ call.entry?.toList := by
  cases call with
  | flush | finish =>
      cases next
      exact (List.append_nil _).symm
  | apply e =>
      cases placed : Placement.ofEntry e with
      | error fault =>
          rw [next?, placed] at next
          cases next
      | ok place =>
          cases inside : place.isTransactional with
          | false =>
              cases (next?_of_outside placed inside c).symm.trans next
              rfl
          | true =>
              cases commits : place.isCommit with
              | false =>
                  cases (next?_of_isTransactional placed inside commits c).symm.trans next
                  rfl
              | true =>
                  rw [next?_of_isCommit placed commits] at next
                  obtain ⟨found, _, rfl⟩ := Option.map_eq_some_iff.mp next
                  rfl

end Cut

/-- What a sequence of calls asks for. -/
def cut? (calls : List Call) : Option Cut :=
  calls.foldlM Cut.next? .initial

theorem cut?_snoc (calls : List Call) (call : Call) :
    cut? (calls ++ [call]) = (cut? calls).bind fun c => c.next? call := by
  simp only [cut?, List.foldlM_append, List.foldlM_cons, List.foldlM_nil, bind_pure]
  rfl

/-! ## The invariant -/

/-- The segments that have ended were sent in these splits, and of the current segment these
batches were sent and these entries wait. -/
structure SplitInto (limits : ReplaySettings) (c : Cut) (splits : List (List (List Entry)))
    (sent : List (List Entry)) (held : List Entry) (b : Batch)
    (batches : List (List Document)) : Prop where
  closed : List.Forall₂ (GreedySplit limits) c.closed splits
  current : Begun limits c.current sent held b
  whole : batches = (splits.flatten ++ sent).map (·.map Entry.toDocument)

section Relations

variable {limits : ReplaySettings} {segment : List Entry} {sent : List (List Entry)}
  {held : List Entry} {st st' : State} {batches : List (List Document)}

/-- A flush that succeeds sends what was waiting. -/
theorem Batch.Carries.flush (carries : st.pending.Carries held)
    (flushes : Flushes st (.ok ()) st' batches) :
    batches = (waitingBatches held).map (·.map Entry.toDocument) := by
  cases flushes with
  | idle nothing =>
      rw [carries.isEmpty_iff.mp nothing]
      rfl
  | applied waiting =>
      rw [waitingBatches_of_ne_nil (carries.filled waiting), carries.documents]
      rfl

/-- A flush ends the segment. -/
theorem Begun.flush (begun : Begun limits segment sent held st.pending)
    (flushes : Flushes st (.ok ()) st' batches) : Begun limits [] [] [] st'.pending := by
  cases flushes with
  | idle nothing =>
      have carries := begun.carries
      rw [carries.isEmpty_iff.mp nothing] at carries
      exact ⟨carries, begun.within, .nil, fun _ => rfl⟩
  | applied => exact .nothing limits

/-- An entry that is put into the waiting batch goes on with the segment. -/
theorem Begun.hold {e : Entry} (begun : Begun limits segment sent held st.pending)
    (positive : 0 < limits.maxBatchOperations) (holds : Holds limits st e (.ok ()) st' batches) :
    ∃ later held', batches = later.map (·.map Entry.toDocument) ∧
      Begun limits (segment ++ [e]) (sent ++ later) held' st'.pending := by
  cases holds with
  | fits measured room =>
      refine ⟨[], held ++ [e], rfl, ?_⟩
      rw [List.append_nil]
      exact begun.push positive measured room
  | flushed measured full flush =>
      cases flush with
      | idle nothing =>
          rw [Batch.overflows_of_isEmpty nothing] at full
          cases full
      | applied waiting =>
          exact ⟨[held], [e], congrArg ([·]) begun.carries.documents,
            begun.pushAfter positive measured full⟩

end Relations

namespace SplitInto

variable {limits : ReplaySettings} {c : Cut} {splits : List (List (List Entry))}
  {sent : List (List Entry)} {held : List Entry} {st st' : State}
  {batches later : List (List Document)}

theorem initial (limits : ReplaySettings) : SplitInto limits .initial [] [] [] .empty [] where
  closed := .nil
  current := .nothing limits
  whole := rfl

/-- An entry outside of transactions goes on with the current segment. -/
theorem applyPlain {e : Entry} {place : Placement}
    (split : SplitInto limits c splits sent held st.pending batches)
    (positive : 0 < limits.maxBatchOperations) (placed : Placement.ofEntry e = .ok place)
    (outside : place.isTransactional = false)
    (holds : Holds limits st.counted e (.ok ()) st' later) :
    ∃ c' sent' held', c.next? (.apply e) = some c' ∧
      SplitInto limits c' splits sent' held' st'.pending (batches ++ later) := by
  have current : Begun limits c.current sent held st.counted.pending := split.current
  obtain ⟨more, held', rfl, begun⟩ := current.hold positive holds
  refine ⟨_, sent ++ more, held', Cut.next?_of_outside placed outside c, split.closed, begun, ?_⟩
  rw [split.whole, ← List.map_append, List.append_assoc]

/-- A call that sends what is waiting ends the current segment. -/
theorem flush (split : SplitInto limits c splits sent held st.pending batches)
    (flushes : Flushes st (.ok ()) st' later) :
    SplitInto limits { c with closed := c.closed ++ [c.current], current := [] }
      (splits ++ [sent ++ waitingBatches held]) [] [] st'.pending (batches ++ later) := by
  refine ⟨?_, split.current.flush flushes, ?_⟩
  · exact List.rel_append split.closed (.cons split.current.split .nil)
  · rw [split.whole, split.current.carries.flush flushes, ← List.map_append]
    simp

/-- A commit ends the current segment, and the contents of its transaction are the next
one. -/
theorem commit {e : Entry} {place : Placement}
    (split : SplitInto limits c splits sent held st.pending batches)
    (positive : 0 < limits.maxBatchOperations) (placed : Placement.ofEntry e = .ok place)
    (commits : place.isCommit = true)
    (gathered :
      st.ledger.entriesOf place.identity = .ok (openEntries place.identity c.log ++ [e]))
    (concludes : Concludes limits place e.timestamp st (.ok ()) st' later) :
    ∃ c' splits', c.next? (.apply e) = some c' ∧
      SplitInto limits c' splits' [] [] st'.pending (batches ++ later) := by
  cases concludes with
  | gathered plain => exact absurd commits (Bool.eq_false_iff.mp plain)
  | aborted aborts =>
      exact absurd commits (Bool.eq_false_iff.mp (isCommit_of_isAbort aborts))
  | committed commits flush read send =>
      rw [flush.documents.2.2, gathered] at read
      cases read
      have flushed := split.flush flush
      obtain ⟨found, contents, faultless, greedy, rfl⟩ :=
        send.split positive rfl (.nothing limits)
      have next := Cut.next?_of_isCommit placed commits c
      rw [contents?_of_operations faultless, Option.map_some] at next
      refine ⟨_, splits ++ [sent ++ waitingBatches held] ++ [contents], next, ?_,
        flushed.current, ?_⟩
      · exact List.rel_append flushed.closed (.cons greedy .nil)
      · rw [← List.append_assoc, flushed.whole]
        simp

/-- An entry that is applied is split as the calls ask for. -/
theorem apply {e : Entry} {documents : List Document}
    (split : SplitInto limits c splits sent held st.pending batches)
    (inOrder : InOrder c.log st documents) (positive : 0 < limits.maxBatchOperations)
    (applies : Applies limits st e (.ok ()) st' later) :
    ∃ c' splits' sent' held', c.next? (.apply e) = some c' ∧
      SplitInto limits c' splits' sent' held' st'.pending (batches ++ later) := by
  cases applies with
  | plain placed outside hold =>
      obtain ⟨c', sent', held', next, split'⟩ := split.applyPlain positive placed outside hold
      exact ⟨c', splits, sent', held', next, split'⟩
  | @entered _ _ place _ _ _ placed inside added conclude =>
      cases commits : place.isCommit with
      | true =>
          obtain ⟨first, rfl⟩ := inOrder.exists_ledger_eq_put added
          rw [phaseAt, if_pos commits] at conclude
          have entered : SplitInto limits c splits sent held
            (st.counted.entered (st.counted.ledger.put place.identity
              ⟨.committed (openEntries place.identity c.log ++ [e]), first⟩)).pending batches :=
            split
          obtain ⟨c', splits', next, split'⟩ := entered.commit positive placed commits
            (Ledger.entriesOf_put_committed _ _ _ _) conclude
          exact ⟨c', splits', [], [], next, split'⟩
      | false =>
          refine ⟨_, splits, sent, held, Cut.next?_of_isTransactional placed inside commits c, ?_⟩
          cases conclude with
          | committed commits' => exact absurd commits' (Bool.eq_false_iff.mp commits)
          | gathered | aborted =>
              rw [List.append_nil]
              exact ⟨split.closed, split.current, split.whole⟩

/-- A call that succeeds is split as it asks for. -/
theorem answer {call : Call} {answer : Answer} {documents : List Document}
    (split : SplitInto limits c splits sent held st.pending batches)
    (inOrder : InOrder c.log st documents) (positive : 0 < limits.maxBatchOperations)
    (answers : Answers limits st call answer st' later) (succeeded : answer.isOk = true) :
    ∃ c' splits' sent' held', c.next? call = some c' ∧
      SplitInto limits c' splits' sent' held' st'.pending (batches ++ later) := by
  rcases answers.of_isOk succeeded with ⟨entry, rfl, applies⟩ | ⟨entryless, flushes⟩
  · exact split.apply inOrder positive applies
  · refine ⟨_, _, [], [], ?_, split.flush flushes⟩
    cases call with
    | apply => cases entryless
    | flush | finish => rfl

end SplitInto

namespace Replayer

variable {σ : Type} {p : Replayer σ}

/-- As long as every call succeeds, the calls ask for segments, and every batch belongs to
the greedy split of one of them. -/
theorem Reaches.splitInto {outside : σ} {steps : List (Step σ)} {r : Run σ}
    (reached : p.Reaches (.initial ⟨outside, []⟩) steps r)
    (positive : 0 < p.settings.maxBatchOperations)
    (succeeded : ∀ step ∈ steps, step.answer.isOk = true) :
    ∃ c splits sent held batches, cut? (steps.map Step.call) = some c ∧
      c.log = appliedEntries steps ∧ r.acknowledged = batches.map p.session.command ∧
        SplitInto p.settings c splits sent held r.state.pending batches := by
  induction reached with
  | start => exact ⟨.initial, [], [], [], [], rfl, rfl, rfl, .initial p.settings⟩
  | @step steps before after answer call earlier ended inductionHypothesis =>
      obtain ⟨earlierOk, lastOk⟩ := List.forall_mem_append.mp succeeded
      obtain ⟨c, splits, sent, held, batches, cut, log, acknowledged, split⟩ :=
        inductionHypothesis earlierOk
      obtain ⟨later, answers, sentLater⟩ := p.answer_ends call before answer after ended
      have inOrder := earlier.inOrder earlierOk
      rw [← log] at inOrder
      obtain ⟨c', splits', sent', held', next, split'⟩ :=
        split.answer inOrder positive answers (lastOk _ List.mem_cons_self)
      refine ⟨c', splits', sent', held', batches ++ later, ?_, ?_, ?_, split'⟩
      · rw [List.map_append, List.map_singleton, cut?_snoc, cut]
        exact next
      · rw [Cut.log_of_next? next, log, appliedEntries_snoc]
      · rw [sentLater, acknowledged, List.map_append]

/-- If every call succeeds, under valid settings, the batches that were sent are the greedy
splits of the segments that the calls ask for, in order and with nothing in between.

Of the current segment the last batch still waits.  It counts its bytes, and it is within the
limits itself. -/
theorem Reaches.splits_greedily {outside : σ} {steps : List (Step σ)} {r : Run σ}
    (reached : p.Reaches (.initial ⟨outside, []⟩) steps r)
    (valid : p.settings.validate = .ok ())
    (succeeded : ∀ step ∈ steps, step.answer.isOk = true) :
    ∃ c splits sent held, cut? (steps.map Step.call) = some c ∧
      List.Forall₂ (GreedySplit p.settings) c.closed splits ∧
      GreedySplit p.settings c.current (sent ++ waitingBatches held) ∧
      r.acknowledged = (splits.flatten ++ sent).map
        (fun batch => p.session.command (batch.map Entry.toDocument)) ∧
      r.state.pending.documents = held.map Entry.toDocument ∧
      r.state.pending.bytes = bytesOf held ∧
      r.state.pending.Within p.settings := by
  obtain ⟨c, splits, sent, held, _, cut, _, acknowledged, closed, current, rfl⟩ :=
    reached.splitInto (ReplaySettings.bounds_of_validate valid).1 succeeded
  rw [List.map_map] at acknowledged
  exact ⟨c, splits, sent, held, cut, closed, current.split, acknowledged,
    current.carries.documents, current.carries.bytes, current.within⟩

end Replayer

/-! ## Inserts and a transaction in batches of two -/

/-- A replay that sends at most two entries at a time. -/
def inPairs : Replayer Unit :=
  { modest agreeable with settings := { ReplaySettings.standard with maxBatchOperations := 2 } }

/-- Three inserts, a transaction of two entries, and one more insert. -/
def mixed : List Entry :=
  [insertAt 1, partAt 2 [("partialTxn", .boolean true)], insertAt 3, insertAt 4,
   { partAt 5 [] with previous := some ⟨⟨2, 1⟩, none⟩ }, insertAt 6]

/-- The commit closes a segment of three inserts, the operations of the transaction are a
segment of their own, and the last insert waits. -/
theorem mixed_split_greedily :
    ∃ steps r c splits sent held,
      inPairs.Reaches (.initial ⟨(), []⟩) steps r ∧ appliedEntries steps = mixed ∧
        cut? (steps.map Step.call) = some c ∧ c.closed.map List.length = [3, 2] ∧
          c.current = [insertAt 6] ∧
            List.Forall₂ (GreedySplit inPairs.settings) c.closed splits ∧
              GreedySplit inPairs.settings c.current (sent ++ waitingBatches held) ∧
                r.acknowledged = (splits.flatten ++ sent).map
                  fun batch => inPairs.session.command (batch.map Entry.toDocument) := by
  have succeeds : inPairs.succeeds (mixed.map .apply) (.initial ⟨(), []⟩) = true := by
    decide +kernel
  have segments : (cut? (mixed.map .apply)).map
      (fun c => (c.closed.map List.length, c.current)) = some ([3, 2], [insertAt 6]) := by
    decide +kernel
  obtain ⟨steps, r, reached, asked, succeeded⟩ := Replayer.exists_reaches_of_succeeds succeeds
  obtain ⟨c, splits, sent, held, cut, closed, current, acknowledged, _⟩ :=
    reached.splits_greedily rfl succeeded
  rw [← asked, cut, Option.map_some, Option.some_inj, Prod.mk.injEq] at segments
  have entries : appliedEntries steps = mixed := by
    rw [appliedEntries_eq_filterMap_call, asked]
    rfl
  exact ⟨steps, r, c, splits, sent, held, reached, entries, cut, segments.1, segments.2, closed,
    current, acknowledged⟩

end LogReplay.Replay
