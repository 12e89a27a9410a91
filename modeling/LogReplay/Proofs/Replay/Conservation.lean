/-
Module: LogReplay.Proofs.Replay.Conservation
Purpose: What the counts of a replay add up to.
Main exports:
  Delivery, opensIn, openings, committedContents?, Tally.of, Conserved, AddsUp,
  Replayer.Reaches.counts_add_up
-/
import LogReplay.Proofs.Replay.InOrder

/-!
The counts are raised in many places: when an entry is placed, put into a batch or taken
into the ledger, when a batch was applied, and when a transaction is forgotten.  As long as
every call succeeds they can be told without any of these: from the log, and from the
batches that were applied.

Each batch carries either entries that waited or operations of a transaction.  So a run
keeps one list of deliveries, and each call adds to it what it sends.  The entries outside
of transactions are those that were delivered and those that wait; the operations of
committed transactions have all been delivered; and a transaction that has been opened was
committed, was aborted, or is in the ledger.
-/

namespace LogReplay.Replay

open Bson (Document Timestamp)
open Transaction

/-! ## What is told from the log -/

/-- The entry can be placed, and its place is of this kind. -/
def placedAs (kind : Placement → Bool) (e : Entry) : Bool :=
  match Placement.ofEntry e with
  | .ok place => kind place
  | .error _ => false

/-- The entry opens its transaction: as a first entry, or as an abort of a transaction that
the ledger does not know. -/
def opensIn (l : Ledger) (e : Entry) : Bool :=
  placedAs (fun place => place.isFirst || place.isAbort && !l.contains place.identity) e

/-- The operations of the transaction that an entry commits, if it commits one. -/
def committedBy? (earlier : List Entry) (e : Entry) : Option (List Entry) :=
  match Placement.ofEntry e with
  | .ok place =>
      if place.isCommit then contents? (openEntries place.identity earlier ++ [e]) else some []
  | .error _ => some []

/-- The operations of all transactions that are committed in a log; the log is given from
its newest entry on. -/
def committedBackwards? : List Entry → Option (List Entry)
  | [] => some []
  | e :: older => do
      let earlier ← committedBackwards? older
      let latest ← committedBy? older.reverse e
      some (earlier ++ latest)

/-- The operations of all transactions that are committed in a log, in order. -/
def committedContents? (log : List Entry) : Option (List Entry) :=
  committedBackwards? log.reverse

theorem committedContents?_snoc {log found latest : List Entry} {e : Entry}
    (before : committedContents? log = some found) (last : committedBy? log e = some latest) :
    committedContents? (log ++ [e]) = some (found ++ latest) := by
  rw [committedContents?] at before
  rw [committedContents?, List.reverse_append, List.reverse_singleton, List.singleton_append,
    committedBackwards?, before, List.reverse_reverse, last]
  rfl

/-! ## What was delivered -/

/-- Where a batch was put together. -/
inductive Origin where
  /-- Across calls, from entries that waited. -/
  | waiting
  /-- Within a commit, from the operations of the transaction. -/
  | transaction
deriving DecidableEq

/-- A batch that was applied. -/
structure Delivery where
  origin : Origin
  documents : List Document

namespace Delivery

/-- The deliveries of batches of the same origin. -/
def each (origin : Origin) (batches : List (List Document)) : List Delivery :=
  batches.map (mk origin)

/-- The documents that were delivered in batches of this origin, in order. -/
def documentsOf (origin : Origin) (deliveries : List Delivery) : List Document :=
  (deliveries.filter fun delivery => delivery.origin = origin).flatMap documents

@[simp] theorem length_each (origin : Origin) (batches : List (List Document)) :
    (each origin batches).length = batches.length :=
  List.length_map _

@[simp] theorem map_documents_each (origin : Origin) (batches : List (List Document)) :
    (each origin batches).map documents = batches := by
  rw [each, List.map_map]
  exact List.map_id _

@[simp] theorem documentsOf_append (origin : Origin) (one two : List Delivery) :
    documentsOf origin (one ++ two) = documentsOf origin one ++ documentsOf origin two := by
  rw [documentsOf, List.filter_append, List.flatMap_append]
  rfl

@[simp] theorem documentsOf_each (origin : Origin) (batches : List (List Document)) :
    documentsOf origin (each origin batches) = batches.flatten := by
  have all : (each origin batches).filter (fun delivery => delivery.origin = origin) =
      each origin batches :=
    List.filter_eq_self.mpr (List.forall_mem_map.mpr fun _ _ => decide_eq_true rfl)
  rw [documentsOf, all, List.flatMap_def, map_documents_each]

theorem documentsOf_each_of_ne {origin other : Origin} (different : other ≠ origin)
    (batches : List (List Document)) : documentsOf origin (each other batches) = [] := by
  have none : (each other batches).filter (fun delivery => delivery.origin = origin) = [] :=
    List.filter_eq_nil_iff.mpr (List.forall_mem_map.mpr fun _ _ => by simpa using different)
  rw [documentsOf, none]
  rfl

@[simp] theorem documentsOf_waiting_each_transaction (batches : List (List Document)) :
    documentsOf .waiting (each .transaction batches) = [] :=
  documentsOf_each_of_ne (by decide) batches

@[simp] theorem documentsOf_transaction_each_waiting (batches : List (List Document)) :
    documentsOf .transaction (each .waiting batches) = [] :=
  documentsOf_each_of_ne (by decide) batches

end Delivery

/-! ## What the counts are to be -/

open Delivery (each documentsOf)

/-- The counts that a log and its deliveries call for. -/
def Tally.of (log : List Entry) (deliveries : List Delivery) : Tally where
  entries := log.length
  operations := log.countP isOutside
  transactionEntries := log.countP (placedAs Placement.isTransactional)
  transactionOperations := (documentsOf .transaction deliveries).length
  committed := log.countP (placedAs Placement.isCommit)
  aborted := log.countP (placedAs Placement.isAbort)
  batches := deliveries.length

section Relations

variable {limits : ReplaySettings} {st st' : State} {batches : List (List Document)}

/-- A flush that succeeds counts what it sends. -/
theorem Flushes.counts (flushes : Flushes st (.ok ()) st' batches) :
    st'.tally = { st.tally with batches := st.tally.batches + batches.length } := by
  cases flushes <;> rfl

theorem Holds.counts {entry : Entry} (holds : Holds limits st entry (.ok ()) st' batches) :
    st'.tally =
      { st.tally with
        operations := st.tally.operations + 1
        batches := st.tally.batches + batches.length } := by
  cases holds with
  | fits => rfl
  | flushed _ _ flush => rw [State.pushed, flush.counts]

end Relations

section Placed

variable {e : Entry} {place : Placement} (placed : Placement.ofEntry e = .ok place)
include placed

theorem placedAs_eq (kind : Placement → Bool) : placedAs kind e = kind place := by
  rw [placedAs, placed]

theorem isOutside_eq : isOutside e = !place.isTransactional :=
  placedAs_eq placed fun place => !place.isTransactional

theorem countP_placedAs_snoc (kind : Placement → Bool) (log : List Entry) :
    (log ++ [e]).countP (placedAs kind) =
      log.countP (placedAs kind) + (kind place).toNat := by
  rw [List.countP_append, List.countP_singleton, placedAs_eq placed]
  cases kind place <;> rfl

theorem countP_isOutside_snoc (log : List Entry) :
    (log ++ [e]).countP isOutside = log.countP isOutside + (!place.isTransactional).toNat :=
  countP_placedAs_snoc placed (fun place => !place.isTransactional) log

theorem committedBy?_of_isCommit (commits : place.isCommit = true) (log : List Entry) :
    committedBy? log e = contents? (openEntries place.identity log ++ [e]) := by
  rw [committedBy?, placed]
  exact if_pos commits

theorem committedBy?_eq_nil (other : place.isCommit = false) (log : List Entry) :
    committedBy? log e = some [] := by
  rw [committedBy?, placed]
  exact if_neg (Bool.eq_false_iff.mp other)

theorem opensIn_of_outside (outside : place.isTransactional = false) (l : Ledger) :
    opensIn l e = false := by
  have role : place.role = .outside := role_of_outside outside
  rw [opensIn, placedAs_eq placed, Placement.isFirst, Placement.isAbort, role]
  rfl

/-- An accepted entry opens its transaction exactly if the ledger did not know it. -/
theorem opensIn_of_add {l after : Ledger} (added : l.add place e = .ok after) :
    opensIn l e = !l.contains place.identity := by
  obtain ⟨progress, advances, -⟩ := Ledger.exists_advances_of_add added
  rw [opensIn, placedAs_eq placed, Ledger.contains, Placement.isFirst, Placement.isAbort]
  generalize place.role = role at advances ⊢
  generalize l.progress? place.identity = record at advances ⊢
  cases advances <;> rfl

end Placed

/-! ## The invariant -/

/-- The counts are those of the log and the deliveries, and these agree on what has been
delivered. -/
structure Conserved (log : List Entry) (openings : Nat) (st : State)
    (deliveries : List Delivery) : Prop where
  tally : st.tally = .of log deliveries
  kinds : log.length = log.countP isOutside + log.countP (placedAs Placement.isTransactional)
  entries : documentsOf .waiting deliveries ++ st.pending.documents =
    (log.filter isOutside).map Entry.toDocument
  contents : ∃ found, committedContents? log = some found ∧
    documentsOf .transaction deliveries = found.map Entry.toDocument
  openings : openings = st.tally.committed + st.tally.aborted + st.ledger.size

namespace Conserved

variable {limits : ReplaySettings} {log : List Entry} {openings : Nat} {st st' : State}
  {deliveries : List Delivery} {sent : List Document} {batches : List (List Document)}

theorem initial : Conserved [] 0 .initial [] where
  tally := rfl
  kinds := rfl
  entries := rfl
  contents := ⟨[], rfl, rfl⟩
  openings := rfl

theorem flush (conserved : Conserved log openings st deliveries)
    (flushes : Flushes st (.ok ()) st' batches) :
    Conserved log openings st' (deliveries ++ each .waiting batches) := by
  obtain ⟨documents, empty, ledger⟩ := flushes.documents
  constructor
  · rw [flushes.counts, conserved.tally]
    simp [Tally.of]
  · exact conserved.kinds
  · rw [← conserved.entries, Delivery.documentsOf_append, Delivery.documentsOf_each, documents,
      empty, List.append_nil]
  · rw [Delivery.documentsOf_append, Delivery.documentsOf_transaction_each_waiting,
      List.append_nil]
    exact conserved.contents
  · rw [ledger, flushes.counts]
    exact conserved.openings

theorem applyPlain {entry : Entry} {place : Placement}
    (conserved : Conserved log openings st deliveries)
    (placed : Placement.ofEntry entry = .ok place) (outside : place.isTransactional = false)
    (holds : Holds limits st.counted entry (.ok ()) st' batches) :
    Conserved (log ++ [entry]) openings st' (deliveries ++ each .waiting batches) := by
  obtain ⟨documents, ledger⟩ : batches.flatten ++ st'.pending.documents =
      st.pending.documents ++ [entry.toDocument] ∧ st'.ledger = st.ledger := holds.documents
  have role : place.role = .outside := role_of_outside outside
  have commits : place.isCommit = false := by
    rw [Placement.isCommit, role]
    rfl
  have aborts : place.isAbort = false := by
    rw [Placement.isAbort, role]
    rfl
  have counts : st'.tally = .of (log ++ [entry]) (deliveries ++ each .waiting batches) := by
    rw [holds.counts, State.counted, conserved.tally]
    simp [Tally.of, countP_placedAs_snoc placed, countP_isOutside_snoc placed, outside, commits,
      aborts]
  constructor
  · exact counts
  · rw [List.length_append, List.length_singleton, countP_isOutside_snoc placed,
      countP_placedAs_snoc placed, outside, conserved.kinds]
    exact Nat.add_right_comm _ _ _
  · rw [Delivery.documentsOf_append, Delivery.documentsOf_each, List.append_assoc, documents,
      ← List.append_assoc, conserved.entries, List.filter_append, List.map_append,
      List.filter_cons_of_pos (by rw [isOutside_eq placed, outside]; rfl)]
    rfl
  · obtain ⟨found, contents, delivered⟩ := conserved.contents
    refine ⟨found ++ [], committedContents?_snoc contents (committedBy?_eq_nil placed commits log),
      ?_⟩
    rw [Delivery.documentsOf_append, Delivery.documentsOf_transaction_each_waiting, delivered,
      List.append_nil, List.append_nil]
  · rw [ledger, holds.counts]
    exact conserved.openings

/-- The counts of an entry that is taken into the ledger, and may end its transaction. -/
theorem tally_of_snoc {entry : Entry} {place : Placement}
    (placed : Placement.ofEntry entry = .ok place) (inside : place.isTransactional = true)
    (log : List Entry) (deliveries new : List Delivery) :
    Tally.of (log ++ [entry]) (deliveries ++ new) =
      let before := Tally.of log deliveries
      { before with
        entries := before.entries + 1
        transactionEntries := before.transactionEntries + 1
        transactionOperations :=
          before.transactionOperations + (documentsOf .transaction new).length
        committed := before.committed + place.isCommit.toNat
        aborted := before.aborted + place.isAbort.toNat
        batches := before.batches + new.length } := by
  simp [Tally.of, countP_placedAs_snoc placed, countP_isOutside_snoc placed, inside]

/-- What has to be known of an entry that was taken into the ledger. -/
theorem applyInside {entry : Entry} {place : Placement} {new : List Delivery}
    (conserved : Conserved log openings st deliveries)
    (placed : Placement.ofEntry entry = .ok place) (inside : place.isTransactional = true)
    (counts : st'.tally = .of (log ++ [entry]) (deliveries ++ new))
    (waiting : documentsOf .waiting new ++ st'.pending.documents = st.pending.documents)
    (contents : ∃ latest, committedBy? log entry = some latest ∧
      documentsOf .transaction new = latest.map Entry.toDocument)
    (size : place.isCommit.toNat + place.isAbort.toNat + st'.ledger.size =
      (opensIn st.ledger entry).toNat + st.ledger.size) :
    Conserved (log ++ [entry]) (openings + (opensIn st.ledger entry).toNat) st'
      (deliveries ++ new) := by
  have skipped : isOutside entry = false := by
    rw [isOutside_eq placed, inside]
    rfl
  constructor
  · exact counts
  · rw [List.length_append, List.length_singleton, countP_isOutside_snoc placed,
      countP_placedAs_snoc placed, inside, conserved.kinds]
    rfl
  · rw [Delivery.documentsOf_append, List.append_assoc, waiting, conserved.entries,
      List.filter_append, List.filter_cons_of_neg (Bool.eq_false_iff.mp skipped),
      List.filter_nil, List.append_nil]
  · obtain ⟨found, before, delivered⟩ := conserved.contents
    obtain ⟨latest, own, deliveredNow⟩ := contents
    refine ⟨found ++ latest, committedContents?_snoc before own, ?_⟩
    rw [Delivery.documentsOf_append, delivered, deliveredNow, List.map_append]
  · have opened := conserved.openings
    rw [conserved.tally] at opened
    rw [counts, tally_of_snoc placed inside]
    dsimp only
    omega

/-- An accepted entry is counted, and what it asks for is delivered if it commits. -/
theorem enter {entry : Entry} {place : Placement} {ledger : Ledger}
    (conserved : Conserved log openings st deliveries) (inOrder : InOrder log st sent)
    (placed : Placement.ofEntry entry = .ok place) (inside : place.isTransactional = true)
    (added : st.ledger.add place entry = .ok ledger)
    (concludes : Concludes limits place entry.timestamp (st.counted.entered ledger) (.ok ()) st'
      batches) :
    ∃ new : List Delivery, batches = new.map Delivery.documents ∧
      Conserved (log ++ [entry]) (openings + (opensIn st.ledger entry).toNat) st'
        (deliveries ++ new) := by
  obtain ⟨first, put⟩ := inOrder.exists_ledger_eq_put added
  have held : ledger.size = (opensIn st.ledger entry).toNat + st.ledger.size := by
    rw [opensIn_of_add placed added, ← st.ledger.size_purge place.identity, put, Ledger.size_put]
    cases st.ledger.contains place.identity <;> simp +arith
  have ended : (ledger.purge place.identity).size + 1 =
      (opensIn st.ledger entry).toNat + st.ledger.size := by
    rw [← held, put, Ledger.size_purge_put, Ledger.size_put]
  cases concludes with
  | gathered commits aborts =>
      refine ⟨[], rfl, conserved.applyInside placed inside ?_ rfl ?_ ?_⟩
      · rw [tally_of_snoc placed inside, ← conserved.tally, commits, aborts]
        rfl
      · exact ⟨[], committedBy?_eq_nil placed commits log, rfl⟩
      · rw [← held, commits, aborts]
        exact Nat.zero_add _
  | aborted aborts =>
      have commits : place.isCommit = false := isCommit_of_isAbort aborts
      refine ⟨[], rfl, conserved.applyInside placed inside ?_ rfl ?_ ?_⟩
      · rw [tally_of_snoc placed inside, ← conserved.tally, commits, aborts]
        rfl
      · exact ⟨[], committedBy?_eq_nil placed commits log, rfl⟩
      · rw [← ended, commits, aborts, Nat.add_comm]
        rfl
  | @committed flushed _ waiting sentBatches commits flush read send =>
      have aborts : place.isAbort = false := isAbort_of_isCommit commits
      obtain ⟨documents, empty, same⟩ : waiting.flatten = st.pending.documents ∧
          flushed.pending.documents = [] ∧ flushed.ledger = ledger := flush.documents
      rw [same, put, phaseAt, if_pos commits, Ledger.entriesOf_put_committed] at read
      cases read
      obtain ⟨found, faultless, sentDocuments⟩ := send.documents rfl
      refine ⟨each .waiting waiting ++ each .transaction sentBatches, by simp,
        conserved.applyInside placed inside ?_ ?_ ?_ ?_⟩
      · rw [tally_of_snoc placed inside, ← conserved.tally, commits, aborts, State.committed,
          State.sent, flush.counts]
        simp [State.entered, State.counted, Nat.add_assoc]
      · have left : ((flushed.sent sentBatches).committed place.identity
            entry.timestamp).pending.documents = [] := empty
        rw [left, Delivery.documentsOf_append, Delivery.documentsOf_each,
          Delivery.documentsOf_waiting_each_transaction, documents, List.append_nil,
          List.append_nil]
      · refine ⟨found, ?_, ?_⟩
        · rw [committedBy?_of_isCommit placed commits]
          exact contents?_of_operations faultless
        · rw [Delivery.documentsOf_append, Delivery.documentsOf_transaction_each_waiting,
            Delivery.documentsOf_each, sentDocuments]
          rfl
      · rw [← ended, commits, aborts, Nat.add_comm, State.committed, State.sent, same]
        rfl

/-- A call that succeeds keeps the counts: what it sends is delivered. -/
theorem answer {call : Call} {answer : Answer}
    (conserved : Conserved log openings st deliveries) (inOrder : InOrder log st sent)
    (answers : Answers limits st call answer st' batches) (succeeded : answer.isOk = true) :
    ∃ new : List Delivery, batches = new.map Delivery.documents ∧
      Conserved (log ++ call.entry?.toList)
        (openings + (call.entry?.any (opensIn st.ledger)).toNat) st' (deliveries ++ new) := by
  rcases answers.of_isOk succeeded with ⟨entry, rfl, applies⟩ | ⟨entryless, flushes⟩
  · cases applies with
    | plain placed outside hold =>
        refine ⟨each .waiting batches, (Delivery.map_documents_each _ _).symm, ?_⟩
        rw [Call.entry?, Option.any_some, opensIn_of_outside placed outside]
        exact conserved.applyPlain placed outside hold
    | entered placed inside added conclude =>
        exact conserved.enter inOrder placed inside added conclude
  · refine ⟨each .waiting batches, (Delivery.map_documents_each _ _).symm, ?_⟩
    rw [entryless, Option.toList_none, List.append_nil]
    exact conserved.flush flushes

end Conserved

/-! ## Runs -/

/-- The number of times that a transaction was opened. -/
def openings {σ : Type} (steps : List (Step σ)) : Nat :=
  steps.countP fun step => step.call.entry?.any (opensIn step.before.state.ledger)

theorem openings_snoc {σ : Type} (steps : List (Step σ)) (step : Step σ) :
    openings (steps ++ [step]) =
      openings steps + (step.call.entry?.any (opensIn step.before.state.ledger)).toNat := by
  rw [openings, List.countP_append, List.countP_singleton]
  cases step.call.entry?.any (opensIn step.before.state.ledger) <;> rfl

/-- The counts after a run add up. -/
structure AddsUp {σ : Type} (steps : List (Step σ)) (r : Run σ) (deliveries : List Delivery) :
    Prop where
  /-- Each entry that was applied is counted once, and as one of two kinds. -/
  entries : r.state.tally.entries = (appliedEntries steps).length
  kinds : r.state.tally.entries = r.state.tally.operations + r.state.tally.transactionEntries
  /-- The entries outside of transactions wait or were delivered, in the order of the log. -/
  operations : r.state.tally.operations =
    r.state.pending.size + (documentsOf .waiting deliveries).length
  outside : documentsOf .waiting deliveries ++ r.state.pending.documents =
    ((appliedEntries steps).filter isOutside).map Entry.toDocument
  /-- The operations of committed transactions were delivered, in the order of the log. -/
  transactionOperations : ∃ found, committedContents? (appliedEntries steps) = some found ∧
    documentsOf .transaction deliveries = found.map Entry.toDocument ∧
      r.state.tally.transactionOperations = found.length
  batches : r.state.tally.batches = r.acknowledged.length
  filled : ∀ delivery ∈ deliveries, delivery.documents ≠ []
  committed : r.state.tally.committed =
    (appliedEntries steps).countP (placedAs Placement.isCommit)
  aborted : r.state.tally.aborted = (appliedEntries steps).countP (placedAs Placement.isAbort)
  /-- A transaction that was opened was committed, was aborted, or is in the ledger. -/
  openings : openings steps =
    r.state.tally.committed + r.state.tally.aborted + r.state.ledger.size

namespace Replayer

variable {σ : Type} {p : Replayer σ}

theorem Reaches.conserves {outside : σ} {steps : List (Step σ)} {r : Run σ}
    (reached : p.Reaches (.initial ⟨outside, []⟩) steps r)
    (succeeded : ∀ step ∈ steps, step.answer.isOk = true) :
    ∃ deliveries : List Delivery,
      r.acknowledged = deliveries.map (fun delivery => p.session.command delivery.documents) ∧
        Conserved (appliedEntries steps) (openings steps) r.state deliveries := by
  induction reached with
  | start => exact ⟨[], rfl, .initial⟩
  | @step steps before after answer call earlier ended inductionHypothesis =>
      obtain ⟨earlierOk, lastOk⟩ := List.forall_mem_append.mp succeeded
      obtain ⟨deliveries, acknowledged, conserved⟩ := inductionHypothesis earlierOk
      obtain ⟨batches, answers, sent⟩ := p.answer_ends call before answer after ended
      obtain ⟨new, rfl, conservedNow⟩ :=
        conserved.answer (earlier.inOrder earlierOk) answers (lastOk _ List.mem_cons_self)
      refine ⟨deliveries ++ new, ?_, ?_⟩
      · rw [sent, acknowledged, List.map_append, List.map_map]
        rfl
      · rw [appliedEntries_snoc, openings_snoc]
        exact conservedNow

/-- As long as every call succeeds the counts add up: every batch that was applied is a
delivery of entries that waited, or of operations of a transaction, and nothing is counted
that was not delivered, is not waiting and is not in the ledger. -/
theorem Reaches.counts_add_up {outside : σ} {steps : List (Step σ)} {r : Run σ}
    (reached : p.Reaches (.initial ⟨outside, []⟩) steps r)
    (succeeded : ∀ step ∈ steps, step.answer.isOk = true) :
    ∃ deliveries : List Delivery,
      r.acknowledged = deliveries.map (fun delivery => p.session.command delivery.documents) ∧
        AddsUp steps r deliveries := by
  obtain ⟨deliveries, acknowledged, conserved⟩ := reached.conserves succeeded
  obtain ⟨found, contents, delivered⟩ := conserved.contents
  have outsideCount := congrArg List.length conserved.entries
  rw [List.length_append, List.length_map, ← List.countP_eq_length_filter] at outsideCount
  exact ⟨deliveries, acknowledged,
    { entries := by rw [conserved.tally, Tally.of]
      kinds := by
        rw [conserved.tally]
        exact conserved.kinds
      operations := by
        rw [conserved.tally, Tally.of, ← outsideCount, Nat.add_comm]
        rfl
      outside := conserved.entries
      transactionOperations := by
        refine ⟨found, contents, delivered, ?_⟩
        rw [conserved.tally, Tally.of, delivered, List.length_map]
      batches := by rw [conserved.tally, Tally.of, acknowledged, List.length_map]
      filled := by
        intro delivery member
        have command := (reached.acknowledged_commands _
          (acknowledged ▸ List.mem_map_of_mem member)).1
        rwa [Session.command, Session.carried_batchCommand] at command
      committed := by rw [conserved.tally, Tally.of]
      aborted := by rw [conserved.tally, Tally.of]
      openings := conserved.openings }⟩

end Replayer

/-! ## A run with all kinds of entries -/

/-- An abort of a transaction of another session. -/
def abortAt (time : UInt32) (session : Int32) : Entry :=
  { partAt time [] with
    body := [("abortTransaction", .int32 1)]
    session := some [("id", .int32 session)] }

/-- A transaction that commits around an insert, two that are aborted, one of them unseen,
one that stays open, and an insert that waits. -/
def assorted : List Entry :=
  interleaved ++
    [{ partAt 4 [("partialTxn", .boolean true)] with session := some [("id", .int32 8)] },
     abortAt 5 8, abortAt 6 9,
     { partAt 7 [("partialTxn", .boolean true)] with session := some [("id", .int32 9)] },
     insertAt 8]

theorem assorted_counts_add_up :
    ∃ steps r deliveries,
      (modest agreeable).Reaches (.initial ⟨(), []⟩) steps r ∧
        appliedEntries steps = assorted ∧ r.state.tally = ⟨8, 2, 6, 2, 1, 2, 2⟩ ∧
          openings steps = 4 ∧ AddsUp steps r deliveries := by
  have computed : ((modest agreeable).perform (assorted.map .apply) (.initial ⟨(), []⟩)).map
      (fun run => (run.1.all fun step => step.answer.isOk, run.2.state.tally, openings run.1)) =
        some (true, ⟨8, 2, 6, 2, 1, 2, 2⟩, 4) := by
    decide +kernel
  obtain ⟨⟨steps, r⟩, performed, found⟩ := Option.map_eq_some_iff.mp computed
  simp only [Prod.mk.injEq, List.all_eq_true] at found
  obtain ⟨succeeded, tally, opened⟩ := found
  obtain ⟨reached, asked⟩ := Replayer.reaches_of_perform performed
  obtain ⟨deliveries, -, addsUp⟩ := reached.counts_add_up succeeded
  have entries : appliedEntries steps = assorted := by
    rw [appliedEntries_eq_filterMap_call, asked]
    rfl
  exact ⟨steps, r, deliveries, reached, entries, tally, opened, addsUp⟩

end LogReplay.Replay
