/-
Module: LogReplay.Proofs.Replay.Effects
Purpose: Everything that applying an entry and sending what is waiting can do to the
  state of a replay, and which batches are acknowledged on the way.
Main exports:
  Flushes, Sends, Concludes, Applies, Replayer.flush_ends, Replayer.apply_ends
-/
import LogReplay.Proofs.Session.Acknowledged
import LogReplay.Proofs.Transaction.Reporting
import LogReplay.Replay.Replayer

/-!
A destination may accept or refuse any batch, and that is all a replay ever learns
from it.  So what a call does is a relation between the state before it, its result,
the state after it, and the batches that were acknowledged in between, in order.
Each relation has one constructor for each way in which its act can end.

The theorems say that the acts stay within the relations over any session.  All that
is true of every run can then be derived from the relations, without looking at
attempts, probes or replies again.
-/

namespace LogReplay.Replay

open Bson (Document Timestamp)
open Transaction

/-! ## The relations -/

namespace State

/-- The waiting batch has been taken out. -/
def emptied (st : State) : State :=
  { st with pending := .empty }

/-- The waiting batch has been applied. -/
def flushed (st : State) : State where
  ledger := st.ledger
  pending := .empty
  tally := { st.tally with batches := st.tally.batches + 1 }
  lastApplied := st.pending.last.or st.lastApplied

/-- An entry has been placed. -/
def counted (st : State) : State :=
  { st with tally := { st.tally with entries := st.tally.entries + 1 } }

/-- An entry has been put into the waiting batch. -/
def pushed (st : State) (entry : Entry) (bytes : Nat) : State :=
  { st with
    pending := st.pending.push entry bytes
    tally := { st.tally with operations := st.tally.operations + 1 } }

/-- An entry has been taken into the ledger. -/
def entered (st : State) (ledger : Ledger) : State :=
  { st with
    ledger
    tally := { st.tally with transactionEntries := st.tally.transactionEntries + 1 } }

/-- Batches of a transaction have been applied. -/
def sent (st : State) (batches : List (List Document)) : State :=
  { st with
    tally :=
      { st.tally with
        batches := st.tally.batches + batches.length
        transactionOperations := st.tally.transactionOperations + batches.flatten.length } }

theorem sent_sent (st : State) (one two : List (List Document)) :
    (st.sent one).sent two = st.sent (one ++ two) := by
  simp [sent, Nat.add_assoc]

/-- A transaction has been aborted and forgotten. -/
def aborted (st : State) (id : Identity) : State :=
  { st with
    ledger := st.ledger.purge id
    tally := { st.tally with aborted := st.tally.aborted + 1 } }

/-- A transaction has been committed and forgotten. -/
def committed (st : State) (id : Identity) (timestamp : Timestamp) : State where
  ledger := st.ledger.purge id
  pending := st.pending
  tally := { st.tally with committed := st.tally.committed + 1 }
  lastApplied := some timestamp

end State

/-- Sending the waiting batch.  It is gone afterwards, whatever comes of it. -/
inductive Flushes : State → Except Fault Unit → State → List (List Document) → Prop where
  | idle {st : State} (nothing : st.pending.isEmpty = true) :
      Flushes st (.ok ()) st []
  | applied {st : State} (waiting : st.pending.isEmpty = false) :
      Flushes st (.ok ()) st.flushed [st.pending.documents]
  | lost {st : State} (fault : Fault) (waiting : st.pending.isEmpty = false) :
      Flushes st (.error fault) st.emptied []

/-- Putting an entry into the waiting batch. -/
inductive Holds (limits : ReplaySettings) :
    State → Entry → Except Fault Unit → State → List (List Document) → Prop where
  | unencodable {st : State} {entry : Entry} (formless : entry.encodedLength? = none) :
      Holds limits st entry (.error .unencodable) st []
  | fits {st : State} {entry : Entry} {bytes : Nat}
      (measured : entry.encodedLength? = some bytes)
      (room : st.pending.overflows limits bytes = false) :
      Holds limits st entry (.ok ()) (st.pushed entry bytes) []
  | unflushed {st st' : State} {entry : Entry} {bytes : Nat} {fault : Fault}
      {batches : List (List Document)}
      (measured : entry.encodedLength? = some bytes)
      (full : st.pending.overflows limits bytes = true)
      (flush : Flushes st (.error fault) st' batches) :
      Holds limits st entry (.error fault) st' batches
  | flushed {st st' : State} {entry : Entry} {bytes : Nat} {batches : List (List Document)}
      (measured : entry.encodedLength? = some bytes)
      (full : st.pending.overflows limits bytes = true)
      (flush : Flushes st (.ok ()) st' batches) :
      Holds limits st entry (.ok ()) (st'.pushed entry bytes) batches

/-- Sending operations in batches, of which the given one has been begun. -/
inductive Sends (limits : ReplaySettings) :
    Batch → List (Except Fault Entry) → Except Fault Unit → List (List Document) → Prop where
  | finished {batch : Batch} (nothing : batch.isEmpty = true) :
      Sends limits batch [] (.ok ()) []
  | lastApplied {batch : Batch} (waiting : batch.isEmpty = false) :
      Sends limits batch [] (.ok ()) [batch.documents]
  | lastRefused {batch : Batch} (fault : Fault) (waiting : batch.isEmpty = false) :
      Sends limits batch [] (.error fault) []
  | malformed {batch : Batch} (fault : Fault) (rest : List (Except Fault Entry)) :
      Sends limits batch (.error fault :: rest) (.error fault) []
  | unencodable {batch : Batch} {operation : Entry} {rest : List (Except Fault Entry)}
      (formless : operation.encodedLength? = none) :
      Sends limits batch (.ok operation :: rest) (.error .unencodable) []
  | fits {batch : Batch} {operation : Entry} {bytes : Nat}
      {rest : List (Except Fault Entry)} {result : Except Fault Unit}
      {batches : List (List Document)}
      (measured : operation.encodedLength? = some bytes)
      (room : batch.overflows limits bytes = false)
      (later : Sends limits (batch.push operation bytes) rest result batches) :
      Sends limits batch (.ok operation :: rest) result batches
  | applied {batch : Batch} {operation : Entry} {bytes : Nat}
      {rest : List (Except Fault Entry)} {result : Except Fault Unit}
      {batches : List (List Document)}
      (measured : operation.encodedLength? = some bytes)
      (full : batch.overflows limits bytes = true)
      (later : Sends limits (Batch.empty.push operation bytes) rest result batches) :
      Sends limits batch (.ok operation :: rest) result (batch.documents :: batches)
  | refused {batch : Batch} {operation : Entry} {bytes : Nat}
      {rest : List (Except Fault Entry)} (fault : Fault)
      (measured : operation.encodedLength? = some bytes)
      (full : batch.overflows limits bytes = true) :
      Sends limits batch (.ok operation :: rest) (.error fault) []

/-- Carrying out what an entry asks for that has been taken into the ledger. -/
inductive Concludes (limits : ReplaySettings) (place : Placement) (timestamp : Timestamp) :
    State → Except Fault Unit → State → List (List Document) → Prop where
  | gathered {st : State} (commits : place.isCommit = false) (aborts : place.isAbort = false) :
      Concludes limits place timestamp st (.ok ()) st []
  | aborted {st : State} (aborts : place.isAbort = true) :
      Concludes limits place timestamp st (.ok ()) (st.aborted place.identity) []
  | unflushed {st st' : State} {fault : Fault} {batches : List (List Document)}
      (commits : place.isCommit = true) (flush : Flushes st (.error fault) st' batches) :
      Concludes limits place timestamp st (.error fault) st' batches
  | unreadable {st st' : State} {fault : Fault} {batches : List (List Document)}
      (commits : place.isCommit = true) (flush : Flushes st (.ok ()) st' batches)
      (missing : st'.ledger.entriesOf place.identity = .error fault) :
      Concludes limits place timestamp st (.error fault) st' batches
  | unsent {st st' : State} {fault : Fault} {entries : List Entry}
      {batches batches' : List (List Document)}
      (commits : place.isCommit = true) (flush : Flushes st (.ok ()) st' batches)
      (read : st'.ledger.entriesOf place.identity = .ok entries)
      (send : Sends limits .empty (operations entries) (.error fault) batches') :
      Concludes limits place timestamp st (.error fault) (st'.sent batches')
        (batches ++ batches')
  | committed {st st' : State} {entries : List Entry}
      {batches batches' : List (List Document)}
      (commits : place.isCommit = true) (flush : Flushes st (.ok ()) st' batches)
      (read : st'.ledger.entriesOf place.identity = .ok entries)
      (send : Sends limits .empty (operations entries) (.ok ()) batches') :
      Concludes limits place timestamp st (.ok ())
        ((st'.sent batches').committed place.identity timestamp) (batches ++ batches')

/-- Taking in an entry of the log. -/
inductive Applies (limits : ReplaySettings) :
    State → Entry → Except Fault Unit → State → List (List Document) → Prop where
  | misplaced {st : State} {entry : Entry} {fault : Fault}
      (placed : Placement.ofEntry entry = .error fault) :
      Applies limits st entry (.error fault) st []
  | plain {st st' : State} {entry : Entry} {place : Placement} {result : Except Fault Unit}
      {batches : List (List Document)}
      (placed : Placement.ofEntry entry = .ok place) (outside : place.isTransactional = false)
      (hold : Holds limits st.counted entry result st' batches) :
      Applies limits st entry result st' batches
  | refused {st : State} {entry : Entry} {place : Placement} {fault : Fault}
      (placed : Placement.ofEntry entry = .ok place) (inside : place.isTransactional = true)
      (refusal : st.ledger.add place entry = .error fault) :
      Applies limits st entry (.error fault) st.counted []
  | entered {st st' : State} {entry : Entry} {place : Placement} {ledger : Ledger}
      {result : Except Fault Unit} {batches : List (List Document)}
      (placed : Placement.ofEntry entry = .ok place) (inside : place.isTransactional = true)
      (added : st.ledger.add place entry = .ok ledger)
      (conclude :
        Concludes limits place entry.timestamp (st.counted.entered ledger) result st' batches) :
      Applies limits st entry result st' batches

/-! ## Nothing empty is sent -/

section Relations

variable {limits : ReplaySettings} {st st' : State} {result : Except Fault Unit}
  {batches : List (List Document)}

theorem Batch.documents_ne_nil {batch : Batch} (waiting : batch.isEmpty = false) :
    batch.documents ≠ [] := by
  intro empty
  rw [isEmpty, empty] at waiting
  cases waiting

theorem Batch.documents_ne_nil_of_overflows {batch : Batch} {bytes : Nat}
    (full : batch.overflows limits bytes = true) : batch.documents ≠ [] := by
  simp only [overflows, Bool.and_eq_true, Bool.not_eq_true'] at full
  exact documents_ne_nil full.1

theorem Flushes.ne_nil (flushes : Flushes st result st' batches) :
    ∀ documents ∈ batches, documents ≠ [] := by
  cases flushes with
  | applied waiting =>
      intro documents member
      rw [List.mem_singleton.mp member]
      exact Batch.documents_ne_nil waiting
  | idle | lost => exact List.forall_mem_nil _

theorem Holds.ne_nil {entry : Entry} (holds : Holds limits st entry result st' batches) :
    ∀ documents ∈ batches, documents ≠ [] := by
  cases holds with
  | unencodable | fits => exact List.forall_mem_nil _
  | unflushed _ _ flush | flushed _ _ flush => exact flush.ne_nil

theorem Sends.ne_nil {batch : Batch} {operations : List (Except Fault Entry)}
    (sends : Sends limits batch operations result batches) :
    ∀ documents ∈ batches, documents ≠ [] := by
  induction sends with
  | lastApplied waiting =>
      intro documents member
      rw [List.mem_singleton.mp member]
      exact Batch.documents_ne_nil waiting
  | fits _ _ _ inductionHypothesis => exact inductionHypothesis
  | applied _ full _ inductionHypothesis =>
      exact List.forall_mem_cons.mpr
        ⟨Batch.documents_ne_nil_of_overflows full, inductionHypothesis⟩
  | finished | lastRefused | malformed | unencodable | refused => exact List.forall_mem_nil _

theorem Concludes.ne_nil {place : Placement} {timestamp : Timestamp}
    (concludes : Concludes limits place timestamp st result st' batches) :
    ∀ documents ∈ batches, documents ≠ [] := by
  cases concludes with
  | gathered | aborted => exact List.forall_mem_nil _
  | unflushed _ flush | unreadable _ flush _ => exact flush.ne_nil
  | unsent _ flush _ send | committed _ flush _ send =>
      exact List.forall_mem_append.mpr ⟨flush.ne_nil, send.ne_nil⟩

theorem Applies.ne_nil {entry : Entry} (applies : Applies limits st entry result st' batches) :
    ∀ documents ∈ batches, documents ≠ [] := by
  cases applies with
  | misplaced | refused => exact List.forall_mem_nil _
  | plain _ _ hold => exact hold.ne_nil
  | entered _ _ _ conclude => exact conclude.ne_nil

end Relations

/-! ## The acts stay within the relations -/

/-- The commands of the batches acknowledged so far. -/
def Run.acknowledged {σ : Type} (r : Run σ) : List Document :=
  LogReplay.acknowledged r.world.trace

/-- Reports acknowledge nothing. -/
theorem Run.acknowledged_record {σ : Type} {events : List Event} (r : Run σ)
    (reports : ∀ event ∈ events, event.isReport = true) :
    (r.record events).acknowledged = r.acknowledged := by
  apply acknowledged_append
  intro event member
  have report := reports event member
  cases event <;> first | rfl | cases report

/-- Reports are no commands. -/
theorem commands_append_reports (trace : List Event) {events : List Event}
    (reports : ∀ event ∈ events, event.isReport = true) :
    World.commands (trace ++ events) = World.commands trace := by
  have silent : World.commands events = [] := by
    apply List.filterMap_eq_nil_iff.mpr
    intro event member
    have report := reports event member
    cases event <;> first | rfl | cases report
  rw [World.commands, List.filterMap_append, ← World.commands, ← World.commands, silent,
    List.append_nil]

namespace Replayer

variable {σ : Type} (p : Replayer σ)

/-- Between two states of a run exactly these batches have been acknowledged. -/
def Acknowledges (before after : Run σ) (batches : List (List Document)) : Prop :=
  after.acknowledged = before.acknowledged ++ batches.map p.session.command

variable {p}

theorem Acknowledges.none {before after : Run σ}
    (same : after.acknowledged = before.acknowledged) : p.Acknowledges before after [] := by
  rw [Acknowledges, same, List.map_nil, List.append_nil]

theorem Acknowledges.trans {first middle last : Run σ} {one two : List (List Document)}
    (earlier : p.Acknowledges first middle one) (later : p.Acknowledges middle last two) :
    p.Acknowledges first last (one ++ two) := by
  rw [Acknowledges, later, earlier, List.map_append, List.append_assoc]

variable (p)

/-- Applying a batch leaves alone what the replay remembers. -/
theorem applyBatch_ends (entries : List Document) (r : Run σ) :
    (inWorld (p.session.applyBatch entries)).Ends r fun result t =>
      t.state = r.state ∧
        match result with
        | .ok _ => p.Acknowledges r t [entries]
        | .error _ => p.Acknowledges r t [] := by
  refine Act.ends_within.mpr ((Session.applyBatch_ends entries r.world).mono ?_)
  rintro (fault | reply) w ended
  · exact ⟨rfl, .none ended⟩
  · exact ⟨rfl, ended⟩

theorem flush_ends (r : Run σ) :
    p.flush.Ends r fun result t =>
      ∃ batches, Flushes r.state result t.state batches ∧ p.Acknowledges r t batches := by
  rw [flush]
  simp only [Act.ends_bind, Act.ends_read]
  cases waiting : r.state.pending.isEmpty with
  | true =>
      rw [if_pos rfl, Act.ends_pure]
      exact ⟨[], .idle waiting, .none rfl⟩
  | false =>
      rw [if_neg Bool.false_ne_true]
      simp only [Act.ends_bind, Act.ends_change]
      refine (p.applyBatch_ends r.state.pending.documents _).mono ?_
      rintro (fault | reply) ⟨world, state⟩ ⟨rfl, sent⟩
      · exact ⟨[], .lost fault waiting, sent⟩
      · exact ⟨[r.state.pending.documents], .applied waiting, sent⟩

theorem applyPlain_ends (entry : Entry) (r : Run σ) :
    (p.applyPlain entry).Ends r fun result t =>
      ∃ batches,
        Holds p.settings r.state entry result t.state batches ∧
          p.Acknowledges r t batches := by
  rw [applyPlain]
  cases measured : entry.encodedLength? with
  | none =>
      rw [Act.ends_fail]
      exact ⟨[], .unencodable measured, .none rfl⟩
  | some bytes =>
      simp only [Act.ends_bind, Act.ends_read]
      split
      next full =>
        simp only [Act.ends_bind, Act.ends_change]
        refine (p.flush_ends r).mono ?_
        rintro (fault | ⟨⟩) t ⟨batches, flush, sent⟩
        · exact ⟨batches, .unflushed measured full flush, sent⟩
        · exact ⟨batches, .flushed measured full flush, sent⟩
      next room =>
        simp only [Act.ends_bind, Act.ends_change]
        exact ⟨[], .fits measured (Bool.eq_false_iff.mpr room), .none rfl⟩

/-- Sending operations changes nothing but the counts of what was sent. -/
def SendsWithin (batch : Batch) (operations : List (Except Fault Entry)) (r : Run σ)
    (result : Except Fault Unit) (t : Run σ) : Prop :=
  ∃ batches,
    Sends p.settings batch operations result batches ∧ t.state = r.state.sent batches ∧
      p.Acknowledges r t batches

theorem sendTransactionBatch_ends (batch : Batch) (r : Run σ) :
    (p.sendTransactionBatch batch).Ends r fun result t =>
      match result with
      | .ok () => t.state = r.state.sent [batch.documents] ∧
          p.Acknowledges r t [batch.documents]
      | .error _ => t.state = r.state ∧ p.Acknowledges r t [] := by
  rw [sendTransactionBatch]
  simp only [Act.ends_bind, Act.ends_change]
  refine (p.applyBatch_ends batch.documents r).mono ?_
  rintro (fault | reply) ⟨world, state⟩ ⟨rfl, sent⟩
  · exact ⟨rfl, sent⟩
  · refine ⟨?_, sent⟩
    simp [Run.count, Run.update, State.sent, Batch.size]

theorem sendOperations_ends (operations : List (Except Fault Entry)) :
    ∀ (batch : Batch) (handedOut : Nat) (r : Run σ),
      (p.sendOperations batch handedOut operations).Ends r
        (p.SendsWithin batch operations r) := by
  induction operations with
  | nil =>
      intro batch handedOut r
      rw [sendOperations]
      simp only [Act.ends_bind, Act.ends_change]
      have finished : (r.record [.readerFinished handedOut]).acknowledged = r.acknowledged :=
        r.acknowledged_record (by simp [Event.isReport])
      cases waiting : batch.isEmpty with
      | true =>
          rw [if_pos rfl, Act.ends_pure]
          exact ⟨[], .finished waiting, rfl, .none finished⟩
      | false =>
          rw [if_neg Bool.false_ne_true]
          refine (p.sendTransactionBatch_ends batch _).mono ?_
          rintro (fault | ⟨⟩) t ⟨state, sent⟩
          · exact ⟨[], .lastRefused fault waiting, state, (Acknowledges.none finished).trans sent⟩
          · exact ⟨[batch.documents], .lastApplied waiting, state,
              (Acknowledges.none finished).trans sent⟩
  | cons head rest inductionHypothesis =>
      intro batch handedOut r
      cases head with
      | error fault =>
          rw [sendOperations, Act.ends_fail]
          exact ⟨[], .malformed fault rest, rfl, .none rfl⟩
      | ok operation =>
          rw [sendOperations]
          have abandoned : ∀ t : Run σ,
              (t.record [.readerAbandoned]).acknowledged = t.acknowledged :=
            fun t => t.acknowledged_record (by simp [Event.isReport])
          cases measured : operation.encodedLength? with
          | none =>
              simp only [Act.ends_bind, Act.ends_change, Act.ends_fail]
              exact ⟨[], .unencodable measured, rfl, .none (abandoned r)⟩
          | some bytes =>
              simp only [Act.ends_bind, Act.ends_onFault, makeRoom]
              split
              next full =>
                simp only [Act.ends_bind, Act.ends_pure]
                refine (p.sendTransactionBatch_ends batch r).mono ?_
                rintro (fault | ⟨⟩) t ⟨state, sent⟩
                · exact ⟨[], .refused fault measured full, state,
                    sent.trans (.none (abandoned t))⟩
                · refine (inductionHypothesis _ (handedOut + 1) t).mono ?_
                  rintro result u ⟨batches, later, stateLater, sentLater⟩
                  refine ⟨batch.documents :: batches, .applied measured full later, ?_,
                    sent.trans sentLater⟩
                  rw [stateLater, state, State.sent_sent]
                  rfl
              next room =>
                simp only [Act.ends_pure]
                refine (inductionHypothesis _ (handedOut + 1) r).mono ?_
                rintro result t ⟨batches, later, state, sent⟩
                exact ⟨batches, .fits measured (Bool.eq_false_iff.mpr room) later, state,
                  sent⟩

/-- Forgetting a transaction always succeeds. -/
theorem exists_run_purge (id : Identity) (r : Run σ) :
    ∃ t, (purge id : Act (Run σ) Fault Unit).run r = some (.ok (), t) ∧
      t.state = { r.state with ledger := r.state.ledger.purge id } ∧ p.Acknowledges r t [] := by
  exact ⟨_, rfl, rfl, .none (Run.acknowledged_record _ fun _ => isReport_of_mem_purgeEvents)⟩

theorem enter_ends (place : Placement) (entry : Entry) (r : Run σ) :
    (enter place entry : Act (Run σ) Fault Unit).Ends r fun result t =>
      p.Acknowledges r t [] ∧
        match result with
        | .ok () => ∃ ledger, r.state.ledger.add place entry = .ok ledger ∧
            t.state = r.state.entered ledger
        | .error fault => r.state.ledger.add place entry = .error fault ∧
            t.state = r.state := by
  rw [enter]
  simp only [Act.ends_bind, Act.ends_read]
  cases r.state.ledger.add place entry with
  | error fault => exact (Act.ends_ofExcept _).mpr ⟨.none rfl, rfl, rfl⟩
  | ok ledger =>
      simp only [Act.ends_ofExcept, Act.ends_change]
      exact ⟨.none (Run.acknowledged_record _ fun _ => isReport_of_mem_addEvents), ledger, rfl,
        rfl⟩

theorem conclude_ends (place : Placement) (timestamp : Timestamp) (r : Run σ) :
    (p.conclude place timestamp).Ends r fun result t =>
      ∃ batches,
        Concludes p.settings place timestamp r.state result t.state batches ∧
          p.Acknowledges r t batches := by
  rw [conclude]
  cases commits : place.isCommit with
  | true =>
      rw [if_pos rfl]
      refine Act.ends_bind.mpr ((p.flush_ends r).mono ?_)
      rintro (fault | ⟨⟩) t ⟨batches, flush, sent⟩
      · exact ⟨batches, .unflushed commits flush, sent⟩
      simp only [applyCommitted, Act.ends_bind, Act.ends_read, Act.ends_ofExcept]
      cases read : t.state.ledger.entriesOf place.identity with
      | error fault => exact ⟨batches, .unreadable commits flush read, sent⟩
      | ok entries =>
          refine (p.sendOperations_ends (operations entries) .empty 0 t).mono ?_
          rintro (fault | ⟨⟩) ⟨world, state⟩ ⟨batches', send, rfl, sentLater⟩
          · exact ⟨batches ++ batches', .unsent commits flush read send, sent.trans sentLater⟩
          obtain ⟨⟨world', state'⟩, run, rfl, quiet⟩ :=
            p.exists_run_purge place.identity ⟨world, t.state.sent batches'⟩
          refine (Act.ends_iff_of_run run).mpr ?_
          simp only [Act.ends_change]
          refine ⟨batches ++ batches', .committed commits flush read send, ?_⟩
          have whole := sent.trans (sentLater.trans quiet)
          rw [List.append_nil] at whole
          exact whole
  | false =>
      rw [if_neg Bool.false_ne_true]
      cases aborts : place.isAbort with
      | true =>
          rw [if_pos rfl]
          obtain ⟨⟨world, state⟩, run, rfl, quiet⟩ := p.exists_run_purge place.identity r
          refine Act.ends_bind.mpr ((Act.ends_iff_of_run run).mpr ?_)
          simp only [Act.ends_change]
          exact ⟨[], .aborted aborts, quiet⟩
      | false =>
          rw [if_neg Bool.false_ne_true, Act.ends_pure]
          exact ⟨[], .gathered commits aborts, .none rfl⟩

theorem apply_ends (entry : Entry) (r : Run σ) :
    (p.apply entry).Ends r fun result t =>
      ∃ batches,
        Applies p.settings r.state entry result t.state batches ∧
          p.Acknowledges r t batches := by
  rw [apply]
  simp only [Act.ends_bind, Act.ends_change, Act.ends_ofExcept]
  have noted : (r.record (placementEvents entry)).acknowledged = r.acknowledged :=
    Run.acknowledged_record _ fun _ => isReport_of_mem_placementEvents
  cases placed : Placement.ofEntry entry with
  | error fault => exact ⟨[], .misplaced placed, .none noted⟩
  | ok place =>
      dsimp only
      cases inside : place.isTransactional with
      | true =>
          rw [if_pos rfl]
          refine Act.ends_bind.mpr ((p.enter_ends place entry _).mono ?_)
          rintro (fault | ⟨⟩) ⟨world, state⟩ ⟨quiet, entered⟩
          · rcases entered with ⟨refusal, rfl⟩
            exact ⟨[], .refused placed inside refusal, (Acknowledges.none noted).trans quiet⟩
          · rcases entered with ⟨ledger, added, rfl⟩
            refine (p.conclude_ends place entry.timestamp _).mono ?_
            rintro result t ⟨batches, conclude, sent⟩
            exact ⟨batches, .entered placed inside added conclude,
              (Acknowledges.none noted).trans (quiet.trans sent)⟩
      | false =>
          rw [if_neg Bool.false_ne_true]
          refine (p.applyPlain_ends entry _).mono ?_
          rintro result t ⟨batches, hold, sent⟩
          exact ⟨batches, .plain placed inside hold, (Acknowledges.none noted).trans sent⟩

end Replayer

end LogReplay.Replay
