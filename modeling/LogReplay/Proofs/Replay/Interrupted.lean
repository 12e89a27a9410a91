/-
Module: LogReplay.Proofs.Replay.Interrupted
Purpose: What a commit leaves behind when it fails on the way.
Main exports:
  RemembersFirst, Replayer.Reaches.pending_carries, CanBeReadAgain, CutShort,
  Replayer.Reaches.interrupted_commit
-/
import LogReplay.Proofs.Replay.Forward
import LogReplay.Proofs.Replay.Splitting
import LogReplay.Proofs.Transaction.Reading

/-!
A commit can fail when the waiting entries are sent, at an operation that cannot be read
or encoded, and at each of the batches of its transaction.  By then the entry is in the
ledger, the waiting batch has left the state, and some batches have been applied.

Wherever it stops, what was applied of the transaction is the beginning of its
operations, and nothing of it was applied before the waiting entries.  The ledger still has the
whole transaction, so it can be read again from the beginning, and the counts and the
newest applied entry tell how far the replay has come.
-/

namespace LogReplay.Replay

open Bson (Document Timestamp)
open Transaction

/-! ## Records remember their first entry -/

/-- The first entry of a record has the timestamp that the record is kept under. -/
def RemembersFirst : Progress → Prop
  | ⟨.gathering entries, first⟩ => entries.head?.map Entry.timestamp = some first
  | ⟨.committed entries, first⟩ => entries.head?.map Entry.timestamp = some first
  | ⟨.aborted, _⟩ => True

/-- Entries that are added come after the first one. -/
theorem head?_append_timestamp {entries : List Entry} {first : Timestamp}
    (known : entries.head?.map Entry.timestamp = some first) (e : Entry) :
    (entries ++ [e]).head?.map Entry.timestamp = some first := by
  cases entries with
  | nil => cases known
  | cons head rest => exact known

theorem RemembersFirst.of_advances {entry : Entry} {role : Role} {former : Option Progress}
    {progress : Progress} (advances : Advances entry role former progress)
    (remembered : ∀ earlier, former = some earlier → RemembersFirst earlier) :
    RemembersFirst progress := by
  cases advances with
  | whole | opened => rfl
  | continued | completed => exact head?_append_timestamp (remembered _ rfl) entry
  | abandoned | unseen => trivial

theorem isTransactional_of_isCommit {place : Placement} (commits : place.isCommit = true) :
    place.isTransactional = true := by
  rw [Placement.isCommit, Bool.or_eq_true, beq_iff_eq, beq_iff_eq] at commits
  rcases commits with role | role <;> rw [Placement.isTransactional, role] <;> rfl

/-- A commit that is accepted completes what its transaction has gathered. -/
theorem exists_completed_of_add {l after : Ledger} {place : Placement} {entry : Entry}
    (added : l.add place entry = .ok after) (commits : place.isCommit = true)
    (remembered : ∀ progress, l.progress? place.identity = some progress →
      RemembersFirst progress) :
    ∃ earlier first, Gathers (l.progress? place.identity) earlier ∧
      after = l.put place.identity ⟨.committed (earlier ++ [entry]), first⟩ ∧
        (earlier ++ [entry]).head?.map Entry.timestamp = some first := by
  obtain ⟨progress, advances, rfl⟩ := Ledger.exists_advances_of_add added
  have first := RemembersFirst.of_advances advances remembered
  generalize role : place.role = r at advances
  rw [Placement.isCommit, role] at commits
  generalize l.progress? place.identity = former at advances remembered
  cases advances with
  | whole => exact ⟨[], _, rfl, rfl, rfl⟩
  | completed entries timestamp =>
      refine ⟨entries, timestamp, ⟨rfl, ?_⟩, rfl, first⟩
      rintro rfl
      cases remembered _ rfl
  | opened | continued | abandoned | unseen => cases commits

/-! ## What waits was passed on -/

section Relations

variable {limits : ReplaySettings} {st st' : State} {held : List Entry}
  {batches : List (List Document)}

theorem Batch.Carries.emptied {result : Except Fault Unit} (carries : st.pending.Carries held)
    (flushes : Flushes st result st' batches) :
    ∃ held', held'.Sublist held ∧ st'.pending.Carries held' := by
  cases flushes with
  | idle => exact ⟨held, .refl held, carries⟩
  | applied | lost => exact ⟨[], List.nil_sublist held, Batch.carries_empty⟩

/-- A flush that succeeds moves on to the last of the entries that waited. -/
theorem Batch.Carries.lastApplied_eq (carries : st.pending.Carries held)
    (flushes : Flushes st (.ok ()) st' batches) :
    st'.lastApplied = (held.getLast?.map Entry.timestamp).or st.lastApplied := by
  cases flushes with
  | idle nothing =>
      rw [carries.isEmpty_iff.mp nothing]
      rfl
  | applied => rw [State.flushed, carries.last]

theorem Flushes.tally {result : Except Fault Unit} (flushes : Flushes st result st' batches) :
    st'.tally.committed = st.tally.committed ∧
      st'.tally.transactionOperations = st.tally.transactionOperations := by
  cases flushes <;> exact ⟨rfl, rfl⟩

theorem Batch.Carries.hold {e : Entry} {result : Except Fault Unit}
    (carries : st.pending.Carries held) (holds : Holds limits st e result st' batches) :
    ∃ held', held'.Sublist (held ++ [e]) ∧ st'.pending.Carries held' := by
  cases holds with
  | unencodable => exact ⟨held, List.sublist_append_left held [e], carries⟩
  | fits measured => exact ⟨held ++ [e], .refl _, carries.push measured⟩
  | unflushed _ _ flush =>
      obtain ⟨held', fewer, carries'⟩ := carries.emptied flush
      exact ⟨held', fewer.trans (List.sublist_append_left held [e]), carries'⟩
  | flushed measured _ flush =>
      obtain ⟨held', fewer, carries'⟩ := carries.emptied flush
      exact ⟨held' ++ [e], fewer.append_right [e], carries'.push measured⟩

theorem Batch.Carries.conclude {place : Placement} {timestamp : Timestamp}
    {result : Except Fault Unit} (carries : st.pending.Carries held)
    (concludes : Concludes limits place timestamp st result st' batches) :
    ∃ held', held'.Sublist held ∧ st'.pending.Carries held' := by
  cases concludes with
  | gathered | aborted => exact ⟨held, .refl held, carries⟩
  | unflushed _ flush | unreadable _ flush => exact carries.emptied flush
  | unsent _ flush | committed _ flush =>
      obtain ⟨held', fewer, carries'⟩ := carries.emptied flush
      exact ⟨held', fewer, carries'⟩

/-- After a call, what waits are entries that waited before, and the call's entry if
any. -/
theorem Batch.Carries.answer {call : Call} {answer : Answer} (carries : st.pending.Carries held)
    (answers : Answers limits st call answer st' batches) :
    ∃ held', held'.Sublist (held ++ call.entry?.toList) ∧ st'.pending.Carries held' := by
  cases answers with
  | flush flushes | finish flushes =>
      rw [Call.entry?, Option.toList_none, List.append_nil]
      exact carries.emptied flushes
  | @apply _ entry _ _ applies =>
      have more := List.sublist_append_left held [entry]
      cases applies with
      | misplaced | refused => exact ⟨held, more, carries⟩
      | plain _ _ hold =>
          have counted : st.counted.pending.Carries held := carries
          exact counted.hold hold
      | @entered _ _ _ ledger _ _ _ _ _ conclude =>
          have entered : (st.counted.entered ledger).pending.Carries held := carries
          obtain ⟨held', fewer, carries'⟩ := entered.conclude conclude
          exact ⟨held', fewer.trans more, carries'⟩

end Relations

namespace Replayer

variable {σ : Type} {p : Replayer σ}

/-- In every run, what waits are entries that were passed on, in their order. -/
theorem Reaches.pending_carries {outside : σ} {steps : List (Step σ)} {r : Run σ}
    (reached : p.Reaches (.initial ⟨outside, []⟩) steps r) :
    ∃ held : List Entry, held.Sublist (appliedEntries steps) ∧ r.state.pending.Carries held := by
  refine reached.invariant
    (fun steps r => ∃ held : List Entry, held.Sublist (appliedEntries steps) ∧
      r.state.pending.Carries held) ⟨[], .refl _, Batch.carries_empty⟩ ?_
  rintro steps step batches ⟨held, among, carries⟩ answers _
  obtain ⟨held', fewer, carries'⟩ := carries.answer answers
  rw [appliedEntries_snoc]
  exact ⟨held', fewer.trans (among.append_right _), carries'⟩

/-- In every run, each record remembers its first entry. -/
theorem Reaches.remembersFirst {outside : σ} {steps : List (Step σ)} {r : Run σ}
    (reached : p.Reaches (.initial ⟨outside, []⟩) steps r) :
    ∀ id progress, r.state.ledger.progress? id = some progress → RemembersFirst progress := by
  refine reached.invariant
    (fun _ r => ∀ id progress, r.state.ledger.progress? id = some progress →
      RemembersFirst progress) (fun _ _ recorded => (by cases recorded)) ?_
  intro steps step batches remembered answers _ id progress recorded
  rcases answers.kept_or_advances recorded with kept | ⟨entry, role, _, advances⟩
  · exact remembered id progress kept
  · exact .of_advances advances (remembered id)

end Replayer

/-! ## How far a commit has come -/

/-- The batches that are applied carry the beginning of what was to be sent. -/
theorem Sends.exists_prefix {limits : ReplaySettings} {b : Batch}
    {operations : List (Except Fault Entry)} {result : Except Fault Unit}
    {batches : List (List Document)} (sends : Sends limits b operations result batches) :
    ∀ {held : List Entry}, b.Carries held →
      ∃ sent : List Entry, batches.flatten = sent.map Entry.toDocument ∧
        sent.map .ok <+: held.map .ok ++ operations := by
  induction sends with
  | finished | lastRefused | malformed | unencodable | refused =>
      intro held _
      exact ⟨[], rfl, List.nil_prefix⟩
  | lastApplied =>
      intro held carries
      refine ⟨held, ?_, List.prefix_append _ _⟩
      rw [List.flatten_singleton, carries.documents]
  | fits measured _ _ inductionHypothesis =>
      intro held carries
      obtain ⟨sent, applied, begins⟩ := inductionHypothesis (carries.push measured)
      rw [List.map_append, List.append_assoc] at begins
      exact ⟨sent, applied, begins⟩
  | applied measured _ _ inductionHypothesis =>
      intro held carries
      obtain ⟨sent, applied, begins⟩ :=
        inductionHypothesis (Batch.carries_empty.push measured)
      refine ⟨held ++ sent, ?_, ?_⟩
      · rw [List.flatten_cons, applied, carries.documents, List.map_append]
      · rw [List.map_append]
        exact (List.prefix_append_right_inj _).mpr begins

/-- The ledger has the whole transaction, to be read from its beginning, and no point that
is after it is taken for the oldest one. -/
structure CanBeReadAgain (l : Ledger) (id : Identity) (entries : List Entry) : Prop where
  finalized : ∃ first, l.progress? id = some ⟨.committed entries, first⟩
  handedOut : l.entriesOf id = .ok entries
  read : (Reader.ofEntries id entries).drain.1 = collect (operations entries)
  oldest : ∃ oldest first, l.oldestActive? = some oldest ∧
    entries.head?.map Entry.timestamp = some first ∧ first.before oldest = false

theorem canBeReadAgain_of_put {l : Ledger} {id : Identity} {entries : List Entry}
    {first : Timestamp} (begins : entries.head?.map Entry.timestamp = some first) :
    CanBeReadAgain (l.put id ⟨.committed entries, first⟩) id entries where
  finalized := ⟨first, Ledger.progress?_put_self _ _ _⟩
  handedOut := Ledger.entriesOf_put_committed _ _ _ _
  read := Reader.drain_ofEntries id entries
  oldest := by
    obtain ⟨oldest, known, least⟩ :=
      Ledger.oldestActive?_le (Ledger.progress?_put_self l id ⟨.committed entries, first⟩) rfl
    exact ⟨oldest, first, known, begins, Timestamp.before_eq_false_iff.mpr least⟩

/-- How far a commit has come that failed, by what was applied of its transaction: no
further than the entries that waited, or through them and into its operations. -/
inductive CutShort {σ : Type} (p : Replayer σ) (held : List Entry)
    (operations : List (Except Fault Entry)) (before after : Run σ) : List Entry → Prop where
  | unflushed (nothing : p.Acknowledges before after [])
      (lastApplied : after.state.lastApplied = before.state.lastApplied) :
      CutShort p held operations before after []
  | unsent {sent : List Entry} {batches : List (List Document)}
      (acknowledged : p.Acknowledges before after
        ((waitingBatches held).map (·.map Entry.toDocument) ++ batches))
      (inOrder : batches.flatten = sent.map Entry.toDocument)
      (begins : sent.map .ok <+: operations)
      (lastApplied : after.state.lastApplied =
        (held.getLast?.map Entry.timestamp).or before.state.lastApplied) :
      CutShort p held operations before after sent

namespace Replayer

variable {σ : Type} {p : Replayer σ}

/-- A commit that fails has come this far, has not been counted as one, and has counted just
the operations that were applied. -/
theorem exists_cutShort {st : State} {before after : Run σ} {held entries : List Entry}
    {place : Placement} {timestamp : Timestamp} {fault : Fault} {batches : List (List Document)}
    (concludes : Concludes p.settings place timestamp st (.error fault) after.state batches)
    (acknowledged : p.Acknowledges before after batches) (carries : st.pending.Carries held)
    (gathered : st.ledger.entriesOf place.identity = .ok entries)
    (same : st.lastApplied = before.state.lastApplied) :
    ∃ sent, CutShort p held (operations entries) before after sent ∧
      after.state.ledger = st.ledger ∧ after.state.tally.committed = st.tally.committed ∧
        after.state.tally.transactionOperations =
          st.tally.transactionOperations + sent.length := by
  obtain ⟨world, state⟩ := after
  cases concludes with
  | unflushed _ flush =>
      cases flush with
      | lost => exact ⟨[], .unflushed acknowledged same, rfl, rfl, rfl⟩
  | unreadable _ flush missing =>
      rw [flush.ledger, gathered] at missing
      cases missing
  | unsent _ flush read send =>
      rw [flush.ledger, gathered] at read
      cases read
      obtain ⟨sent, applied, begins⟩ := send.exists_prefix Batch.carries_empty
      obtain ⟨committed, counted⟩ := flush.tally
      refine ⟨sent, .unsent ?_ applied begins ?_, flush.ledger, committed, ?_⟩
      · rwa [← carries.flush flush]
      · have moved := carries.lastApplied_eq flush
        rwa [same] at moved
      · have length := congrArg List.length applied
        rw [List.length_map] at length
        rw [← length, ← counted]

/-- Whatever was done before and however the destination answers: when a commit fails, its
transaction has been applied up to some operation, in order and only after the entries that
waited.  The ledger has the whole of it, to be read again from the beginning; no commit has
been counted, and of its operations those that were applied.  The newest applied entry is
what it was, or the last of the entries that waited, if these were applied. -/
theorem Reaches.interrupted_commit {outside : σ} {steps : List (Step σ)} {r t : Run σ}
    {entry : Entry} {place : Placement} {ledger : Ledger} {fault : Fault}
    (reached : p.Reaches (.initial ⟨outside, []⟩) steps r)
    (placed : Placement.ofEntry entry = .ok place) (commits : place.isCommit = true)
    (added : r.state.ledger.add place entry = .ok ledger)
    (failed : (p.apply entry).run r = some (.error fault, t)) :
    ∃ earlier held sent,
      Gathers (r.state.ledger.progress? place.identity) earlier ∧
      held.Sublist (appliedEntries steps) ∧ r.state.pending.Carries held ∧
      CutShort p held (operations (earlier ++ [entry])) r t sent ∧
      CanBeReadAgain t.state.ledger place.identity (earlier ++ [entry]) ∧
      t.state.tally.committed = r.state.tally.committed ∧
      t.state.tally.transactionOperations =
        r.state.tally.transactionOperations + sent.length := by
  obtain ⟨held, among, carries⟩ := reached.pending_carries
  obtain ⟨earlier, first, gathers, rfl, begins⟩ :=
    exists_completed_of_add added commits (reached.remembersFirst _)
  obtain ⟨batches, applies, acknowledged⟩ := p.apply_ends entry r _ t failed
  obtain ⟨world, state⟩ := t
  cases applies with
  | misplaced misplaced => cases placed.symm.trans misplaced
  | plain placed' outside =>
      cases placed.symm.trans placed'
      rw [isTransactional_of_isCommit commits] at outside
      cases outside
  | refused placed' _ refusal =>
      cases placed.symm.trans placed'
      cases added.symm.trans refusal
  | entered placed' _ added' conclude =>
      cases placed.symm.trans placed'
      cases added.symm.trans added'
      obtain ⟨sent, cutShort, kept, committed, counted⟩ :=
        exists_cutShort conclude acknowledged carries
          (Ledger.entriesOf_put_committed _ _ _ _) rfl
      refine ⟨earlier, held, sent, gathers, among, carries, cutShort, ?_, committed, counted⟩
      rw [kept]
      exact canBeReadAgain_of_put begins

end Replayer

/-! ## A commit that fails at its second operation -/

/-- A destination that accepts so many commands and refuses the next ones, for a reason that
does not pass. -/
def faltering : Destination Nat where
  now _ := 0
  run left _ _ :=
    match left with
    | left + 1 => (.ok [("ok", .int32 1)], left)
    | 0 => (.ok [("ok", .int32 0), ("code", .int32 2)], 0)
  pause left _ := left

/-- A replay that sends one entry at a time. -/
def oneByOne : Replayer Nat :=
  { modest faltering with settings := { ReplaySettings.standard with maxBatchOperations := 1 } }

/-- The first entry of a transaction of two. -/
def opening : Entry :=
  partAt 1 [("partialTxn", .boolean true)]

/-- Its last entry. -/
def closing : Entry :=
  { partAt 3 [] with previous := some ⟨⟨1, 1⟩, none⟩ }

/-- The place of the last entry. -/
def closingPlace : Placement :=
  ⟨⟨Document.encode [("id", .int32 7)], 1⟩, .finalCommit, true⟩

/-- The insert that waits is applied, and one operation of two.  Both entries of the
transaction can be read again. -/
theorem faltering_commit_cut_short :
    ∃ steps r t fault held sent,
      oneByOne.Reaches (.initial ⟨2, []⟩) steps r ∧
        (oneByOne.apply closing).run r = some (.error fault, t) ∧ sent.length = 1 ∧
          CutShort oneByOne held (operations [opening, closing]) r t sent ∧
            CanBeReadAgain t.state.ledger closingPlace.identity [opening, closing] := by
  have computed : (oneByOne.perform [.apply opening, .apply (insertAt 2)]
      (.initial ⟨2, []⟩)).bind (fun run => ((oneByOne.apply closing).run run.2).map fun ending =>
        (run.2.state.ledger.progress? closingPlace.identity,
          (run.2.state.ledger.add closingPlace closing).isOk,
          run.2.state.tally.transactionOperations, ending.1.isOk,
          ending.2.state.tally.transactionOperations)) =
        some (some ⟨.gathering [opening], ⟨1, 1⟩⟩, true, 0, false, 1) := by
    decide +kernel
  obtain ⟨⟨steps, r⟩, performed, ended⟩ := Option.bind_eq_some_iff.mp computed
  obtain ⟨⟨result, t⟩, failed, known⟩ := Option.map_eq_some_iff.mp ended
  simp only [Prod.mk.injEq] at known
  obtain ⟨gathered, accepted, before, faulty, after⟩ := known
  obtain ⟨ledger, added⟩ : ∃ ledger, r.state.ledger.add closingPlace closing = .ok ledger := by
    cases added : r.state.ledger.add closingPlace closing with
    | ok ledger => exact ⟨ledger, rfl⟩
    | error => rw [added] at accepted; cases accepted
  cases result with
  | ok => cases faulty
  | error fault =>
      obtain ⟨reached, _⟩ := Replayer.reaches_of_perform performed
      have placed : Placement.ofEntry closing = .ok closingPlace := rfl
      obtain ⟨earlier, held, sent, gathers, _, _, cutShort, again, _, counted⟩ :=
        reached.interrupted_commit placed rfl added failed
      rw [gathered] at gathers
      obtain ⟨rfl, _⟩ := gathers
      rw [before, after, Nat.zero_add] at counted
      exact ⟨steps, r, t, fault, held, sent, reached, failed, counted.symm, cutShort, again⟩

end LogReplay.Replay
