/-
Module: LogReplay.Proofs.Replay.ResumePoint
Purpose: From where a log can be read again without losing anything.
Main exports:
  Safe, Standing, Resumable, Replayer.Reaches.resume_point_safe
-/
import LogReplay.Proofs.Replay.Forward
import LogReplay.Proofs.Replay.Waiting

/-!
A replay that is given up can be resumed: the log is read again from after the newest
entry that is known to be applied, or from the first entry of the oldest open
transaction, whichever comes first.  Nothing is lost by that if every entry is carried
out already, or comes after one of the two points.

`Safe` says so of one entry.  As long as no call fails, more is known of each entry: it
is carried out, it waits, or its transaction is open.  The first call that fails may end
anywhere, but it cannot make an entry unsafe.
-/

namespace LogReplay.Replay

open Bson (Document Timestamp)
open Transaction

/-! ## What is to be shown -/

/-- The log has the last entry of a transaction, with these entries before it, and the
ledger has forgotten them: what it has of the identity, if anything, began later. -/
structure Ended (log : List Entry) (ledger : Ledger) (place : Placement)
    (entries : List Entry) (last : Entry) : Prop where
  placed : Placement.ofEntry last = .ok place
  inLog : ∃ before after, log = before ++ last :: after ∧
    entries = openEntries place.identity before ++ [last]
  purged : ∀ progress, ledger.progress? place.identity = some progress →
    last.timestamp.before progress.first = true

/-- The entry belongs to a transaction that is done with. -/
inductive Closed (log : List Entry) (ledger : Ledger) (sent : List Document) (e : Entry) :
    Prop where
  /-- All operations of the transaction have been acknowledged, one after the other. -/
  | committed {place : Placement} {entries found : List Entry} {last : Entry}
      (ended : Ended log ledger place entries last) (member : e ∈ entries)
      (commits : place.isCommit = true) (contents : contents? entries = some found)
      (applied : found.map Entry.toDocument <:+: sent)
  | aborted {place : Placement} {entries : List Entry} {last : Entry}
      (ended : Ended log ledger place entries last) (member : e ∈ entries)
      (aborts : place.isAbort = true)

/-- An entry that was passed on to be applied is carried out, or will be read again. -/
inductive Safe (log : List Entry) (st : State) (sent : List Document) (e : Entry) : Prop where
  | acknowledged (outside : isOutside e = true) (member : e.toDocument ∈ sent)
  | closed (closed : Closed log st.ledger sent e)
  /-- It comes after every entry that is known to be applied. -/
  | ahead (later : ∀ t, st.lastApplied = some t → t.before e.timestamp = true)
  /-- It does not come before the oldest open transaction. -/
  | held (t : Timestamp) (oldest : st.ledger.oldestActive? = some t)
      (covered : e.timestamp.before t = false)

/-! ## How an entry stands while no call has failed -/

/-- The entry is carried out, waits for the next flush, or belongs to an open
transaction. -/
inductive Standing (log : List Entry) (st : State) (sent : List Document) (e : Entry) :
    Prop where
  | sent (outside : isOutside e = true) (member : e.toDocument ∈ sent)
  | waits (outside : isOutside e = true) (member : e.toDocument ∈ st.pending.documents)
      (later : ∀ t, st.lastApplied = some t → t.before e.timestamp = true)
  | gathered (id : Identity) (member : e ∈ openEntries id log)
  | closed (closed : Closed log st.ledger sent e)

/-- The invariant of a replay in which no call has failed. -/
structure Resumable (log : List Entry) (st : State) (sent : List Document) : Prop where
  inOrder : InOrder log st sent
  dated : Dated log st
  first : ∀ id progress, st.ledger.progress? id = some progress →
    ∀ e ∈ openEntries id log, e.timestamp.before progress.first = false
  standing : ∀ e ∈ log, Standing log st sent e

theorem mem_openEntries_append {id : Identity} {log : List Entry} {e : Entry} {call : Call}
    (member : e ∈ openEntries id (log ++ call.entry?.toList)) :
    e ∈ openEntries id log ∨ call.entry? = some e := by
  cases entered : call.entry? with
  | none =>
      rw [entered, Option.toList_none, List.append_nil] at member
      exact .inl member
  | some entry =>
      rw [entered, Option.toList_some, openEntries_snoc] at member
      split at member
      · cases member
      · rcases List.mem_append.mp member with earlier | last
        · exact .inl earlier
        · split at last
          · exact .inr (congrArg some (List.mem_singleton.mp last).symm)
          · cases last

theorem Ended.append {log : List Entry} {ledger ledger' : Ledger} {place : Placement}
    {entries : List Entry} {last : Entry} {call : Call}
    (ended : Ended log ledger place entries last)
    (newer : ∀ entry, call.entry? = some entry → IsNewer log entry)
    (originates : ∀ id progress, ledger'.progress? id = some progress →
      Originates (ledger.progress? id) call progress) :
    Ended (log ++ call.entry?.toList) ledger' place entries last where
  placed := ended.placed
  inLog := by
    obtain ⟨before, after, rfl, same⟩ := ended.inLog
    exact ⟨before, after ++ call.entry?.toList, by simp, same⟩
  purged progress recorded := by
    cases originates _ _ recorded with
    | kept former first =>
        rw [first]
        exact ended.purged _ former
    | begun _ entered first =>
        obtain ⟨before, after, rfl, _⟩ := ended.inLog
        rw [first]
        exact newer _ entered last (List.mem_append_right _ List.mem_cons_self)

/-- A transaction that is done with stays so. -/
theorem Closed.append {log : List Entry} {ledger ledger' : Ledger} {sent more : List Document}
    {e : Entry} {call : Call} (closed : Closed log ledger sent e)
    (newer : ∀ entry, call.entry? = some entry → IsNewer log entry)
    (originates : ∀ id progress, ledger'.progress? id = some progress →
      Originates (ledger.progress? id) call progress) :
    Closed (log ++ call.entry?.toList) ledger' (sent ++ more) e := by
  cases closed with
  | committed ended member commits contents applied =>
      refine .committed (ended.append newer originates) member commits contents ?_
      exact applied.trans (List.prefix_append sent more).isInfix
  | aborted ended member aborts => exact .aborted (ended.append newer originates) member aborts

section Relations

variable {limits : ReplaySettings} {log : List Entry} {st st' : State}
  {sent more : List Document} {batches : List (List Document)} {e entry : Entry}
  {place : Placement}

/-- How an entry of the log stands after a call, if the waiting entries are sent or go on
waiting, and the entries of open transactions are looked after. -/
theorem Standing.append {call : Call} (standing : Standing log st sent e)
    (newer : ∀ entry, call.entry? = some entry → IsNewer log entry)
    (originates : ∀ id progress, st'.ledger.progress? id = some progress →
      Originates (st.ledger.progress? id) call progress)
    (waiting : st.pending.documents ⊆ more ∨
      st.pending.documents ⊆ st'.pending.documents ∧ st'.lastApplied = st.lastApplied)
    (gathered : ∀ id, e ∈ openEntries id log →
      Standing (log ++ call.entry?.toList) st' (sent ++ more) e) :
    Standing (log ++ call.entry?.toList) st' (sent ++ more) e := by
  cases standing with
  | sent outside member => exact .sent outside (List.mem_append_left more member)
  | waits outside member later =>
      rcases waiting with flushed | ⟨kept, same⟩
      · exact .sent outside (List.mem_append_right sent (flushed member))
      · rw [← same] at later
        exact .waits outside (kept member) later
  | gathered id member => exact gathered id member
  | closed closed => exact .closed (closed.append newer originates)

/-- The last entry of a transaction closes the transaction of every open entry. -/
theorem Ended.of_purge {ledger : Ledger} (placed : Placement.ofEntry entry = .ok place)
    (forgotten : ledger.progress? place.identity = none) :
    Ended (log ++ [entry]) ledger place (openEntries place.identity log ++ [entry]) entry where
  placed := placed
  inLog := ⟨log, [], rfl, rfl⟩
  purged progress recorded := by
    rw [forgotten] at recorded
    cases recorded

/-- With the last entry of a transaction its entries are closed; those of others stay
open. -/
theorem standing_of_closes (placed : Placement.ofEntry entry = .ok place)
    (closes : ∀ d ∈ openEntries place.identity log ++ [entry],
      Closed (log ++ [entry]) st'.ledger more d) (id : Identity)
    (member : e ∈ openEntries id log) : Standing (log ++ [entry]) st' more e := by
  by_cases same : id = place.identity
  · rw [same] at member
    exact .closed (closes e (List.mem_append_left _ member))
  · rw [← openEntries_snoc_of_ne placed same] at member
    exact .gathered id member

/-! ## Calls that succeed -/

/-- What was waiting has been sent, or nothing more is known to be applied. -/
theorem Flushes.subset_or_same {result : Except Fault Unit}
    (flushes : Flushes st result st' batches) :
    st.pending.documents ⊆ batches.flatten ∨ st'.lastApplied = st.lastApplied := by
  cases flushes with
  | idle | lost => exact .inr rfl
  | applied =>
      rw [List.flatten_singleton]
      exact .inl (List.Subset.refl _)

theorem Concludes.subset_or_same {timestamp : Timestamp} {result : Except Fault Unit}
    (concludes : Concludes limits place timestamp st result st' batches) :
    st.pending.documents ⊆ batches.flatten ∨ st'.lastApplied = st.lastApplied := by
  have sentFirst {middle : State} {earlier later : List (List Document)}
      (flush : Flushes st (.ok ()) middle earlier) :
      st.pending.documents ⊆ (earlier ++ later).flatten := by
    rw [List.flatten_append, flush.documents.1]
    exact List.subset_append_left _ _
  cases concludes with
  | gathered | aborted => exact .inr rfl
  | unflushed _ flush => exact flush.subset_or_same
  | unreadable _ flush => exact flush.subset_or_same
  | unsent _ flush | committed _ flush => exact .inl (sentFirst flush)

theorem Answers.subset_or_same {call : Call} {answer : Answer}
    (answers : Answers limits st call answer st' batches) :
    st.pending.documents ⊆ batches.flatten ∨ st'.lastApplied = st.lastApplied := by
  cases answers with
  | flush flushes | finish flushes => exact flushes.subset_or_same
  | apply applies =>
      cases applies with
      | misplaced | refused => exact .inr rfl
      | entered _ _ _ conclude => exact conclude.subset_or_same
      | plain _ _ hold =>
          cases hold with
          | unencodable | fits => exact .inr rfl
          | unflushed _ _ flush | flushed _ _ flush => exact flush.subset_or_same

/-- A call that succeeds loses nothing that was waiting. -/
theorem Answers.subset_or_kept {call : Call} {answer : Answer}
    (answers : Answers limits st call answer st' batches) (succeeded : answer.isOk = true) :
    st.pending.documents ⊆ batches.flatten ∨
      st.pending.documents ⊆ st'.pending.documents ∧ st'.lastApplied = st.lastApplied := by
  rcases answers.subset_or_same with sent | same
  · exact .inl sent
  have handles := answers.handles
  rw [succeeded] at handles
  generalize st.pending.documents = waiting at handles ⊢
  generalize st'.pending.documents = after at handles ⊢
  generalize acceptedBy call answer = accepted at handles
  cases handles with
  | kept => exact .inr ⟨List.subset_append_left _ _, same⟩
  | sent =>
      rw [List.flatten_cons]
      exact .inl (List.subset_append_left _ _)

theorem standing_plain (marked : Marked log st.lastApplied st.pending)
    (newer : IsNewer log entry) (placed : Placement.ofEntry entry = .ok place)
    (outside : place.isTransactional = false)
    (holds : Holds limits st.counted entry (.ok ()) st' batches) :
    Standing (log ++ [entry]) st' (sent ++ batches.flatten) entry := by
  have free : isOutside entry = true := by
    simp only [isOutside, placed, outside, Bool.not_false]
  have waits : entry.toDocument ∈ st'.pending.documents := by
    cases holds with
    | fits | flushed => exact List.mem_append_right _ List.mem_cons_self
  refine .waits free waits fun t applied => ?_
  cases holds with
  | fits => exact (marked.applied t applied).before newer
  | flushed _ _ flush =>
      have start : Marked log st.counted.lastApplied st.counted.pending := marked
      exact ((start.flush flush).1.applied t applied).before newer

/-- The entries of a transaction that is ended without a fault are closed. -/
theorem closed_of_concludes {first : Timestamp} (placed : Placement.ofEntry entry = .ok place)
    (concludes : Concludes limits place entry.timestamp
      (st.counted.entered (st.ledger.put place.identity
        ⟨phaseAt place (openEntries place.identity log ++ [entry]), first⟩))
      (.ok ()) st' batches) (final : place.isFinal = true) :
    ∀ d ∈ openEntries place.identity log ++ [entry],
      Closed (log ++ [entry]) st'.ledger (sent ++ batches.flatten) d := by
  intro d member
  cases commits : place.isCommit with
  | true =>
      rw [phaseAt, if_pos commits] at concludes
      obtain ⟨found, contents, documents, _, ledger⟩ :=
        concludes.documents commits (Ledger.entriesOf_put_committed _ _ _ _)
      have forgotten : st'.ledger.progress? place.identity = none := by
        rw [ledger, Ledger.progress?_purge_self]
      refine .committed (.of_purge placed forgotten) member commits contents ?_
      rw [documents, ← List.append_assoc]
      exact (List.suffix_append _ _).isInfix
  | false =>
      rw [isFinal_eq, commits, Bool.false_or] at final
      cases concludes with
      | committed commits' => exact absurd commits' (Bool.eq_false_iff.mp commits)
      | gathered _ aborts => exact absurd final (Bool.eq_false_iff.mp aborts)
      | aborted aborts =>
          exact .aborted (.of_purge placed (Ledger.progress?_purge_self _ _)) member aborts

namespace Resumable

theorem initial : Resumable [] .initial [] where
  inOrder := .initial
  dated := .initial
  first _ _ recorded := by cases recorded
  standing := List.forall_mem_nil _

/-- An open transaction is recorded, and began with the first of its entries. -/
theorem first_answer {call : Call} {answer : Answer} (resumable : Resumable log st sent)
    (newer : ∀ entry, call.entry? = some entry → IsNewer log entry)
    (answers : Answers limits st call answer st' batches) (id : Identity) (progress : Progress)
    (recorded : st'.ledger.progress? id = some progress) :
    ∀ e ∈ openEntries id (log ++ call.entry?.toList),
      e.timestamp.before progress.first = false := by
  intro e member
  cases answers.originates recorded with
  | kept former same =>
      rw [same]
      rcases mem_openEntries_append member with earlier | last
      · exact resumable.first id _ former e earlier
      · have before := (resumable.dated.firsts id _ former).before (newer e last)
        rw [Timestamp.before_iff_rank_lt] at before
        exact Timestamp.before_eq_false_iff.mpr (Nat.le_of_lt before)
  | begun absent entered same =>
      have gathers := resumable.inOrder.gathers id
      rw [absent] at gathers
      rcases mem_openEntries_append member with earlier | last
      · rw [show openEntries id log = [] from gathers] at earlier
        cases earlier
      · rw [same, Option.some_inj.mp (entered.symm.trans last)]
        exact Timestamp.before_eq_false_iff.mpr (Nat.le_refl _)

theorem standing_answer {call : Call} {answer : Answer} (resumable : Resumable log st sent)
    (newer : ∀ entry, call.entry? = some entry → IsNewer log entry)
    (answers : Answers limits st call answer st' batches) (succeeded : answer.isOk = true) :
    ∀ e ∈ log ++ call.entry?.toList,
      Standing (log ++ call.entry?.toList) st' (sent ++ batches.flatten) e := by
  have old (e : Entry) (member : e ∈ log) (gathered : ∀ id, e ∈ openEntries id log →
      Standing (log ++ call.entry?.toList) st' (sent ++ batches.flatten) e) :
      Standing (log ++ call.entry?.toList) st' (sent ++ batches.flatten) e :=
    (resumable.standing e member).append newer (fun _ _ => answers.originates)
      (answers.subset_or_kept succeeded) gathered
  rcases answers.of_isOk succeeded with ⟨entry, rfl, applies⟩ | ⟨entryless, _⟩
  · have later := newer entry rfl
    rw [Call.entry?, Option.toList_some] at old ⊢
    cases applies with
    | plain placed outside hold =>
        refine List.forall_mem_append.mpr ⟨?_, List.forall_mem_singleton.mpr ?_⟩
        · intro e member
          refine old e member fun id gathered => ?_
          rw [← openEntries_snoc_of_outside placed outside] at gathered
          exact .gathered id gathered
        · exact standing_plain resumable.dated.marked later placed outside hold
    | @entered _ _ place _ _ _ placed inside added conclude =>
        obtain ⟨first, rfl⟩ := resumable.inOrder.exists_ledger_eq_put added
        cases final : place.isFinal with
        | true =>
            have closes : ∀ d ∈ openEntries place.identity log ++ [entry],
                Closed (log ++ [entry]) st'.ledger (sent ++ batches.flatten) d :=
              closed_of_concludes placed conclude final
            refine List.forall_mem_append.mpr ⟨?_, List.forall_mem_singleton.mpr ?_⟩
            · intro e member
              exact old e member fun id gathered => standing_of_closes placed closes id gathered
            · exact .closed (closes entry (List.mem_append_right _ List.mem_cons_self))
        | false =>
            have gathers := openEntries_snoc_of_isTransactional placed inside final log
            refine List.forall_mem_append.mpr ⟨?_, List.forall_mem_singleton.mpr ?_⟩
            · intro e member
              refine old e member fun id gathered => .gathered id ?_
              by_cases same : id = place.identity
              · rw [same] at gathered ⊢
                rw [gathers]
                exact List.mem_append_left _ gathered
              · rw [openEntries_snoc_of_ne placed same]
                exact gathered
            · refine .gathered place.identity ?_
              rw [gathers]
              exact List.mem_append_right _ List.mem_cons_self
  · rw [entryless, Option.toList_none, List.append_nil] at old ⊢
    exact fun e member => old e member fun id gathered => .gathered id gathered

theorem answer {call : Call} {answer : Answer} (resumable : Resumable log st sent)
    (newer : ∀ entry, call.entry? = some entry → IsNewer log entry)
    (answers : Answers limits st call answer st' batches) (succeeded : answer.isOk = true) :
    Resumable (log ++ call.entry?.toList) st' (sent ++ batches.flatten) where
  inOrder := resumable.inOrder.answer answers succeeded
  dated := resumable.dated.answer newer answers
  first := resumable.first_answer newer answers
  standing := resumable.standing_answer newer answers succeeded

end Resumable

/-! ## The first call that fails -/

theorem Concludes.isDated_of_error {timestamp : Timestamp} {fault : Fault}
    (concludes : Concludes limits place timestamp st (.error fault) st' batches)
    (marked : Marked log st.lastApplied st.pending) :
    ∀ t, st'.lastApplied = some t → IsDated log t := by
  cases concludes with
  | unflushed _ flush | unreadable _ flush | unsent _ flush =>
      exact (marked.flush flush).1.applied

/-- A call that fails has applied nothing but what was waiting. -/
theorem Marked.isDated_of_failed {call : Call} {answer : Answer}
    (marked : Marked log st.lastApplied st.pending)
    (answers : Answers limits st call answer st' batches) (failed : answer.isOk = false) :
    ∀ t, st'.lastApplied = some t → IsDated log t := by
  cases answers with
  | flush flushes | finish flushes => exact (marked.flush flushes).1.applied
  | @apply _ _ result _ applies =>
      cases result with
      | ok => cases failed
      | error fault =>
          cases applies with
          | misplaced | refused => exact marked.applied
          | plain _ _ hold =>
              have start : Marked log st.counted.lastApplied st.counted.pending := marked
              cases hold with
              | unencodable => exact marked.applied
              | unflushed _ _ flush => exact (start.flush flush).1.applied
          | entered _ _ _ conclude =>
              apply conclude.isDated_of_error
              exact marked

/-- A call that fails leaves every open transaction open. -/
theorem InOrder.active_of_failed {call : Call} {answer : Answer} {id : Identity}
    {progress : Progress} (inOrder : InOrder log st sent)
    (answers : Answers limits st call answer st' batches) (failed : answer.isOk = false)
    (recorded : st.ledger.progress? id = some progress)
    (active : progress.phase.isAborted = false) :
    ∃ progress', st'.ledger.progress? id = some progress' ∧
      progress'.phase.isAborted = false := by
  cases answers with
  | flush flushes | finish flushes =>
      rw [flushes.ledger]
      exact ⟨progress, recorded, active⟩
  | @apply _ _ result _ applies =>
      cases result with
      | ok => cases failed
      | error fault =>
          cases applies with
          | misplaced | refused => exact ⟨progress, recorded, active⟩
          | plain _ _ hold =>
              rw [hold.ledger]
              exact ⟨progress, recorded, active⟩
          | @entered _ _ place _ _ _ placed inside added conclude =>
              obtain ⟨first, rfl⟩ := inOrder.exists_ledger_eq_put added
              -- Only a commit can fail once its entry is in the ledger.
              have commits : place.isCommit = true := by
                cases conclude <;> assumption
              rcases conclude.ledger with same | ⟨succeeded, _⟩
              · rw [same]
                by_cases own : id = place.identity
                · rw [own]
                  exact ⟨_, Ledger.progress?_put_self _ _ _, by rw [phaseAt, if_pos commits]; rfl⟩
                · exact ⟨progress, (Ledger.progress?_put_of_ne _ own).trans recorded, active⟩
              · cases succeeded

theorem Safe.of_active {log' : List Entry} {sent' : List Document} {id : Identity}
    {progress : Progress} (recorded : st.ledger.progress? id = some progress)
    (active : progress.phase.isAborted = false)
    (first : e.timestamp.before progress.first = false) : Safe log' st sent' e := by
  obtain ⟨t, oldest, least⟩ := Ledger.oldestActive?_le recorded active
  rw [Timestamp.before_eq_false_iff] at first
  exact .held t oldest (Timestamp.before_eq_false_iff.mpr (Nat.le_trans least first))

namespace Resumable

theorem exists_active (resumable : Resumable log st sent) {id : Identity}
    (member : e ∈ openEntries id log) :
    ∃ progress, st.ledger.progress? id = some progress ∧ progress.phase.isAborted = false ∧
      e.timestamp.before progress.first = false := by
  have gathers := resumable.inOrder.gathers id
  cases recorded : st.ledger.progress? id with
  | none =>
      rw [recorded] at gathers
      rw [show openEntries id log = [] from gathers] at member
      cases member
  | some progress =>
      rw [recorded] at gathers
      have first := resumable.first id progress recorded e member
      rcases progress with ⟨phase, start⟩
      cases phase with
      | gathering entries => exact ⟨_, rfl, rfl, first⟩
      | committed | aborted => exact gathers.elim

/-- Without a fault, every entry is safe. -/
theorem safe (resumable : Resumable log st sent) : ∀ e ∈ log, Safe log st sent e := by
  intro e member
  cases resumable.standing e member with
  | sent outside member => exact .acknowledged outside member
  | waits _ _ later => exact .ahead later
  | closed closed => exact .closed closed
  | gathered id gathered =>
      obtain ⟨progress, recorded, active, first⟩ := resumable.exists_active gathered
      exact .of_active recorded active first

/-- The first call that fails leaves every entry safe. -/
theorem safe_of_failed {call : Call} {answer : Answer} (resumable : Resumable log st sent)
    (newer : ∀ entry, call.entry? = some entry → IsNewer log entry)
    (answers : Answers limits st call answer st' batches) (failed : answer.isOk = false) :
    ∀ e ∈ log ++ call.entry?.toList,
      Safe (log ++ call.entry?.toList) st' (sent ++ batches.flatten) e := by
  intro e member
  rcases List.mem_append.mp member with old | new
  · cases resumable.standing e old with
    | sent outside member => exact .acknowledged outside (List.mem_append_left _ member)
    | closed closed => exact .closed (closed.append newer fun _ _ => answers.originates)
    | waits outside waiting later =>
        rcases answers.subset_or_same with sent | same
        · exact .acknowledged outside (List.mem_append_right _ (sent waiting))
        · rw [← same] at later
          exact .ahead later
    | gathered id gathered =>
        obtain ⟨progress, recorded, active, first⟩ := resumable.exists_active gathered
        obtain ⟨progress', recorded', active'⟩ :=
          resumable.inOrder.active_of_failed answers failed recorded active
        have kept : progress'.first = progress.first := by
          cases answers.originates recorded' with
          | kept former same =>
              rw [recorded] at former
              rw [same, Option.some_inj.mp former]
          | begun absent => cases recorded.symm.trans absent
        rw [← kept] at first
        exact .of_active recorded' active' first
  · have entered : call.entry? = some e := Option.mem_toList.mp new
    refine .ahead fun t applied => ?_
    exact (resumable.dated.marked.isDated_of_failed answers failed t applied).before
      (newer e entered)

end Resumable

end Relations

/-! ## Runs -/

namespace Replayer

variable {σ : Type} {p : Replayer σ}

theorem Reaches.resumable {outside : σ} {steps : List (Step σ)} {r : Run σ}
    (reached : p.Reaches (.initial ⟨outside, []⟩) steps r)
    (increasing : IsIncreasing (appliedEntries steps))
    (succeeded : ∀ step ∈ steps, step.answer.isOk = true) :
    Resumable (appliedEntries steps) r.state (r.acknowledged.flatMap carried) := by
  revert increasing succeeded
  refine reached.invariant
    (fun steps r => IsIncreasing (appliedEntries steps) →
      (∀ step ∈ steps, step.answer.isOk = true) →
        Resumable (appliedEntries steps) r.state (r.acknowledged.flatMap carried))
    (fun _ _ => .initial) ?_
  intro steps step batches held answers sent increasing succeeded
  obtain ⟨earlierOk, lastOk⟩ := List.forall_mem_append.mp succeeded
  rw [appliedEntries_snoc] at increasing ⊢
  obtain ⟨earlier, newer⟩ := newer_of_isIncreasing increasing
  rw [flatMap_carried_of_acknowledges sent]
  exact (held earlier earlierOk).answer newer answers (lastOk step List.mem_cons_self)

theorem Reaches.safe {outside : σ} {steps : List (Step σ)} {r : Run σ}
    (reached : p.Reaches (.initial ⟨outside, []⟩) steps r)
    (increasing : IsIncreasing (appliedEntries steps))
    (succeeded : ∀ step ∈ steps.dropLast, step.answer.isOk = true) :
    ∀ e ∈ appliedEntries steps,
      Safe (appliedEntries steps) r.state (r.acknowledged.flatMap carried) e := by
  cases reached with
  | start => exact List.forall_mem_nil _
  | @step steps before _ answer call earlier ended =>
      rw [List.dropLast_concat] at succeeded
      rw [appliedEntries_snoc] at increasing ⊢
      obtain ⟨increasingBefore, newer⟩ := newer_of_isIncreasing increasing
      have resumable := earlier.resumable increasingBefore succeeded
      obtain ⟨batches, answers, sent⟩ := p.answer_ends call before answer r ended
      rw [flatMap_carried_of_acknowledges sent]
      cases last : answer.isOk with
      | true => exact (resumable.answer newer answers last).safe
      | false => exact resumable.safe_of_failed newer answers last

/-- In a run of which all calls but possibly the last succeed, over a log of increasing
timestamps, every entry passed on so far is safe: it is acknowledged, its transaction is
committed and acknowledged or aborted, or it will be read again when the log is read from
after the newest applied entry or from the oldest open transaction, whichever comes first.

Neither of these points ever moves back. -/
theorem Reaches.resume_point_safe {outside : σ} {earlier later : List (Step σ)}
    {middle last : Run σ} (one : p.Reaches (.initial ⟨outside, []⟩) earlier middle)
    (two : p.Reaches middle later last)
    (increasing : IsIncreasing (appliedEntries (earlier ++ later)))
    (succeeded : ∀ step ∈ (earlier ++ later).dropLast, step.answer.isOk = true) :
    (∀ e ∈ appliedEntries (earlier ++ later),
        Safe (appliedEntries (earlier ++ later)) last.state
          (last.acknowledged.flatMap carried) e) ∧
      NotAfter middle.state.lastApplied last.state.lastApplied ∧
      ∀ s t, middle.state.ledger.oldestActive? = some s →
        last.state.ledger.oldestActive? = some t → t.before s = false := by
  have forward := one.forward two increasing
  refine ⟨(one.trans two).safe increasing succeeded, forward.lastApplied, ?_⟩
  intro s t oldest oldestLater
  obtain ⟨id, progress, recorded, active, rfl⟩ := Ledger.exists_of_oldestActive? oldestLater
  exact forward.oldest s oldest id progress recorded active

end Replayer

/-- The commit fails before anything of its transaction is sent, and all entries are safe:
the insert is still to come, and the entries of the transaction are held. -/
theorem interrupted_commit_safe :
    ∃ steps r,
      (modest reluctant).Reaches (.initial ⟨false, []⟩) steps r ∧
        appliedEntries steps = interleaved ∧
          steps.map (fun step => step.answer.isOk) = [true, true, false] ∧
            ∀ e ∈ interleaved, Safe interleaved r.state (r.acknowledged.flatMap carried) e := by
  have computed : ((modest reluctant).perform (interleaved.map .apply)
      (.initial ⟨false, []⟩)).map (fun run => run.1.map fun step => step.answer.isOk) =
        some [true, true, false] := by
    rfl
  obtain ⟨⟨steps, r⟩, performed, outcomes⟩ := Option.map_eq_some_iff.mp computed
  obtain ⟨reached, asked⟩ := Replayer.reaches_of_perform performed
  have entries : appliedEntries steps = interleaved := by
    rw [appliedEntries_eq_filterMap_call, asked]
    rfl
  obtain ⟨earlier, later, rfl, _, _⟩ :=
    List.map_eq_append_iff.mp (asked.trans (List.take_append_drop 2 _).symm)
  have increasing : IsIncreasing (appliedEntries (earlier ++ later)) := by
    rw [entries]
    unfold IsIncreasing
    decide
  have succeeded : ∀ step ∈ (earlier ++ later).dropLast, step.answer.isOk = true := by
    have kept : ∀ outcome ∈ ((earlier ++ later).map fun step => step.answer.isOk).dropLast,
        outcome = true := by
      rw [outcomes]
      decide
    rw [← List.map_dropLast] at kept
    exact List.forall_mem_map.mp kept
  obtain ⟨middle, one, two⟩ := reached.split
  obtain ⟨safe, _⟩ := one.resume_point_safe two increasing succeeded
  rw [entries] at safe
  exact ⟨earlier ++ later, r, reached, entries, outcomes, safe⟩

end LogReplay.Replay
