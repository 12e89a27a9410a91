/-
Module: LogReplay.Proofs.Replay.InOrder
Purpose: What is applied is what the log says, in the order of the log.
Main exports:
  openEntries, inOrder?, InOrder, Replayer.Reaches.applies_log_in_order
-/
import LogReplay.Proofs.Replay.Calls
import LogReplay.Proofs.Transaction.Contents
import LogReplay.Proofs.Transaction.Ledger

/-!
`inOrder?` says what a log asks for, entry by entry and without batches, ledger or
destination: an entry outside of transactions asks for itself, a commit asks for the
contents of its transaction, and nothing else asks for anything.

A replay in which every call succeeds has applied just that, up to what still waits in
its batch.  The invariant ties the ledger to the log: the record of each transaction
gathers the entries that the log has for it since it last ended.
-/

namespace LogReplay.Replay

open Bson (Document Timestamp)
open Transaction

/-! ## What a log asks for -/

/-- The entry belongs to the transaction. -/
def isPartOf (id : Identity) (e : Entry) : Bool :=
  match Placement.ofEntry e with
  | .ok place => place.isTransactional && place.identity = id
  | .error _ => false

/-- The entry ends the transaction. -/
def isEndOf (id : Identity) (e : Entry) : Bool :=
  match Placement.ofEntry e with
  | .ok place => place.isFinal && place.identity = id
  | .error _ => false

/-- The entries of a transaction after the last one that ended it. -/
def openEntries (id : Identity) (log : List Entry) : List Entry :=
  ((log.reverse.takeWhile fun e => !isEndOf id e).filter (isPartOf id)).reverse

/-- What is to be applied when an entry follows those before it. -/
def contribution? (earlier : List Entry) (e : Entry) : Option (List Document) :=
  match Placement.ofEntry e with
  | .error _ => none
  | .ok place =>
      match place.role with
      | .outside => some [e.toDocument]
      | .single | .finalCommit =>
          (contents? (openEntries place.identity earlier ++ [e])).map
            (·.map Entry.toDocument)
      | .firstOfMany | .continuation | .finalAbort => some []

/-- What is to be applied for entries that follow others. -/
def inOrderAfter? (earlier : List Entry) : List Entry → Option (List Document)
  | [] => some []
  | e :: rest => do
      let first ← contribution? earlier e
      let later ← inOrderAfter? (earlier ++ [e]) rest
      some (first ++ later)

/-- What is to be applied for a whole log. -/
def inOrder? (log : List Entry) : Option (List Document) :=
  inOrderAfter? [] log

theorem inOrderAfter?_snoc (log : List Entry) (e : Entry) :
    ∀ earlier : List Entry,
      inOrderAfter? earlier (log ++ [e]) =
        (inOrderAfter? earlier log).bind fun documents =>
          (contribution? (earlier ++ log) e).map (documents ++ ·) := by
  induction log with
  | nil =>
      intro earlier
      simp [inOrderAfter?]
  | cons first rest inductionHypothesis =>
      intro earlier
      rw [List.cons_append, inOrderAfter?, inductionHypothesis, inOrderAfter?]
      cases contribution? earlier first with
      | none => rfl
      | some documents =>
          cases inOrderAfter? (earlier ++ [first]) rest with
          | none => rfl
          | some later =>
              cases last : contribution? (earlier ++ first :: rest) e <;> simp [last]

theorem inOrder?_snoc {log : List Entry} {e : Entry} {documents last : List Document}
    (before : inOrder? log = some documents) (asked : contribution? log e = some last) :
    inOrder? (log ++ [e]) = some (documents ++ last) := by
  rw [inOrder?] at before
  rw [inOrder?, inOrderAfter?_snoc, before, List.nil_append, asked]
  rfl

theorem openEntries_snoc (id : Identity) (log : List Entry) (e : Entry) :
    openEntries id (log ++ [e]) =
      if isEndOf id e then []
      else openEntries id log ++ if isPartOf id e then [e] else [] := by
  cases ending : isEndOf id e <;> cases part : isPartOf id e <;>
    simp [openEntries, ending, part]

section Roles

variable {place : Placement}

theorem role_of_outside (outside : place.isTransactional = false) : place.role = .outside := by
  simpa [Placement.isTransactional] using outside

theorem role_of_isCommit (commits : place.isCommit = true) :
    place.role = .single ∨ place.role = .finalCommit := by
  simpa [Placement.isCommit] using commits

theorem isCommit_of_isAbort (aborts : place.isAbort = true) : place.isCommit = false := by
  rw [Placement.isCommit, beq_iff_eq.mp aborts]
  rfl

theorem isAbort_of_isCommit (commits : place.isCommit = true) : place.isAbort = false := by
  cases aborts : place.isAbort with
  | false => rfl
  | true => exact absurd commits (Bool.eq_false_iff.mp (isCommit_of_isAbort aborts))

end Roles

section Placed

variable {e : Entry} {place : Placement} (placed : Placement.ofEntry e = .ok place)
include placed

theorem openEntries_snoc_of_ne {id : Identity} (different : id ≠ place.identity)
    (log : List Entry) : openEntries id (log ++ [e]) = openEntries id log := by
  simp [openEntries_snoc, isEndOf, isPartOf, placed, different.symm]

theorem openEntries_snoc_of_isFinal (final : place.isFinal = true) (log : List Entry) :
    openEntries place.identity (log ++ [e]) = [] := by
  simp [openEntries_snoc, isEndOf, placed, final]

theorem openEntries_snoc_of_isTransactional (inside : place.isTransactional = true)
    (more : place.isFinal = false) (log : List Entry) :
    openEntries place.identity (log ++ [e]) = openEntries place.identity log ++ [e] := by
  simp [openEntries_snoc, isEndOf, isPartOf, placed, inside, more]

theorem openEntries_snoc_of_outside (outside : place.isTransactional = false)
    (id : Identity) (log : List Entry) : openEntries id (log ++ [e]) = openEntries id log := by
  have role : place.role = .outside := role_of_outside outside
  have notFinal : place.isFinal = false := by
    rw [Placement.isFinal, role]
    rfl
  simp [openEntries_snoc, isEndOf, isPartOf, placed, outside, notFinal]

theorem contribution?_of_outside (outside : place.isTransactional = false)
    (log : List Entry) : contribution? log e = some [e.toDocument] := by
  have role : place.role = .outside := role_of_outside outside
  simp only [contribution?, placed, role]

theorem contribution?_of_isCommit (commits : place.isCommit = true) (log : List Entry) :
    contribution? log e =
      (contents? (openEntries place.identity log ++ [e])).map (·.map Entry.toDocument) := by
  rcases role_of_isCommit commits with role | role <;> simp only [contribution?, placed, role]

/-- Within a transaction, only a commit asks for anything. -/
theorem contribution?_eq_nil (inside : place.isTransactional = true)
    (commits : place.isCommit = false) (log : List Entry) : contribution? log e = some [] := by
  simp only [contribution?, placed]
  cases role : place.role with
  | outside => simp [Placement.isTransactional, role] at inside
  | single | finalCommit => simp [Placement.isCommit, role] at commits
  | firstOfMany | continuation | finalAbort => rfl

end Placed

theorem isFinal_eq (place : Placement) : place.isFinal = (place.isCommit || place.isAbort) :=
  rfl

/-! ## What was sent -/

section Relations

variable {limits : ReplaySettings} {st st' : State} {batches : List (List Document)}

/-- A flush that succeeds sends what was waiting. -/
theorem Flushes.documents (flushes : Flushes st (.ok ()) st' batches) :
    batches.flatten = st.pending.documents ∧ st'.pending.documents = [] ∧
      st'.ledger = st.ledger := by
  cases flushes with
  | idle nothing =>
      have empty := List.isEmpty_iff.mp nothing
      exact ⟨empty.symm, empty, rfl⟩
  | applied waiting => exact ⟨List.flatten_singleton, rfl, rfl⟩

/-- An entry that is put into the batch comes after everything that was waiting. -/
theorem Holds.documents {entry : Entry} (holds : Holds limits st entry (.ok ()) st' batches) :
    batches.flatten ++ st'.pending.documents = st.pending.documents ++ [entry.toDocument] ∧
      st'.ledger = st.ledger := by
  cases holds with
  | fits measured room => exact ⟨rfl, rfl⟩
  | flushed measured full flush =>
      obtain ⟨sent, empty, ledger⟩ := flush.documents
      refine ⟨?_, ledger⟩
      rw [sent]
      simp [State.pushed, Batch.push, empty]

/-- Operations that are all sent are faultless, and are sent in their order. -/
theorem Sends.documents {batch : Batch} {operations : List (Except Fault Entry)}
    {result : Except Fault Unit} (sends : Sends limits batch operations result batches)
    (succeeded : result = .ok ()) :
    ∃ found : List Entry, operations = found.map .ok ∧
      batches.flatten = batch.documents ++ found.map Entry.toDocument := by
  induction sends with
  | finished nothing => exact ⟨[], rfl, by simp [List.isEmpty_iff.mp nothing]⟩
  | lastApplied waiting => exact ⟨[], rfl, by simp⟩
  | @fits batch operation bytes rest result batches measured room later inductionHypothesis =>
      obtain ⟨found, rfl, sent⟩ := inductionHypothesis succeeded
      exact ⟨operation :: found, rfl, by simp [sent, Batch.push]⟩
  | @applied batch operation bytes rest result batches measured full later
      inductionHypothesis =>
      obtain ⟨found, rfl, sent⟩ := inductionHypothesis succeeded
      exact ⟨operation :: found, rfl, by simp [sent, Batch.push, Batch.empty]⟩
  | lastRefused | malformed | unencodable | refused => cases succeeded

/-- A commit that succeeds sends what was waiting, and then the contents of the
transaction. -/
theorem Concludes.documents {place : Placement} {timestamp : Timestamp} {entries : List Entry}
    (concludes : Concludes limits place timestamp st (.ok ()) st' batches)
    (commits : place.isCommit = true)
    (gathered : st.ledger.entriesOf place.identity = .ok entries) :
    ∃ found, contents? entries = some found ∧
      batches.flatten = st.pending.documents ++ found.map Entry.toDocument ∧
      st'.pending.documents = [] ∧ st'.ledger = st.ledger.purge place.identity := by
  cases concludes with
  | gathered plain => exact absurd commits (Bool.eq_false_iff.mp plain)
  | aborted aborts =>
      exact absurd commits (Bool.eq_false_iff.mp (isCommit_of_isAbort aborts))
  | committed commits flush read send =>
      obtain ⟨waiting, empty, ledger⟩ := flush.documents
      rw [ledger, gathered] at read
      cases read
      obtain ⟨found, faultless, sent⟩ := send.documents rfl
      refine ⟨found, contents?_of_operations faultless, ?_, empty, ?_⟩
      · rw [List.flatten_append, waiting, sent]
        rfl
      · simp only [State.committed, State.sent, ledger]

end Relations

/-! ## The invariant -/

/-- The record of a transaction gathers these entries. -/
def Gathers : Option Progress → List Entry → Prop
  | none, entries => entries = []
  | some ⟨.gathering gathered, _⟩, entries => gathered = entries ∧ entries ≠ []
  | some _, _ => False

/-- How far a transaction has come when an entry of its own follows its entries. -/
def phaseAt (place : Placement) (entries : List Entry) : Phase :=
  if place.isCommit then .committed entries
  else if place.isAbort then .aborted
  else .gathering entries

/-- The documents that were sent and those that wait are what the log asks for, and the
ledger has what the log has of transactions that have not ended. -/
structure InOrder (log : List Entry) (st : State) (sent : List Document) : Prop where
  asked : inOrder? log = some (sent ++ st.pending.documents)
  gathers : ∀ id, Gathers (st.ledger.progress? id) (openEntries id log)

namespace InOrder

variable {limits : ReplaySettings} {log : List Entry} {st st' : State}
  {sent : List Document} {batches : List (List Document)}

theorem initial : InOrder [] .initial [] where
  asked := rfl
  gathers _ := rfl

theorem flush (inOrder : InOrder log st sent) (flushes : Flushes st (.ok ()) st' batches) :
    InOrder log st' (sent ++ batches.flatten) := by
  obtain ⟨documents, empty, ledger⟩ := flushes.documents
  constructor
  · rw [documents, empty, List.append_nil]
    exact inOrder.asked
  · rw [ledger]
    exact inOrder.gathers

/-- An entry that ends a transaction leaves no record of it, whatever was recorded. -/
theorem gathers_purge {entry : Entry} {place : Placement} (inOrder : InOrder log st sent)
    (placed : Placement.ofEntry entry = .ok place) (final : place.isFinal = true)
    (progress : Progress) (id : Identity) :
    Gathers (((st.ledger.put place.identity progress).purge place.identity).progress? id)
      (openEntries id (log ++ [entry])) := by
  by_cases same : id = place.identity
  · rw [same, Ledger.progress?_purge_self]
    exact openEntries_snoc_of_isFinal placed final log
  · rw [Ledger.progress?_purge_of_ne same, Ledger.progress?_put_of_ne progress same,
      openEntries_snoc_of_ne placed same]
    exact inOrder.gathers id

/-- An entry that continues a transaction is gathered after those before it. -/
theorem gathers_put {entry : Entry} {place : Placement} (inOrder : InOrder log st sent)
    (placed : Placement.ofEntry entry = .ok place) (inside : place.isTransactional = true)
    (more : place.isFinal = false) (first : Timestamp) (id : Identity) :
    Gathers
      ((st.ledger.put place.identity
        ⟨.gathering (openEntries place.identity log ++ [entry]), first⟩).progress? id)
      (openEntries id (log ++ [entry])) := by
  by_cases same : id = place.identity
  · rw [same, Ledger.progress?_put_self,
      openEntries_snoc_of_isTransactional placed inside more]
    exact ⟨rfl, List.concat_ne_nil _ _⟩
  · rw [Ledger.progress?_put_of_ne _ same, openEntries_snoc_of_ne placed same]
    exact inOrder.gathers id

/-- An accepted entry leaves a record of the entries that the log has gathered for it. -/
theorem exists_ledger_eq_put {entry : Entry} {place : Placement} {ledger : Ledger}
    (inOrder : InOrder log st sent) (added : st.ledger.add place entry = .ok ledger) :
    ∃ first, ledger = st.ledger.put place.identity
      ⟨phaseAt place (openEntries place.identity log ++ [entry]), first⟩ := by
  obtain ⟨progress, advances, rfl⟩ := Ledger.exists_advances_of_add added
  have gathers := inOrder.gathers place.identity
  generalize role : place.role = r at advances
  generalize st.ledger.progress? place.identity = record at advances gathers
  rw [phaseAt, Placement.isCommit, Placement.isAbort, role]
  cases advances with
  | whole | opened | unseen =>
      rw [show openEntries place.identity log = [] from gathers]
      exact ⟨_, rfl⟩
  | continued entries first | completed entries first | abandoned entries first =>
      rw [← show entries = openEntries place.identity log from gathers.1]
      exact ⟨_, rfl⟩

theorem applyPlain {entry : Entry} {place : Placement} (inOrder : InOrder log st sent)
    (placed : Placement.ofEntry entry = .ok place) (outside : place.isTransactional = false)
    (holds : Holds limits st.counted entry (.ok ()) st' batches) :
    InOrder (log ++ [entry]) st' (sent ++ batches.flatten) := by
  obtain ⟨documents, ledger⟩ := holds.documents
  have asked := contribution?_of_outside placed outside log
  constructor
  · rw [inOrder?_snoc inOrder.asked asked, List.append_assoc, List.append_assoc, documents]
    rfl
  · intro id
    rw [ledger, openEntries_snoc_of_outside placed outside]
    exact inOrder.gathers id

/-- An entry of a transaction is gathered, or ends it. -/
theorem applyInside {entry : Entry} {place : Placement} {first : Timestamp}
    (inOrder : InOrder log st sent) (placed : Placement.ofEntry entry = .ok place)
    (inside : place.isTransactional = true)
    (concludes : Concludes limits place entry.timestamp
      (st.counted.entered (st.ledger.put place.identity
        ⟨phaseAt place (openEntries place.identity log ++ [entry]), first⟩))
      (.ok ()) st' batches) :
    InOrder (log ++ [entry]) st' (sent ++ batches.flatten) := by
  cases commits : place.isCommit with
  | true =>
      rw [phaseAt, if_pos commits] at concludes
      obtain ⟨found, contents, documents, empty, ledger⟩ :=
        concludes.documents commits (Ledger.entriesOf_put_committed _ _ _ _)
      have asked := contribution?_of_isCommit placed commits log
      rw [contents, Option.map_some] at asked
      have final : place.isFinal = true := by
        rw [isFinal_eq, commits, Bool.true_or]
      constructor
      · rw [inOrder?_snoc inOrder.asked asked, documents, empty, List.append_nil,
          List.append_assoc]
        rfl
      · intro id
        rw [ledger]
        exact inOrder.gathers_purge placed final _ id
  | false =>
      have asked := contribution?_eq_nil placed inside commits log
      have silent : inOrder? (log ++ [entry]) =
          some (sent ++ [].flatten ++ st.pending.documents) := by
        rw [inOrder?_snoc inOrder.asked asked, List.append_nil, List.flatten_nil,
          List.append_nil]
      cases concludes with
      | committed commits' => exact absurd commits' (Bool.eq_false_iff.mp commits)
      | aborted aborts =>
          have final : place.isFinal = true := by
            rw [isFinal_eq, aborts, Bool.or_true]
          exact ⟨silent, fun id => inOrder.gathers_purge placed final _ id⟩
      | gathered _ aborts =>
          have more : place.isFinal = false := by
            rw [isFinal_eq, commits, aborts, Bool.or_false]
          refine ⟨silent, fun id => ?_⟩
          rw [phaseAt, if_neg (Bool.eq_false_iff.mp commits), if_neg (Bool.eq_false_iff.mp aborts)]
          exact inOrder.gathers_put placed inside more first id

/-- An entry that is applied keeps everything in order. -/
theorem apply {entry : Entry} (inOrder : InOrder log st sent)
    (applies : Applies limits st entry (.ok ()) st' batches) :
    InOrder (log ++ [entry]) st' (sent ++ batches.flatten) := by
  cases applies with
  | plain placed outside hold => exact inOrder.applyPlain placed outside hold
  | entered placed inside added conclude =>
      obtain ⟨first, rfl⟩ := inOrder.exists_ledger_eq_put added
      exact inOrder.applyInside placed inside conclude

/-- A call that succeeds keeps everything in order. -/
theorem answer {call : Call} {answer : Answer} (inOrder : InOrder log st sent)
    (answers : Answers limits st call answer st' batches) (succeeded : answer.isOk = true) :
    InOrder (log ++ call.entry?.toList) st' (sent ++ batches.flatten) := by
  rcases answers.of_isOk succeeded with ⟨entry, rfl, applies⟩ | ⟨entryless, flushes⟩
  · exact inOrder.apply applies
  · rw [entryless, Option.toList_none, List.append_nil]
    exact inOrder.flush flushes

end InOrder

namespace Replayer

variable {σ : Type} {p : Replayer σ}

theorem flatMap_carried_of_acknowledges {before after : Run σ} {batches : List (List Document)}
    (sent : p.Acknowledges before after batches) :
    after.acknowledged.flatMap carried =
      before.acknowledged.flatMap carried ++ batches.flatten := by
  rw [sent, List.flatMap_append, Session.flatMap_carried_map_command]

/-- As long as every call succeeds, what was applied and what waits is what the log asks
for. -/
theorem Reaches.inOrder {outside : σ} {steps : List (Step σ)} {r : Run σ}
    (reached : p.Reaches (.initial ⟨outside, []⟩) steps r)
    (succeeded : ∀ step ∈ steps, step.answer.isOk = true) :
    InOrder (appliedEntries steps) r.state (r.acknowledged.flatMap carried) := by
  induction reached with
  | start => exact .initial
  | @step steps before after answer call earlier ended inductionHypothesis =>
      obtain ⟨earlierOk, lastOk⟩ := List.forall_mem_append.mp succeeded
      obtain ⟨batches, answers, sent⟩ := p.answer_ends call before answer after ended
      rw [appliedEntries_snoc, flatMap_carried_of_acknowledges sent]
      exact (inductionHypothesis earlierOk).answer answers (lastOk _ List.mem_cons_self)

/-- Every acknowledged command applies something. -/
theorem Reaches.acknowledged_commands {outside : σ} {steps : List (Step σ)} {r : Run σ}
    (reached : p.Reaches (.initial ⟨outside, []⟩) steps r) :
    ∀ command ∈ r.acknowledged,
      carried command ≠ [] ∧ command = p.session.command (carried command) := by
  refine reached.invariant
    (fun _ r => ∀ command ∈ r.acknowledged,
      carried command ≠ [] ∧ command = p.session.command (carried command))
    (List.forall_mem_nil _) ?_
  intro steps step batches held answers sent
  rw [sent]
  refine List.forall_mem_append.mpr ⟨held, ?_⟩
  intro command member
  obtain ⟨documents, inBatches, rfl⟩ := List.mem_map.mp member
  rw [Session.command, Session.carried_batchCommand]
  exact ⟨answers.ne_nil documents inBatches, rfl⟩

/-- If every call succeeds, up to a finish that closes the run, the acknowledged commands
carry exactly what the log asks for, in the order of the log and cut into batches: each
carries at least one entry, and a closing command exactly if it carries more than one.

What a log asks for does not mention the ledger.  But at every point of the run the
ledger has just the entries that the log has of transactions that have not ended. -/
theorem Reaches.applies_log_in_order {outside : σ} {steps : List (Step σ)} {closing : Step σ}
    {r : Run σ} (reached : p.Reaches (.initial ⟨outside, []⟩) (steps ++ [closing]) r)
    (finishes : closing.call = .finish)
    (succeeded : ∀ step ∈ steps ++ [closing], step.answer.isOk = true) :
    inOrder? (appliedEntries steps) = some (r.acknowledged.flatMap carried) ∧
      (∀ command ∈ r.acknowledged,
        carried command ≠ [] ∧ command = p.session.command (carried command)) ∧
      ∀ earlier step later, steps ++ [closing] = earlier ++ step :: later → ∀ id,
        Gathers (step.before.state.ledger.progress? id)
          (openEntries id (appliedEntries earlier)) := by
  refine ⟨?_, reached.acknowledged_commands, ?_⟩
  · have asked := (reached.inOrder succeeded).asked
    obtain ⟨_, ended, rfl⟩ := reached.snoc_inv
    obtain ⟨batches, answers, _⟩ := p.answer_ends _ _ _ _ ended
    have last := succeeded closing (List.mem_append_right _ List.mem_cons_self)
    rcases answers.of_isOk last with ⟨entry, other, _⟩ | ⟨entryless, flushes⟩
    · cases finishes.symm.trans other
    obtain ⟨_, nothing, _⟩ := flushes.documents
    rw [appliedEntries_snoc, entryless, Option.toList_none, List.append_nil, nothing,
      List.append_nil] at asked
    exact asked
  · intro earlier step later whole id
    rw [whole] at reached succeeded
    have before := (List.forall_mem_append.mp succeeded).1
    exact (reached.before.inOrder before).gathers id

end Replayer

/-! ## A run in which every call succeeds -/

/-- An entry of a transaction, with an operation of its own. -/
def partAt (time : UInt32) (flags : Document) : Entry :=
  let operation : Document :=
    [("op", .string "i"), ("ns", .string "shop.orders"), ("o", .document [("_id", .int32 2)])]
  { Entry.noop "" with
    timestamp := ⟨time, 1⟩
    operation := "c"
    namespaceText := "admin.$cmd"
    body := ("applyOps", .array [.document operation]) :: flags
    session := some [("id", .int32 7)]
    transactionNumber := some 1 }

/-- An insert between the two entries of a transaction. -/
def interleaved : List Entry :=
  [partAt 1 [("partialTxn", .boolean true)], insertAt 2,
   { partAt 3 [] with previous := some ⟨⟨1, 1⟩, none⟩ }]

/-- The insert goes first, and then both operations of the transaction. -/
theorem interleaved_applied_in_order :
    ∃ steps closing r,
      (modest agreeable).Reaches (.initial ⟨(), []⟩) (steps ++ [closing]) r ∧
        appliedEntries steps = interleaved ∧
          inOrder? interleaved = some (r.acknowledged.flatMap carried) := by
  have succeeds : (modest agreeable).succeeds (interleaved.map .apply ++ [.finish])
      (.initial ⟨(), []⟩) = true := by
    decide +kernel
  obtain ⟨_, r, reached, asked, succeeded⟩ := Replayer.exists_reaches_of_succeeds succeeds
  obtain ⟨steps, last, rfl, applied, finished⟩ := List.map_eq_append_iff.mp asked
  obtain ⟨closing, rfl, finishes⟩ := List.map_eq_singleton_iff.mp finished
  have entries : appliedEntries steps = interleaved := by
    rw [appliedEntries_eq_filterMap_call, applied]
    rfl
  obtain ⟨inOrder, _⟩ := reached.applies_log_in_order finishes succeeded
  rw [entries] at inOrder
  exact ⟨steps, closing, r, reached, entries, inOrder⟩

end LogReplay.Replay
