/-
Module: LogReplay.Proofs.Replay.Capacity
Purpose: When the command of a batch fits into a document of the largest size.
Main exports:
  Session.wireSize_batchCommand_le, Session.le_wireSize_batchCommand, Batch.Within,
  Batch.Compact, Replayer.MaySend, Replayer.Reaches.batches_fit
-/
import LogReplay.Proofs.Bson.Size
import LogReplay.Proofs.Replay.Calls
import LogReplay.Proofs.Session.Mutation
import LogReplay.Proofs.Transaction.Contents

/-!
A batch of more than one entry stays within the limits of the settings.  The command that
applies it takes more: an index for each entry, the closing command with its message, and
the fields around them.  The largest limit on the bytes of a batch leaves a headroom for
that.

Indices and fields are bounded by the limit on the number of entries.  Nothing bounds the
message, so the headroom suffices for settings whose message leaves enough of it, and not
for all.

A batch counts the byte forms of its entries and sends their document forms.  These are no
longer if the entries are compact, and the operations of transactions are, because they have
been read.
-/

namespace LogReplay

open Bson

/-! ## The size of a command -/

namespace Session

variable {σ : Type} (s : Session σ)

theorem wireSize_noopCommand :
    s.noopCommand.wireSize = s.settings.noopMessage.utf8ByteSize + 113 := by
  have body : Document.written [("msg", .string s.settings.noopMessage)] =
      .document [("msg", .string s.settings.noopMessage)] := rfl
  have texts : "op".utf8ByteSize = 2 ∧ "c".utf8ByteSize = 1 ∧ "ns".utf8ByteSize = 2 ∧
      "noop.$cmd".utf8ByteSize = 9 ∧ "o".utf8ByteSize = 1 ∧ "applyOps".utf8ByteSize = 8 ∧
      "ts".utf8ByteSize = 2 ∧ "n".utf8ByteSize = 1 ∧ "msg".utf8ByteSize = 3 ∧
      "".utf8ByteSize = 0 ∧ (toString 0).utf8ByteSize = 1 := by
    decide
  simp only [noopCommand, noop, Entry.noop, Entry.toDocument, Entry.fields, Entry.present, body,
    Document.wireSize, Value.wireSize, fieldsWireSize, itemsWireSize, Option.map_none,
    List.append_nil, List.nil_append, List.cons_append]
  omega

/-- Around its operations a command has its fields and the request to wait for a majority. -/
theorem wireSize_batchCommand (entries : List Document) (bypass : Bool) :
    (s.batchCommand entries bypass).wireSize =
      itemsWireSize 0 ((s.batchOperations entries).map .document) +
        (if bypass then 82 else 55) := by
  have texts : "applyOps".utf8ByteSize = 8 ∧ "bypassDocumentValidation".utf8ByteSize = 24 ∧
      "writeConcern".utf8ByteSize = 12 ∧ "w".utf8ByteSize = 1 ∧ "majority".utf8ByteSize = 8 := by
    decide
  have differ : "applyOps" ≠ "writeConcern" ∧ "bypassDocumentValidation" ≠ "writeConcern" := by
    decide
  cases bypass <;>
  · simp only [batchCommand, majority, Document.put, Document.wireSize, Value.wireSize,
      fieldsWireSize, if_neg differ.1, if_neg differ.2, if_true, if_false, Bool.false_eq_true]
    omega

theorem wireSize_batchCommand_of_several {entries : List Document}
    (several : 1 < entries.length) (bypass : Bool) :
    (s.batchCommand entries bypass).wireSize =
      itemsWireSize 0 (entries.map .document) + (toString entries.length).utf8ByteSize +
        s.settings.noopMessage.utf8ByteSize + 115 + (if bypass then 82 else 55) := by
  have closing := s.wireSize_noopCommand
  rw [Document.wireSize] at closing
  rw [wireSize_batchCommand, batchOperations, if_pos several, List.map_append,
    itemsWireSize_append]
  simp only [List.map_cons, List.map_nil, itemsWireSize, Value.wireSize, List.length_map,
    Nat.zero_add]
  omega

/-- What a command of several entries takes at most besides the entries. -/
def overhead (entries : Nat) : Nat :=
  7 * entries + s.settings.noopMessage.utf8ByteSize + 203

theorem wireSize_batchCommand_le {entries : List Document} (several : 1 < entries.length)
    (few : entries.length ≤ ReplaySettings.operationsLimit) (bypass : Bool) :
    (s.batchCommand entries bypass).wireSize ≤
      totalSize entries + s.overhead entries.length := by
  have limit : ReplaySettings.operationsLimit = 10 ^ 5 := rfl
  have indices : 0 + entries.length ≤ 10 ^ 5 := by omega
  have own := itemsWireSize_le (by decide) entries indices
  have digits : (toString entries.length).utf8ByteSize ≤ 6 :=
    utf8ByteSize_toString_le (by decide) (by omega)
  rw [s.wireSize_batchCommand_of_several several, overhead]
  split <;> omega

theorem le_wireSize_batchCommand {entries : List Document} (several : 1 < entries.length)
    (bypass : Bool) :
    totalSize entries + s.settings.noopMessage.utf8ByteSize ≤
      (s.batchCommand entries bypass).wireSize := by
  have own := totalSize_le_itemsWireSize entries 0
  rw [s.wireSize_batchCommand_of_several several]
  omega

end Session

theorem Entry.IsCompact.wireSize_le {entry : Entry} (compact : entry.IsCompact) {bytes : Nat}
    (measured : entry.encodedLength? = some bytes) : entry.toDocument.wireSize ≤ bytes := by
  have sent := compact
  rwa [IsCompact, Document.length_encode, length_encode_of_encodedLength? measured] at sent

namespace Replay

/-! ## Batches within the limits -/

/-- The batch stays within the limits; one entry may be larger than the limit on bytes. -/
structure Batch.Within (limits : ReplaySettings) (b : Batch) : Prop where
  size : b.size ≤ limits.maxBatchOperations
  several : 1 < b.size → b.bytes ≤ limits.maxBatchBytes

/-- The documents of a batch take no more bytes than it has counted. -/
structure Batch.Compact (limits : ReplaySettings) (b : Batch) : Prop
    extends Batch.Within limits b where
  counted : totalSize b.documents ≤ b.bytes

namespace Batch

variable {limits : ReplaySettings} {b : Batch}

theorem within_empty (limits : ReplaySettings) : empty.Within limits where
  size := Nat.zero_le _
  several := by
    intro more
    cases more

theorem overflows_of_isEmpty (nothing : b.isEmpty = true) (bytes : Nat) :
    b.overflows limits bytes = false := by
  rw [overflows, nothing]
  rfl

theorem within_push (entry : Entry) {bytes : Nat}
    (positive : 0 < limits.maxBatchOperations) (fits : b.overflows limits bytes = false) :
    (b.push entry bytes).Within limits where
  size := size_push_le positive fits
  several := by
    intro more
    rw [size_push] at more
    have waiting : b.isEmpty = false := by
      rw [isEmpty, List.isEmpty_eq_false_iff]
      exact List.ne_nil_of_length_pos (Nat.lt_of_succ_lt_succ more)
    simp only [overflows, waiting, Bool.not_false, Bool.true_and, Bool.or_eq_false_iff,
      decide_eq_false_iff_not, Nat.not_lt] at fits
    exact fits.2

theorem compact_empty (limits : ReplaySettings) : empty.Compact limits where
  toWithin := within_empty limits
  counted := Nat.le_refl 0

theorem Compact.push (compact : b.Compact limits) {entry : Entry} {bytes : Nat}
    (positive : 0 < limits.maxBatchOperations) (small : entry.IsCompact)
    (measured : entry.encodedLength? = some bytes) (fits : b.overflows limits bytes = false) :
    (b.push entry bytes).Compact limits where
  toWithin := within_push entry positive fits
  counted := by
    rw [Batch.push, totalSize_concat]
    exact Nat.add_le_add compact.counted (small.wireSize_le measured)

end Batch

/-! ## The acts of a replay -/

namespace Replayer

open Transaction

variable {σ : Type}

/-- A replay sends batches within the limits, and probes. -/
inductive MaySend (p : Replayer σ) : String → Document → Prop where
  | probe : MaySend p "admin" p.session.probeCommand
  | batch {b : Batch} (compact : b.Compact p.settings) :
      MaySend p "admin" (p.session.command b.documents)

/-- Nothing else has been sent, and the waiting batch is within the limits. -/
structure Fits (p : Replayer σ) (w : World σ) (r : Run σ) : Prop where
  sent : p.session.UnfoldsWithin p.MaySend w r.world
  waiting : r.state.pending.Compact p.settings

variable {p : Replayer σ} {w : World σ} {r : Run σ}

theorem Fits.record (fits : p.Fits w r) {events : List Event}
    (reports : ∀ event ∈ events, event.isReport = true) : p.Fits w (r.record events) := by
  refine ⟨?_, fits.waiting⟩
  induction events generalizing r with
  | nil =>
      rw [Run.record, List.append_nil]
      exact fits.sent
  | cons event rest inductionHypothesis =>
      obtain ⟨report, later⟩ := List.forall_mem_cons.mp reports
      have silent : event.isSilent = true := by
        cases event <;> first | rfl | cases report
      have one : p.Fits w (r.record [event]) := ⟨fits.sent.record silent, fits.waiting⟩
      have all := inductionHypothesis one later
      rwa [Run.record, Run.record, List.append_assoc] at all

/-- Acts that change counts, the ledger or timestamps alone. -/
theorem Fits.update (fits : p.Fits w r) {f : State → State}
    (same : (f r.state).pending = r.state.pending) : p.Fits w (r.update f) :=
  ⟨fits.sent, by rw [Run.update, same]; exact fits.waiting⟩

theorem update_fits (f : State → State) (same : ∀ st, (f st).pending = st.pending) :
    (Act.change (Run.update f) : Act (Run σ) Fault Unit).Preserves (p.Fits w) :=
  fun r fits => (Act.ends_change _).mpr (fits.update (same r.state))

theorem count_fits (f : Tally → Tally) :
    (Act.change (Run.count f) : Act (Run σ) Fault Unit).Preserves (p.Fits w) :=
  update_fits _ fun _ => rfl

theorem applyBatch_fits {b : Batch} (compact : b.Compact p.settings) (fits : p.Fits w r) :
    (inWorld (p.session.applyBatch b.documents)).Ends r fun _ t =>
      p.Fits w t ∧ t.state = r.state := by
  have kept : (p.session.applyBatch b.documents).Preserves
      (p.session.UnfoldsWithin p.MaySend w) :=
    Session.applyBatchWith_preserves_within .probe (.batch compact)
  refine Act.ends_within.mpr ((kept r.world fits.sent).mono ?_)
  intro result world sent
  exact ⟨⟨sent, fits.waiting⟩, rfl⟩

theorem flush_fits (fits : p.Fits w r) :
    p.flush.Ends r fun result t =>
      p.Fits w t ∧ (result = .ok () → t.state.pending.isEmpty = true) := by
  rw [flush]
  simp only [Act.ends_bind, Act.ends_read]
  split
  · next nothing => exact (Act.ends_pure ()).mpr ⟨fits, fun _ => nothing⟩
  · simp only [Act.ends_bind, Act.ends_change]
    have emptied : p.Fits w (r.update fun st => { st with pending := .empty }) :=
      ⟨fits.sent, Batch.compact_empty p.settings⟩
    refine (applyBatch_fits fits.waiting emptied).mono ?_
    rintro (fault | reply) t ⟨kept, state⟩
    · exact ⟨kept, fun succeeded => (by cases succeeded)⟩
    · refine ⟨(kept.update rfl).update rfl, fun _ => ?_⟩
      rw [Run.update, Run.count, Run.update, state]
      rfl

theorem applyPlain_fits (positive : 0 < p.settings.maxBatchOperations) {entry : Entry}
    (small : entry.IsCompact) : (p.applyPlain entry).Preserves (p.Fits w) := by
  intro r fits
  rw [applyPlain]
  cases measured : entry.encodedLength? with
  | none => exact (Act.ends_fail _).mpr fits
  | some bytes =>
      have pushed {t : Run σ} (kept : p.Fits w t)
          (room : t.state.pending.overflows p.settings bytes = false) :
          p.Fits w (t.update fun st => { st with pending := st.pending.push entry bytes }) :=
        ⟨kept.sent, kept.waiting.push positive small measured room⟩
      simp only [Act.ends_bind, Act.ends_read]
      split
      · simp only [Act.ends_bind, Act.ends_change]
        refine (flush_fits fits).mono ?_
        rintro (fault | ⟨⟩) t ⟨kept, emptied⟩
        · exact kept
        · exact (pushed kept (Batch.overflows_of_isEmpty (emptied rfl) bytes)).update rfl
      · next room =>
        simp only [Act.ends_bind, Act.ends_change]
        exact (pushed fits (eq_false_of_ne_true room)).update rfl

theorem sendTransactionBatch_fits {b : Batch} (compact : b.Compact p.settings) :
    (p.sendTransactionBatch b).Preserves (p.Fits w) := by
  intro r fits
  rw [sendTransactionBatch]
  simp only [Act.ends_bind, Act.ends_change]
  refine (applyBatch_fits compact fits).mono ?_
  rintro (fault | reply) t ⟨kept, _⟩
  · exact kept
  · exact kept.update rfl

theorem makeRoom_fits {b : Batch} (compact : b.Compact p.settings) (bytes : Nat)
    (fits : p.Fits w r) :
    (p.makeRoom b bytes).Ends r fun result t => p.Fits w t ∧
      ∀ room, result = .ok room →
        room.Compact p.settings ∧ room.overflows p.settings bytes = false := by
  rw [makeRoom]
  split
  · refine Act.ends_bind.mpr ((sendTransactionBatch_fits compact r fits).mono ?_)
    rintro (fault | ⟨⟩) t kept
    · exact ⟨kept, fun _ made => (by cases made)⟩
    · refine (Act.ends_pure _).mpr ⟨kept, ?_⟩
      rintro _ ⟨⟩
      exact ⟨Batch.compact_empty p.settings, Batch.overflows_empty p.settings bytes⟩
  · next room =>
    refine (Act.ends_pure b).mpr ⟨fits, ?_⟩
    rintro _ ⟨⟩
    exact ⟨compact, eq_false_of_ne_true room⟩

theorem sendOperations_fits (positive : 0 < p.settings.maxBatchOperations)
    (operations : List (Except Fault Entry)) :
    (∀ operation, .ok operation ∈ operations → operation.IsCompact) →
      ∀ {b : Batch} {handedOut : Nat}, b.Compact p.settings →
        (p.sendOperations b handedOut operations).Preserves (p.Fits w) := by
  induction operations with
  | nil =>
      intro _ b handedOut compact r fits
      rw [sendOperations]
      simp only [Act.ends_bind, Act.ends_change]
      have finished : p.Fits w (r.record [.readerFinished handedOut]) :=
        fits.record (by simp [Event.isReport])
      split
      · exact (Act.ends_pure ()).mpr finished
      · exact sendTransactionBatch_fits compact _ finished
  | cons head rest inductionHypothesis =>
      intro small b handedOut compact r fits
      have abandoned {t : Run σ} (kept : p.Fits w t) : p.Fits w (t.record [.readerAbandoned]) :=
        kept.record (by simp [Event.isReport])
      cases head with
      | error fault =>
          rw [sendOperations]
          exact (Act.ends_fail fault).mpr fits
      | ok operation =>
          rw [sendOperations]
          cases measured : operation.encodedLength? with
          | none =>
              simp only [Act.ends_bind, Act.ends_change, Act.ends_fail]
              exact abandoned fits
          | some bytes =>
              simp only [Act.ends_bind, Act.ends_onFault]
              refine (makeRoom_fits compact bytes fits).mono ?_
              rintro (fault | room) t ⟨kept, made⟩
              · exact abandoned kept
              · obtain ⟨roomCompact, fitsIn⟩ := made room rfl
                have pushed := roomCompact.push positive (small operation List.mem_cons_self)
                  measured fitsIn
                exact inductionHypothesis (fun _ member => small _ (List.mem_cons_of_mem _ member))
                  pushed t kept

theorem purge_fits (id : Identity) :
    (purge id : Act (Run σ) Fault Unit).Preserves (p.Fits w) := by
  intro r fits
  simp only [purge, Act.ends_bind, Act.ends_read, Act.ends_change]
  exact (fits.update rfl).record fun _ => isReport_of_mem_purgeEvents

theorem enter_fits (place : Placement) (entry : Entry) :
    (enter place entry : Act (Run σ) Fault Unit).Preserves (p.Fits w) := by
  intro r fits
  simp only [enter, Act.ends_bind, Act.ends_read]
  cases r.state.ledger.add place entry with
  | error fault => exact (Act.ends_ofExcept _).mpr fits
  | ok ledger =>
      simp only [Act.ends_ofExcept, Act.ends_change]
      exact ((fits.update rfl).record fun _ => isReport_of_mem_addEvents).update rfl

theorem conclude_fits (positive : 0 < p.settings.maxBatchOperations) (place : Placement)
    (timestamp : Timestamp) : (p.conclude place timestamp).Preserves (p.Fits w) := by
  have flushed : p.flush.Preserves (p.Fits w) :=
    fun r fits => (flush_fits fits).mono fun _ _ => And.left
  rw [conclude]
  split
  · refine flushed.bind fun _ => ?_
    have committed : (p.applyCommitted place.identity).Preserves (p.Fits w) := by
      intro r fits
      simp only [applyCommitted, Act.ends_bind, Act.ends_read, Act.ends_ofExcept]
      cases r.state.ledger.entriesOf place.identity with
      | error fault => exact fits
      | ok entries =>
          exact sendOperations_fits positive (operations entries)
            (fun _ member => (isLiteral_of_mem_operations member).isCompact)
            (Batch.compact_empty p.settings) r fits
    refine committed.bind fun _ => (purge_fits place.identity).bind fun _ => ?_
    exact (count_fits _).bind fun _ => update_fits _ fun _ => rfl
  · split
    · exact (purge_fits place.identity).bind fun _ => count_fits _
    · exact Act.preserves_pure ()

theorem apply_fits (positive : 0 < p.settings.maxBatchOperations) {entry : Entry}
    (small : isOutside entry = true → entry.IsCompact) :
    (p.apply entry).Preserves (p.Fits w) := by
  intro r fits
  rw [apply]
  simp only [Act.ends_bind, Act.ends_change, Act.ends_ofExcept]
  have noted : p.Fits w (r.record (placementEvents entry)) :=
    fits.record fun _ => isReport_of_mem_placementEvents
  cases placed : Placement.ofEntry entry with
  | error fault => exact noted
  | ok place =>
      dsimp only
      split
      · exact ((enter_fits place entry).bind fun _ =>
          conclude_fits positive place entry.timestamp) _ (noted.update rfl)
      · next outside =>
        have alone : isOutside entry = true := by
          simp only [isOutside, placed, eq_false_of_ne_true outside, Bool.not_false]
        exact applyPlain_fits positive (small alone) _ (noted.update rfl)

theorem answer_fits (positive : 0 < p.settings.maxBatchOperations) (call : Call)
    (small : ∀ entry ∈ call.entry?, isOutside entry = true → entry.IsCompact) :
    (p.answer call).Preserves (p.Fits w) := by
  have flushed : p.flush.Preserves (p.Fits w) :=
    fun r fits => (flush_fits fits).mono fun _ _ => And.left
  cases call with
  | apply entry => exact (apply_fits positive (small entry rfl)).bind fun _ => Act.preserves_pure _
  | flush => exact flushed.bind fun _ => Act.preserves_pure _
  | finish =>
      refine Act.Preserves.bind (flushed.bind fun _ => ?_) fun _ => Act.preserves_pure _
      intro r fits
      simp only [Act.ends_bind, Act.ends_read]
      exact (Act.ends_pure _).mpr fits

theorem Reaches.fits {start : Run σ} {steps : List (Step σ)}
    (reached : p.Reaches start steps r) (positive : 0 < p.settings.maxBatchOperations)
    (small : ∀ entry ∈ appliedEntries steps, isOutside entry = true → entry.IsCompact)
    (initially : p.Fits w start) : p.Fits w r := by
  induction reached with
  | start => exact initially
  | step call _ ended inductionHypothesis =>
      rw [appliedEntries_snoc] at small
      obtain ⟨earlier, last⟩ := List.forall_mem_append.mp small
      have passed : ∀ entry ∈ call.entry?, isOutside entry = true → entry.IsCompact :=
        fun entry asked => last entry (Option.mem_toList.mpr asked)
      exact answer_fits positive call passed _ (inductionHypothesis earlier) _ _ ended

theorem MaySend.length_encode_le {database : String} {command : Document}
    (sends : p.MaySend database command) (valid : p.settings.validate = .ok ())
    (roomy : p.session.overhead p.settings.maxBatchOperations ≤ ReplaySettings.headroom)
    (several : 1 < (carried command).length) : command.encode.length ≤ maxDocumentSize := by
  obtain ⟨_, operations, _, bytes⟩ := ReplaySettings.bounds_of_validate valid
  cases sends with
  | probe =>
      rw [Session.probeCommand, Session.carried_batchCommand] at several
      exact absurd several (Nat.lt_irrefl 1)
  | @batch b compact =>
      rw [Session.command, Session.carried_batchCommand] at several
      have size : b.documents.length ≤ p.settings.maxBatchOperations := compact.size
      have entries : b.bytes ≤ p.settings.maxBatchBytes := compact.several several
      have command := p.session.wireSize_batchCommand_le several (Nat.le_trans size operations)
        p.session.settings.bypassValidation
      have whole : ReplaySettings.bytesLimit + ReplaySettings.headroom = maxDocumentSize := rfl
      have counted := compact.counted
      rw [Document.length_encode, Session.command]
      simp only [Session.overhead] at command roomy
      omega

/-- Whatever the destination answers, the command of every batch of more than one entry fits
into a document of the largest size, if what it takes besides the entries fits into the
headroom, and no entry outside of transactions is larger as a document than it was measured.
Of the first the settings bound the indices, and leave the message of the closing command
unbounded.  The second is true of every entry that was read, and of every other one in which
no scope of code stands for something else. -/
theorem Reaches.batches_fit {outside : σ} {steps : List (Step σ)}
    (reached : p.Reaches (.initial ⟨outside, []⟩) steps r)
    (valid : p.settings.validate = .ok ())
    (small : ∀ entry ∈ appliedEntries steps, isOutside entry = true → entry.IsCompact)
    (roomy : p.session.overhead p.settings.maxBatchOperations ≤ ReplaySettings.headroom) :
    ∀ command ∈ World.commands r.world.trace, 1 < (carried command.2).length →
      command.2.encode.length ≤ maxDocumentSize := by
  have positive := (ReplaySettings.bounds_of_validate valid).1
  obtain ⟨⟨events, unfolds, sends⟩, _⟩ :=
    reached.fits positive small ⟨.refl ⟨outside, []⟩, Batch.compact_empty p.settings⟩
  have trace : r.world.trace = events := unfolds.trace
  rw [trace]
  intro command sent several
  exact (sends command sent).length_encode_le valid roomy several

end Replayer

/-- Two entries of a replay with default limits are sent by one command, which fits. -/
theorem two_entries_fit :
    ∃ steps r, (modest agreeable).Reaches (.initial ⟨(), []⟩) steps r ∧
      ∃ command ∈ World.commands r.world.trace,
        carried command.2 = [(insertAt 1).toDocument, (insertAt 2).toDocument] ∧
          command.2.encode.length ≤ maxDocumentSize := by
  have computed : ((modest agreeable).perform
      [.apply (insertAt 1), .apply (insertAt 2), .finish] (.initial ⟨(), []⟩)).map
        (fun run => World.commands run.2.world.trace) =
      some [("admin", (modest agreeable).session.command
        [(insertAt 1).toDocument, (insertAt 2).toDocument])] := rfl
  obtain ⟨⟨steps, r⟩, performed, sent⟩ := Option.map_eq_some_iff.mp computed
  obtain ⟨reached, asked⟩ := Replayer.reaches_of_perform performed
  have applied : appliedEntries steps = [insertAt 1, insertAt 2] := by
    rw [appliedEntries_eq_filterMap_call, asked]
    rfl
  have literal : ∀ entry ∈ [insertAt 1, insertAt 2], ∀ d ∈ entry.documents,
      (Value.document d).hasLiteralScopes = true := by
    decide
  have compact : ∀ entry ∈ appliedEntries steps, isOutside entry = true → entry.IsCompact :=
    fun entry member _ => Entry.isCompact_of_hasLiteralScopes (literal entry (applied ▸ member))
  have fit := reached.batches_fit rfl compact (by decide)
  rw [sent] at fit
  refine ⟨steps, r, reached, _, sent ▸ List.mem_singleton_self _,
    Session.carried_batchCommand _ _ _, fit _ (List.mem_singleton_self _) ?_⟩
  rw [Session.command, Session.carried_batchCommand]
  decide

/-! ## A message that leaves no room -/

/-- A replay whose closing commands carry a message of that many letters. -/
def wordy (letters : Nat) : Replayer Unit :=
  let settings :=
    { SessionSettings.testing with
      noopMessage := String.ofList (List.replicate letters 'm') }
  { modest agreeable with session := { (modest agreeable).session with settings } }

/-- An insert of a text of that many letters. -/
def insertText (letters : Nat) : Entry :=
  { insertAt 1 with body := [("text", .string (String.ofList (List.replicate letters 'x')))] }

theorem isLiteral_insertText (letters : Nat) : (insertText letters).IsLiteral := by
  intro d member
  cases List.mem_singleton.mp member
  rfl

theorem wireSize_insertText (letters : Nat) :
    (insertText letters).toDocument.wireSize = letters + 66 := by
  have fields : (insertText letters).toDocument =
      [("ts", .timestamp ⟨1, 1⟩), ("op", .string "i"), ("ns", .string "shop.orders"),
       ("o", .document [("text", .string (String.ofList (List.replicate letters 'x')))])] := rfl
  have names : "ts".utf8ByteSize = 2 ∧ "op".utf8ByteSize = 2 ∧ "i".utf8ByteSize = 1 ∧
      "ns".utf8ByteSize = 2 ∧ "shop.orders".utf8ByteSize = 11 ∧ "o".utf8ByteSize = 1 ∧
      "text".utf8ByteSize = 4 := by
    decide
  have text := utf8ByteSize_replicate (c := 'x') (by decide) letters
  rw [fields]
  simp only [Document.wireSize, Value.wireSize, fieldsWireSize]
  omega

theorem encodedLength?_insertText (letters : Nat) :
    (insertText letters).encodedLength? = some (letters + 66) := by
  refine Entry.encodedLength?_eq_some_iff.mpr ⟨rfl, ?_⟩
  rw [← (isLiteral_insertText letters).length_encode, Document.length_encode, wireSize_insertText]

theorem validate_wordy {letters : Nat} (more : 0 < letters) :
    (wordy letters).session.settings.validate = .ok () := by
  have message : (wordy letters).session.settings.noopMessage.isEmpty = false := by
    have size := utf8ByteSize_replicate (c := 'm') (by decide) letters
    rw [String.isEmpty, beq_eq_false_iff_ne]
    exact fun empty => Nat.ne_of_gt more (size.symm.trans empty)
  have spans : (Span.ofText? SessionSettings.testing.minRetryDuration).isNone = false ∧
      (Span.ofText? SessionSettings.testing.recoverSleep).isNone = false := by
    decide +kernel
  have unobjectionable : (wordy letters).session.settings.problem? = none := by
    rw [SessionSettings.problem?, message]
    simp only [wordy, spans]
    rfl
  rw [SessionSettings.validate, unobjectionable]
  rfl

variable {σ : Type} {p : Replayer σ} {r : Run σ}

/-- An entry outside of transactions that fits into the waiting batch. -/
theorem Replayer.run_answer_of_room {entry : Entry} {place : Transaction.Placement} {bytes : Nat}
    (placed : Transaction.Placement.ofEntry entry = .ok place)
    (outside : place.isTransactional = false)
    (quiet : Transaction.placementEvents entry = [])
    (measured : entry.encodedLength? = some bytes)
    (room : r.state.pending.overflows p.settings bytes = false) :
    ∃ t, (p.answer (.apply entry)).run r = some (.ok none, t) ∧ t.world = r.world ∧
      t.state.pending = r.state.pending.push entry bytes := by
  simp only [Replayer.answer, Replayer.apply, Replayer.applyPlain, Act.run_bind, placed, outside,
    quiet, measured, room, Run.record, Run.count, Run.update, Act.run_change, Act.run_ofExcept,
    Act.run_read, List.append_nil, Bool.false_eq_true, if_false]
  exact ⟨_, rfl, rfl, rfl⟩

/-- Two texts within the limit on bytes are sent by one command. -/
theorem reaches_two_texts (letters size : Nat)
    (within : 2 * (size + 66) ≤ ReplaySettings.standard.maxBatchBytes) :
    ∃ steps r, (wordy letters).Reaches (.initial ⟨(), []⟩) steps r ∧
      World.commands r.world.trace =
        [("admin", (wordy letters).session.command
          [(insertText size).toDocument, (insertText size).toDocument])] := by
  have measured := encodedLength?_insertText size
  have room : (Batch.empty.push (insertText size) (size + 66)).overflows
      (wordy letters).settings (size + 66) = false := by
    have enough : (wordy letters).settings = .standard := rfl
    simp only [enough, Batch.overflows, Batch.size_push, Bool.and_eq_false_iff,
      Bool.or_eq_false_iff, decide_eq_false_iff_not]
    refine .inr ⟨by decide, ?_⟩
    simp only [Batch.push, Batch.empty]
    omega
  obtain ⟨one, ended, world, pending⟩ := (wordy letters).run_answer_of_room
    (r := .initial ⟨(), []⟩) rfl rfl rfl measured rfl
  obtain ⟨two, endedAgain, worldAgain, pendingAgain⟩ := (wordy letters).run_answer_of_room
    (r := one) rfl rfl rfl measured (pending ▸ room)
  have reached := Replayer.Reaches.step _ (.step _ .start ended) endedAgain
  rw [pending] at pendingAgain
  rw [world] at worldAgain
  obtain ⟨_, _, _, _, _⟩ := two
  cases worldAgain
  cases pendingAgain
  exact ⟨_, _, .step .finish reached rfl, rfl⟩

theorem lt_length_encode_two_texts (letters size : Nat) :
    2 * size + letters < ((wordy letters).session.command
      [(insertText size).toDocument, (insertText size).toDocument]).encode.length := by
  have message : (wordy letters).session.settings.noopMessage.utf8ByteSize = letters :=
    utf8ByteSize_replicate (by decide) letters
  have two : 1 < [(insertText size).toDocument, (insertText size).toDocument].length :=
    Nat.lt_succ_self 1
  have least := (wordy letters).session.le_wireSize_batchCommand two
    (wordy letters).session.settings.bypassValidation
  simp only [totalSize, wireSize_insertText, message] at least
  rw [Document.length_encode, Session.command]
  omega

/-- Two entries within the limit on bytes, and a message of a million letters: the settings
are valid, and the command that applies the entries is too large for a document. -/
theorem message_leaves_no_room :
    (wordy 1100000).session.settings.validate = .ok () ∧
    (wordy 1100000).settings.validate = .ok () ∧
    ∃ steps r, (wordy 1100000).Reaches (.initial ⟨(), []⟩) steps r ∧
      ∃ command ∈ World.commands r.world.trace,
        (carried command.2).length = 2 ∧ maxDocumentSize < command.2.encode.length := by
  obtain ⟨steps, r, reached, sent⟩ := reaches_two_texts 1100000 7860000 (by decide)
  refine ⟨validate_wordy (by omega), rfl, steps, r, reached, _,
    sent ▸ List.mem_singleton_self _, ?_, ?_⟩
  · rw [Session.command, Session.carried_batchCommand]
    rfl
  · exact Nat.lt_trans (by decide) (lt_length_encode_two_texts 1100000 7860000)

end Replay

end LogReplay
