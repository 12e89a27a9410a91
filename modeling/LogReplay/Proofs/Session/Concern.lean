/-
Module: LogReplay.Proofs.Session.Concern
Purpose: What the last reply says of the write concern when an operation succeeds.
Main exports:
  Destination.replies, Settled, Mutation.forgives, Session.mutate_settles_concern
-/
import LogReplay.Proofs.Session.Majority

/-!
A reply can report two things at once: that a write failed or was refused, and that the
write concern was not met.  Lifting a reply keeps one failure, and an operation may forgive
that failure.  What the reply says of the write concern is then forgotten.

So when an operation succeeds, the last reply carries no unmet write concern, unless it is
lifted to a failure that the operation forgives.  The failures that count come from a
reply: a failure to get one leaves the reply before it the last one, and on a retry that
one belongs to a probe which succeeded.
-/

namespace LogReplay

open Bson (Document)

variable {σ : Type}

namespace Destination

/-- The reply to a command, if there is one. -/
def reply? (d : Destination σ) (o : σ) : Event → Option Document
  | .commanded database command _ => (d.run o database command).1.toOption
  | _ => none

/-- The replies to all commands among the events, in order. -/
def replies (d : Destination σ) : σ → List Event → List Document
  | _, [] => []
  | o, event :: rest => (d.reply? o event).toList ++ d.replies (d.onward o event) rest

theorem replies_append (d : Destination σ) (o : σ) (events later : List Event) :
    d.replies o (events ++ later) =
      d.replies o events ++ d.replies (events.foldl d.onward o) later := by
  induction events generalizing o with
  | nil => rfl
  | cons event rest inductionHypothesis =>
      rw [List.cons_append, replies, inductionHypothesis, replies, List.append_assoc,
        List.foldl_cons]

theorem reply?_of_isSilent (d : Destination σ) (o : σ) {event : Event}
    (silent : event.isSilent = true) : d.reply? o event = none := by
  cases event <;> first | rfl | cases silent

end Destination

/-! ## What the last reply says -/

/-- The last reply carries no unmet write concern, or is lifted to a forgiven failure. -/
def Settled (forgiven : Failure → Bool) (replies : List Document) : Prop :=
  ∀ reply, replies.getLast? = some reply →
    Reply.concern? reply = none ∨
      ∃ failure, Reply.lift reply = .error failure ∧ forgiven failure = true

/-- There is a last reply, and it carries no unmet write concern. -/
def Met (replies : List Document) : Prop :=
  ∃ reply, replies.getLast? = some reply ∧ Reply.concern? reply = none

variable {forgiven : Failure → Bool} {replies : List Document}

theorem Met.settled (met : Met replies) (forgiven : Failure → Bool) :
    Settled forgiven replies := by
  obtain ⟨last, isLast, clean⟩ := met
  intro reply found
  rw [isLast] at found
  cases found
  exact .inl clean

theorem settled_nil (forgiven : Failure → Bool) : Settled forgiven [] := by
  intro reply found
  cases found

theorem met_concat {reply : Document} (clean : Reply.concern? reply = none) :
    Met (replies ++ [reply]) :=
  ⟨reply, List.getLast?_concat, clean⟩

theorem settled_concat {reply : Document} {failure : Failure}
    (lifted : Reply.lift reply = .error failure) (forgives : forgiven failure = true) :
    Settled forgiven (replies ++ [reply]) := by
  intro last isLast
  rw [List.getLast?_concat] at isLast
  cases isLast
  exact .inr ⟨failure, lifted, forgives⟩

namespace Session

/-- The replies on the way from one world to the other satisfy the property. -/
def Replied (s : Session σ) (holds : List Document → Prop) (w t : World σ) : Prop :=
  ∃ events, s.Unfolds w events t ∧ holds (s.destination.replies w.outside events)

/-- One world leads to the other. -/
def LeadsTo (s : Session σ) (w t : World σ) : Prop :=
  s.Replied (fun _ => True) w t

variable {s : Session σ} {holds : List Document → Prop} {w u t : World σ}

namespace Replied

theorem leadsTo (replied : s.Replied holds w t) : s.LeadsTo w t := by
  obtain ⟨events, unfolds, -⟩ := replied
  exact ⟨events, unfolds, trivial⟩

theorem settled (replied : s.Replied Met w t) (forgiven : Failure → Bool) :
    s.Replied (Settled forgiven) w t := by
  obtain ⟨events, unfolds, met⟩ := replied
  exact ⟨events, unfolds, met.settled forgiven⟩

theorem followedBy {event : Event} (replied : s.Replied holds w u)
    (unfolds : s.Unfolds u [event] t) (mute : s.destination.reply? u.outside event = none) :
    s.Replied holds w t := by
  obtain ⟨events, before, held⟩ := replied
  refine ⟨events ++ [event], before.trans unfolds, ?_⟩
  rw [Destination.replies_append, ← before.outside, Destination.replies, mute]
  simpa [Destination.replies] using held

theorem record (replied : s.Replied holds w t) {event : Event} (silent : event.isSilent = true) :
    s.Replied holds w (t.record event) :=
  replied.followedBy (.record s t silent) (s.destination.reply?_of_isSilent _ silent)

/-- A command that gets no reply leaves the last reply as it is. -/
theorem heard_of_error (replied : s.Replied holds w t) {database : String}
    {command : Document} {failure : Failure}
    (unanswered : (s.destination.run t.outside database command).1 = .error failure) :
    s.Replied holds w (s.heard t database command) := by
  refine replied.followedBy (.heard s t database command) ?_
  rw [Destination.reply?, unanswered]
  rfl

end Replied

/-- A command that gets a reply. -/
theorem LeadsTo.heard (leads : s.LeadsTo w t) {database : String} {command reply : Document}
    (replied : (s.destination.run t.outside database command).1 = .ok reply)
    (last : ∀ replies, holds (replies ++ [reply])) :
    s.Replied holds w (s.heard t database command) := by
  obtain ⟨events, before, -⟩ := leads
  refine ⟨_, before.trans (.heard s t database command), ?_⟩
  rw [Destination.replies_append, ← before.outside, Destination.replies, Destination.reply?,
    replied]
  exact last _

theorem Replied.refl (w : World σ) (forgiven : Failure → Bool) :
    s.Replied (Settled forgiven) w w :=
  ⟨[], .refl s w, settled_nil forgiven⟩

/-! ## Weighing what an act comes to -/

/-- After success of the act the last reply carries no unmet write concern; and if it fails
in a way that is forgiven, it leaves the replies settled if they were. -/
def Weighs {ε α : Type} (s : Session σ) (cause : ε → Option Failure)
    (forgiven : Failure → Bool) (x : Act (World σ) ε α) : Prop :=
  ∀ w u, s.LeadsTo w u → x.Ends u fun result t =>
    match result with
    | .ok _ => s.Replied Met w t
    | .error e => s.LeadsTo w t ∧
        ∀ failure, cause e = some failure → forgiven failure = true →
          s.Replied (Settled forgiven) w u → s.Replied (Settled forgiven) w t

/-- After success of the act the replies are settled, if they were before. -/
def Settles {ε α : Type} (s : Session σ) (forgiven : Failure → Bool)
    (x : Act (World σ) ε α) : Prop :=
  ∀ w u, s.Replied (Settled forgiven) w u → x.Ends u fun result t =>
    ∀ value, result = .ok value → s.Replied (Settled forgiven) w t

theorem Weighs.settles {ε α : Type} {cause : ε → Option Failure} {x : Act (World σ) ε α}
    (weighs : s.Weighs cause forgiven x) : s.Settles forgiven x := by
  intro w u settled
  refine (weighs w u settled.leadsTo).mono ?_
  rintro (e | a) t ended value succeeded
  · cases succeeded
  · exact ended.settled forgiven

theorem Settles.pure {ε α : Type} (a : α) :
    s.Settles forgiven (pure a : Act (World σ) ε α) := by
  intro w u settled
  exact (Act.ends_pure a).mpr fun _ _ => settled

theorem Settles.bind {ε α β : Type} {x : Act (World σ) ε α} {f : α → Act (World σ) ε β}
    (first : s.Settles forgiven x) (later : ∀ a, s.Settles forgiven (f a)) :
    s.Settles forgiven (x >>= f) := by
  intro w u settled
  refine Act.ends_bind.mpr ((first w u settled).mono ?_)
  rintro (e | a) t ended
  · intro value succeeded
    cases succeeded
  · exact later a w t (ended a rfl)

theorem Settles.note {ε : Type} {event : Event} (silent : event.isSilent = true) :
    s.Settles forgiven (note event : Act (World σ) ε Unit) := by
  intro w u settled
  exact ends_note.mpr fun _ _ => settled.record silent

theorem Settles.discarding {α : Type} {x : Act (World σ) Fault α}
    (settles : s.Settles forgiven x) : s.Settles forgiven (discarding x) :=
  settles.bind fun _ => .pure ()

/-! ## Single attempts -/

/-- A command on which a destination fails, or whose reply is lifted to a failure. -/
theorem Replied.heard_of_answer_error (settled : s.Replied (Settled forgiven) w t)
    {database : String} {command : Document} {failure : Failure}
    (failed : s.answer t.outside database command = .error failure)
    (forgives : forgiven failure = true) :
    s.Replied (Settled forgiven) w (s.heard t database command) := by
  rw [answer] at failed
  cases replied : (s.destination.run t.outside database command).1 with
  | error other => exact settled.heard_of_error replied
  | ok reply =>
      rw [replied] at failed
      exact settled.leadsTo.heard replied fun _ => settled_concat failed forgives

theorem LeadsTo.heard_any (leads : s.LeadsTo w t) (database : String) (command : Document) :
    s.LeadsTo w (s.heard t database command) := by
  obtain ⟨events, unfolds, -⟩ := leads
  exact ⟨_, unfolds.trans (.heard s t database command), trivial⟩

theorem LeadsTo.heard_of_answer_ok (leads : s.LeadsTo w t) {database : String}
    {command lifted : Document} (succeeded : s.answer t.outside database command = .ok lifted) :
    s.Replied Met w (s.heard t database command) := by
  rw [answer] at succeeded
  cases replied : (s.destination.run t.outside database command).1 with
  | error failure =>
      rw [replied] at succeeded
      cases succeeded
  | ok reply =>
      rw [replied] at succeeded
      exact leads.heard replied fun _ =>
        met_concat (Reply.concern?_eq_none_of_lift_ok succeeded)

theorem perform_weighs (s : Session σ) (forgiven : Failure → Bool) (database : String)
    (command : Document) : s.Weighs some forgiven (s.perform database command) := by
  intro w u leads
  refine ends_perform.mpr ?_
  cases answered : s.answer u.outside database command with
  | ok lifted => exact leads.heard_of_answer_ok answered
  | error failure =>
      refine ⟨leads.heard_any database command, ?_⟩
      rintro _ ⟨⟩ forgives settled
      exact settled.heard_of_answer_error answered forgives

/-- A batch whose reply cannot be read has been replied to all the same. -/
theorem batchAnswer_weighs (forgiven : Failure → Bool) (command : Document)
    (leads : s.LeadsTo w u) :
    match s.batchAnswer u.outside command with
    | .ok _ => s.Replied Met w (s.heard u "admin" command)
    | .error failure => forgiven failure = true → s.Replied (Settled forgiven) w u →
        s.Replied (Settled forgiven) w (s.heard u "admin" command) := by
  cases answered : s.answer u.outside "admin" command with
  | ok lifted =>
      have met := leads.heard_of_answer_ok answered
      rw [batchAnswer, answered]
      cases reading : (Except.ok lifted).bind ApplyOpsReply.ofDocument with
      | ok reply => exact met
      | error failure => exact fun _ _ => met.settled forgiven
  | error failure =>
      rw [batchAnswer, answered]
      exact fun forgives settled => settled.heard_of_answer_error answered forgives

theorem waitForMajority_weighs (s : Session σ) (forgiven : Failure → Bool) :
    s.Weighs some forgiven s.waitForMajority := by
  intro w u leads
  have weighed := batchAnswer_weighs forgiven s.probeCommand leads
  refine ends_waitForMajority.mpr ?_
  cases answered : s.batchAnswer u.outside s.probeCommand with
  | ok reply =>
      rw [answered] at weighed
      exact weighed
  | error failure =>
      rw [answered] at weighed
      refine ⟨leads.heard_any "admin" s.probeCommand, ?_⟩
      rintro _ ⟨⟩
      exact weighed

theorem attemptBatch_weighs (s : Session σ) (forgiven : Failure → Bool)
    (entries : List Document) (bypass : Bool) :
    s.Weighs some forgiven (s.attemptBatch entries bypass) := by
  intro w u leads
  have weighed := batchAnswer_weighs forgiven (s.batchCommand entries bypass) leads
  refine (Act.ends_iff_of_run (s.run_attemptBatch entries bypass u)).mpr ?_
  cases answered : s.batchAnswer u.outside (s.batchCommand entries bypass) with
  | ok reply =>
      rw [answered] at weighed
      exact weighed.record rfl
  | error failure =>
      rw [answered] at weighed
      refine ⟨(leads.heard_any "admin" _).record rfl, ?_⟩
      rintro _ ⟨⟩ forgives settled
      exact (weighed forgives settled).record rfl

theorem performAwaited_weighs (s : Session σ) (forgiven : Failure → Bool) (database : String)
    (command : Document) : s.Weighs some forgiven (s.performAwaited database command) := by
  intro w u leads
  refine Act.ends_bind.mpr ((s.perform_weighs forgiven database command w u leads).mono ?_)
  rintro (failure | ⟨⟩) t performed
  · exact performed
  refine (s.waitForMajority_weighs forgiven w t performed.leadsTo).mono ?_
  rintro (failure | ⟨⟩) v waited
  · exact ⟨waited.1, fun other same forgives _ =>
      waited.2 other same forgives (performed.settled forgiven)⟩
  · exact waited

/-! ## Repetitions -/

/-- Between two attempts a probe has been replied to, without an unmet write concern. -/
theorem mends_met (s : Session σ) (w : World σ) :
    s.Mends .byWriting (s.LeadsTo w) (s.Replied Met w) where
  remarked := fun aside leads =>
    Replied.record leads (Event.isSilent_of_isRemark (Event.isRemark_of_isAside aside))
  slept := by
    intro u leads
    refine (Unfolds.slept s u _).mono ?_
    intro _ t slept
    exact Replied.followedBy leads slept rfl
  probed := by
    intro u leads
    refine (s.waitForMajority_weighs (fun _ => false) w u leads).mono ?_
    rintro (failure | ⟨⟩) t probed
    · exact probed.1
    · exact probed.record rfl

theorem retryingWrite_weighs {α : Type} {attempt : Bool → Act (World σ) Failure α}
    (weighs : ∀ isRetry, s.Weighs some forgiven (attempt isRetry)) (operation : String) :
    s.Weighs Fault.commandFailure? forgiven (s.retryingWrite operation attempt) := by
  intro w u leads
  have every (isRetry : Bool) (v : World σ) (led : s.LeadsTo w v)
      (kept : s.Replied (Settled forgiven) w u → s.Replied (Settled forgiven) w v) :
      (attempt isRetry).Ends (v.record (.attempted isRetry))
        (Attempted (s.LeadsTo w) fun result t =>
          match result with
          | .ok _ => s.Replied Met w t
          | .error fault => s.LeadsTo w t ∧
              ∀ failure, fault.commandFailure? = some failure → forgiven failure = true →
                s.Replied (Settled forgiven) w u → s.Replied (Settled forgiven) w t) := by
    refine (weighs isRetry w _ (Replied.record led rfl)).mono ?_
    rintro (failure | value) t ended
    · refine ⟨fun _ => ended.1, fun _ => ⟨ended.1, ?_⟩⟩
      intro other same forgives settled
      exact ended.2 other same forgives ((kept settled).record rfl)
    · exact ended
  refine retrying_ends_of_mends (s.mends_met w) ?_ ?_ (every false u leads id)
  · intro v met
    exact every true v met.leadsTo fun _ => met.settled forgiven
  · intro fault v uncaused led
    refine ⟨led, fun failure same => ?_⟩
    rw [uncaused] at same
    cases same

/-- An operation of one command that forgives failures of its retries. -/
theorem retryingForgiving_settles (s : Session σ) (forgiven : Failure → Bool)
    (operation database : String) (command : Document) :
    s.Settles forgiven (s.retryingWrite operation fun isRetry =>
      forgiving (fun failure => isRetry && forgiven failure)
        (s.perform database command)) := by
  intro w u settled
  have every (isRetry : Bool) (v : World σ) (still : s.Replied (Settled forgiven) w v) :
      (forgiving (fun failure => isRetry && forgiven failure)
        (s.perform database command)).Ends (v.record (.attempted isRetry))
        (Attempted (s.LeadsTo w) fun result t =>
          ∀ value, result = .ok value → s.Replied (Settled forgiven) w t) := by
    have begun : s.Replied (Settled forgiven) w (v.record (.attempted isRetry)) :=
      still.record rfl
    refine Act.ends_bind.mpr (Act.ends_outcome.mpr
      ((s.perform_weighs forgiven database command w _ begun.leadsTo).mono ?_))
    rintro (failure | ⟨⟩) t performed
    · dsimp only
      split
      · next both =>
        refine (Act.ends_pure ()).mpr fun _ _ => ?_
        exact performed.2 failure rfl (Bool.and_eq_true_iff.mp both).2 begun
      · exact (Act.ends_fail failure).mpr ⟨fun _ => performed.1, fun _ _ ended => (by cases ended)⟩
    · exact (Act.ends_pure ()).mpr fun _ _ => performed.settled forgiven
  exact retrying_ends_of_mends (s.mends_met w)
    (fun v met => every true v (met.settled forgiven)) (fun _ _ _ ended => (by cases ended))
    (every false u settled)

/-! ## Operations of several parts -/

theorem applyBatchWith_weighs (s : Session σ) (forgiven : Failure → Bool)
    (entries : List Document) (bypass : Bool) :
    s.Weighs Fault.commandFailure? forgiven (s.applyBatchWith entries bypass) := by
  rw [applyBatchWith]
  split
  · intro w u leads
    exact (Act.ends_fail _).mpr ⟨leads, fun _ same => (by cases same)⟩
  · exact retryingWrite_weighs (fun _ => s.attemptBatch_weighs forgiven entries bypass) _

theorem createIndexes_weighs (s : Session σ) (forgiven : Failure → Bool) (ns : Namespace)
    (indexes : List Document) (info : BuildInfo) :
    s.Weighs Fault.commandFailure? forgiven (s.createIndexes ns indexes info) := by
  by_cases recent : info.isAtLeast [3, 3, 5] = true
  · simp only [createIndexes, if_pos recent, bind_pure_unit]
    exact retryingWrite_weighs (fun _ => s.perform_weighs forgiven _ _) _
  · rw [createIndexes_of_old recent]
    exact retryingWrite_weighs (fun _ => s.performAwaited_weighs forgiven _ _) _

theorem modifyCollection_weighs (s : Session σ) (forgiven : Failure → Bool)
    (database : String) (command : Document) (info : BuildInfo) :
    s.Weighs Fault.commandFailure? forgiven (s.modifyCollection database command info) := by
  by_cases recent : info.isAtLeast [3, 6, 0] = true
  · simp only [modifyCollection, if_pos recent]
    exact retryingWrite_weighs (fun _ => s.perform_weighs forgiven _ _) _
  · rw [modifyCollection_of_old recent]
    exact retryingWrite_weighs (fun _ => s.performAwaited_weighs forgiven _ _) _

/-- Documents that meet a taken key are passed over. -/
theorem insertRound_settles (s : Session σ) (ns : Namespace) (documents : List Document) :
    s.Settles Failure.isDuplicateKey (s.insertRound ns documents) := by
  intro w u settled
  have weighs := retryingWrite_weighs
    (fun _ => s.perform_weighs Failure.isDuplicateKey ns.database
      (s.insertCommand ns documents)) "insert"
  refine Act.ends_bind.mpr (Act.ends_outcome.mpr ((weighs w u settled.leadsTo).mono ?_))
  rintro (fault | ⟨⟩) t ended
  · dsimp only
    split
    · next taken =>
      refine (Act.ends_pure false).mpr fun _ _ => ?_
      rw [Fault.isDuplicateKey] at taken
      cases blamed : fault.commandFailure? with
      | none =>
          rw [blamed] at taken
          cases taken
      | some failure =>
          rw [blamed] at taken
          exact ended.2 failure blamed taken settled
    · refine (Act.ends_fail fault).mpr fun _ succeeded => ?_
      cases succeeded
  · exact (Act.ends_pure true).mpr fun _ _ => ended.settled _

theorem insertFrom_settles (s : Session σ) (ns : Namespace) :
    ∀ (singles : Option Nat) (documents : List Document),
      s.Settles Failure.isDuplicateKey (s.insertFrom ns singles documents)
  | none, [] => .pure ()
  | some _, [] => .note rfl
  | singles, document :: rest => by
      have later (next : Option Nat) := insertFrom_settles s ns next rest
      have together : s.Settles Failure.isDuplicateKey
          (s.insertTogether ns (document :: rest) singles) := by
        cases singles with
        | some count => exact .pure _
        | none =>
            refine (s.insertRound_settles ns _).bind ?_
            rintro (_ | _) <;> exact .pure _
      rw [insertFrom]
      refine together.bind ?_
      rintro (_ | count)
      · exact .pure ()
      refine (s.insertRound_settles ns [document]).bind ?_
      rintro (_ | _)
      · exact later _
      · exact (Settles.note rfl).bind fun _ => later none

theorem renameAndDrop_settles (s : Session σ) (ns : Namespace) :
    s.Settles Failure.isNamespaceMissing (s.renameAndDrop ns) :=
  (s.retryingForgiving_settles _ _ _ _).bind fun _ => s.retryingForgiving_settles _ _ _ _

theorem applyIndexes_settles (s : Session σ) (forgiven : Failure → Bool) (ns : Namespace)
    (identifier : Option Bson.Binary) :
    ∀ indexes : List Document, s.Settles forgiven (s.applyIndexes ns identifier indexes)
  | [] => .pure ()
  | _ :: rest => (s.applyBatchWith_weighs forgiven _ false).settles.bind fun _ =>
      applyIndexes_settles s forgiven ns identifier rest

/-- A refusal of the bulk build is forgiven, but a reply is left after it only if there
are no indexes to build. -/
theorem createIndexesOrSingly_settles (s : Session σ) (ns : Namespace)
    (indexes : List Document) (info : BuildInfo) (identifier : Option Bson.Binary) :
    s.Settles
      (fun failure => indexes.isEmpty &&
        (failure.isInvalidIndexOption || failure.isCannotCreateIndex))
      (s.createIndexesOrSingly ns indexes info identifier) := by
  intro w u settled
  have weighs := s.createIndexes_weighs
    (fun failure => indexes.isEmpty &&
      (failure.isInvalidIndexOption || failure.isCannotCreateIndex)) ns indexes info
  refine Act.ends_bind.mpr (Act.ends_outcome.mpr ((weighs w u settled.leadsTo).mono ?_))
  rintro (fault | ⟨⟩) t ended
  · dsimp only
    split
    · next calls =>
      refine Act.ends_bind.mpr (ends_note.mpr ?_)
      cases indexes with
      | nil =>
          refine (Act.ends_pure ()).mpr fun _ _ => ?_
          rw [callsForSingles] at calls
          cases blamed : fault.commandFailure? with
          | none =>
              rw [blamed] at calls
              cases calls
          | some failure =>
              rw [blamed] at calls
              exact (ended.2 failure blamed calls settled).record rfl
      | cons spec rest =>
          refine Act.ends_bind.mpr
            ((s.applyBatchWith_weighs (fun _ => false) _ false w _
              (Replied.record ended.1 rfl)).mono ?_)
          rintro (other | reply) v applied
          · intro _ succeeded
            cases succeeded
          · exact s.applyIndexes_settles _ ns identifier rest w v (applied.settled _)
    · refine (Act.ends_fail fault).mpr fun _ succeeded => ?_
      cases succeeded
  · exact (Act.ends_pure ()).mpr fun _ _ => ended.settled _

end Session

/-! ## All operations -/

/-- The failures that an operation forgives when they are all that it is told last. -/
def Mutation.forgives : Mutation → Failure → Bool
  | .insert _ _ => Failure.isDuplicateKey
  | .create _ _ => Failure.isNamespaceExists
  | .drop _ | .renameAndDrop _ => Failure.isNamespaceMissing
  | .createIndexesOrSingly _ indexes _ _ => fun failure =>
      indexes.isEmpty && (failure.isInvalidIndexOption || failure.isCannotCreateIndex)
  | _ => fun _ => false

namespace Session

theorem mutate_settles (s : Session σ) (m : Mutation) : s.Settles m.forgives (s.mutate m) := by
  cases m with
  | insert ns documents => exact s.insertFrom_settles ns none documents
  | create => exact s.retryingForgiving_settles Failure.isNamespaceExists _ _ _
  | drop ns =>
      rw [mutate, dropCollection]
      split
      · exact s.renameAndDrop_settles ns
      · exact s.retryingForgiving_settles Failure.isNamespaceMissing _ _ _
  | renameAndDrop ns => exact s.renameAndDrop_settles ns
  | dropDatabase database =>
      exact (retryingWrite_weighs (fun _ => s.perform_weighs _ _ _) _).settles
  | modify database command info =>
      exact (s.modifyCollection_weighs _ database command.fields info).settles
  | createIndexes ns indexes info => exact (s.createIndexes_weighs _ ns indexes info).settles
  | createIndexesOrSingly ns indexes info identifier =>
      exact s.createIndexesOrSingly_settles ns indexes info identifier
  | applyBatch entries => exact (s.applyBatchWith_weighs _ entries _).settles.discarding
  | applyIndex => exact (s.applyBatchWith_weighs _ _ false).settles.discarding
  | awaitMajority => exact (retryingWrite_weighs (fun _ => s.waitForMajority_weighs _) _).settles

variable {s : Session σ} {w t : World σ}

/-- When an operation that changes a destination succeeds, the last reply that it got
carries no unmet write concern, unless that reply is lifted to a failure which the operation
forgives: only that failure has been seen then. -/
theorem mutate_settles_concern {m : Mutation} (ended : (s.mutate m).run w = some (.ok (), t)) :
    ∃ events, s.Unfolds w events t ∧
      ∀ reply, (s.destination.replies w.outside events).getLast? = some reply →
        Reply.concern? reply = none ∨
          ∃ failure, Reply.lift reply = .error failure ∧ m.forgives failure = true :=
  s.mutate_settles m w w (.refl w _) (.ok ()) t ended () rfl

end Session

/-- The refusal of a collection that exists. -/
def existing : Document :=
  [("ok", .int32 0), ("code", .int32 48), ("errmsg", .string "collection exists")]

/-- The connection is lost at the first attempt, and the second one finds the collection:
the last reply is the refusal, which is forgiven. -/
theorem repeated_creation_settled :
    ∃ (t : World (List (Except Failure Document))) (events : List Event),
      (rehearsed.mutate (.create "app" ⟨[("create", .string "users")], by decide⟩)).run
          ⟨[.error (.transport .timeout "i/o timeout"), .ok [("ok", .int32 1)], .ok existing],
            []⟩ = some (.ok (), t) ∧
        t.trace = events ∧
        ∀ reply, (scripted.replies
            [.error (.transport .timeout "i/o timeout"), .ok [("ok", .int32 1)], .ok existing]
            events).getLast? = some reply →
          Reply.concern? reply = none ∨
            ∃ failure, Reply.lift reply = .error failure ∧ failure.isNamespaceExists = true := by
  obtain ⟨t, ended⟩ : ∃ t,
      (rehearsed.mutate (.create "app" ⟨[("create", .string "users")], by decide⟩)).run
        ⟨[.error (.transport .timeout "i/o timeout"), .ok [("ok", .int32 1)], .ok existing],
          []⟩ = some (.ok (), t) := ⟨_, rfl⟩
  obtain ⟨events, unfolds, settled⟩ := Session.mutate_settles_concern ended
  exact ⟨t, events, ended, unfolds.trace, settled⟩

/-- A document whose key is taken, on a destination that cannot reach a majority. -/
def takenAndUnmet : Document :=
  [("ok", .int32 1),
   ("writeErrors", .array [.document [("index", .int32 0), ("code", .int32 11000)]]),
   ("writeConcernError", .document
     [("code", .int32 64), ("errmsg", .string "waiting for replication timed out")])]

/-- The taken key is all that is seen of such a reply, and the insert succeeds. -/
theorem unmet_concern_taken_for_success :
    ∃ (t : World (List (Except Failure Document))) (reply : Document),
      (rehearsed.mutate (.insert ⟨"app", "users"⟩ [[("_id", .int32 1)]])).run
          ⟨[.ok takenAndUnmet, .ok takenAndUnmet], []⟩ = some (.ok (), t) ∧
        rehearsed.Unfolds ⟨[.ok takenAndUnmet, .ok takenAndUnmet], []⟩ t.trace t ∧
        (scripted.replies [.ok takenAndUnmet, .ok takenAndUnmet] t.trace).getLast? =
          some reply ∧
        (Reply.concern? reply).isSome = true :=
  ⟨_, takenAndUnmet, rfl, ⟨rfl, rfl⟩, rfl, rfl⟩

end LogReplay
