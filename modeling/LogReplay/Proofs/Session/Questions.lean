/-
Module: LogReplay.Proofs.Session.Questions
Purpose: What is sent to a destination that is only asked a question.
Main exports:
  Session.asking, Session.probeSent, Deed.sent?, Session.QuestionsSend,
  Session.questions_send
-/
import LogReplay.Proofs.Session.Mutation
import LogReplay.Proofs.Session.Protocol
import LogReplay.Session.Asking

/-!
A question is one command whose reply is read.  It is repeated like any other operation,
so what else is sent depends on how the session is probed in between.

The version is asked for as an operation that only reads: nothing but questions is sent
then.  A listing is repeated as if it wrote.  Its recoveries apply an entry that does
nothing, so it writes whenever its first attempt fails for a reason that passes and there
is patience left.

An operation that outlasts its patience has no ending to speak of.  Up to any of its
commands it does the same on a destination that fails for good at that command.
-/

namespace LogReplay

open Bson

variable {σ α : Type}

/-- The command applies entries of a log. -/
def AppliesEntries (command : String × Document) : Prop :=
  command.2.firstName? = some "applyOps"

/-- The command that a deed sends, if it sends one. -/
def Deed.sent? (question probe : String × Document) : Deed α → Option (String × Document)
  | .attempted _ _ => some question
  | .paused _ => none
  | .probed _ => some probe

theorem mem_of_sent {question probe command : String × Document} {deeds : List (Deed α)}
    (sent : command ∈ deeds.filterMap (Deed.sent? question probe)) :
    command = question ∨ command = probe := by
  obtain ⟨deed, -, same⟩ := List.mem_filterMap.mp sent
  cases deed with
  | attempted => exact .inl (Option.some.inj same).symm
  | paused => cases same
  | probed => exact .inr (Option.some.inj same).symm

/-- A probe is sent exactly by a deed that probes. -/
theorem probe_mem_sent_iff {question probe : String × Document} (different : question ≠ probe)
    {deeds : List (Deed α)} :
    probe ∈ deeds.filterMap (Deed.sent? question probe) ↔ ∃ went, .probed went ∈ deeds := by
  rw [List.mem_filterMap]
  constructor
  · rintro ⟨deed, member, same⟩
    cases deed with
    | attempted => exact absurd (Option.some.inj same) different
    | paused => cases same
    | probed went => exact ⟨went, member⟩
  · rintro ⟨went, member⟩
    exact ⟨_, member, rfl⟩

/-- There is a probe among the deeds after an attempt exactly if the attempt failed for a
reason that passes, before patience was exhausted. -/
theorem Follows.probed_iff {target : String} {p : Retry.Policy} {start pause : Span}
    {retries : Nat} {went : Try α} {renewals : List (Renewal α)}
    {lost : Option (List (Try Unit))} {result : Except Fault α}
    (follows : Follows target p start retries went renewals lost result) :
    (∃ probe, .probed probe ∈ laterDeeds pause renewals lost) ↔
      went.IsTransient ∧ p.commandExhausted retries (went.ended - start) = false := by
  cases follows with
  | succeeded outcome =>
      refine iff_of_false (fun ⟨_, member⟩ => (List.not_mem_nil member).elim) ?_
      rintro ⟨⟨failure, failed, _⟩, _⟩
      rw [outcome] at failed
      cases failed
  | refused outcome final =>
      refine iff_of_false (fun ⟨_, member⟩ => (List.not_mem_nil member).elim) ?_
      rintro ⟨⟨failure, failed, passing⟩, _⟩
      rw [outcome] at failed
      cases failed
      rw [final] at passing
      cases passing
  | exhausted _ _ floors =>
      refine iff_of_false (fun ⟨_, member⟩ => (List.not_mem_nil member).elim) ?_
      rintro ⟨_, left⟩
      rw [floors] at left
      cases left
  | lost transient floors fail =>
      obtain ⟨failed, final, rfl, -⟩ := fail
      refine iff_of_true ⟨final, ?_⟩ ⟨transient, floors⟩
      exact List.mem_flatMap.mpr ⟨final, by simp, by simp⟩
  | renewed transient floors succeed =>
      obtain ⟨failed, final, rfl, -⟩ := succeed
      refine iff_of_true ⟨final, ?_⟩ ⟨transient, floors⟩
      rw [laterDeeds_cons, List.append_assoc]
      exact List.mem_append_left _ (List.mem_flatMap.mpr ⟨final, by simp, by simp⟩)

namespace Session

/-- One attempt at a question: a command is sent, and its reply is read. -/
def asking (s : Session σ) (question : String × Document) (read : Document → Except Failure α)
    (_ : Bool) : Act (World σ) Failure α := do
  let reply ← s.send question.1 question.2
  Act.ofExcept (read reply)

/-- The command that lists a collection, and where it is sent. -/
def listQuestion (ns : Namespace) : String × Document :=
  (ns.database, listCommand ns)

/-- The command that asks for the version, and where it is sent. -/
def versionQuestion : String × Document :=
  ("admin", [("buildInfo", .int32 1)])

/-- The command that probes a session, and where it is sent. -/
def probeSent (s : Session σ) : Recovery → String × Document
  | .byWriting => ("admin", s.probeCommand)
  | .byAsking => ("admin", [("isMaster", .int32 1)])

variable (s : Session σ)

theorem collectionInfo_eq (ns : Namespace) :
    s.collectionInfo ns = s.retrying .byWriting "listCollections"
      (s.asking (listQuestion ns) CollectionInfo.ofListing) :=
  rfl

theorem buildInfo_eq :
    s.buildInfo = s.retrying .byAsking "buildInfo"
      (s.asking versionQuestion fun reply => .ok (.ofDocument reply)) :=
  rfl

theorem run_asking (question : String × Document) (read : Document → Except Failure α)
    (isRetry : Bool) (w : World σ) :
    (s.asking question read isRetry).run w =
      some ((s.answer w.outside question.1 question.2).bind read,
        s.heard w question.1 question.2) := by
  rw [asking, Act.run_bind, run_send]
  cases s.answer w.outside question.1 question.2 <;> rfl

/-- A probe is one command. -/
theorem probe_ends_heard (recovery : Recovery) (w : World σ) :
    (s.probe recovery).Ends w fun _ t =>
      t = s.heard w (s.probeSent recovery).1 (s.probeSent recovery).2 := by
  cases recovery with
  | byWriting => exact ends_waitForMajority.mpr rfl
  | byAsking => exact ends_perform.mpr rfl

variable {s} {question : String × Document} {read : Document → Except Failure α}
  {recovery : Recovery} {w t : World σ}

/-- Repeating a question sends what its deeds send, and nothing else. -/
theorem Does.unfolds {deeds : List (Deed α)}
    (does : s.Does recovery (s.asking question read) w deeds t) :
    ∃ events, s.Unfolds w events t ∧
      World.commands events = deeds.filterMap (Deed.sent? question (s.probeSent recovery)) := by
  induction does with
  | nothing w => exact ⟨[], .refl s w, rfl⟩
  | @aside w t deeds event quiet later inductionHypothesis =>
      obtain ⟨events, unfolds, commands⟩ := inductionHypothesis
      have silent := Event.isSilent_of_isRemark (Event.isRemark_of_isAside quiet)
      refine ⟨[event] ++ events, (Unfolds.record s w silent).trans unfolds, ?_⟩
      rw [World.commands_append, World.commands_of_isSilent silent]
      exact commands
  | @attempted w u t deeds isRetry outcome ended later inductionHypothesis =>
      obtain ⟨events, unfolds, commands⟩ := inductionHypothesis
      rw [run_asking] at ended
      cases ended
      have silent : (Event.attempted isRetry).isSilent = true := rfl
      have begun := (Unfolds.record s w silent).trans (.heard s _ question.1 question.2)
      exact ⟨_, begun.trans unfolds, congrArg (question :: ·) commands⟩
  | @paused w u t deeds span slept later inductionHypothesis =>
      obtain ⟨events, unfolds, commands⟩ := inductionHypothesis
      have rested := Unfolds.slept s w span _ u slept
      exact ⟨_, rested.trans unfolds, commands⟩
  | @probed w u t deeds outcome ended later inductionHypothesis =>
      obtain ⟨events, unfolds, commands⟩ := inductionHypothesis
      cases s.probe_ends_heard recovery w outcome u ended
      exact ⟨_, (Unfolds.heard s w _ _).trans unfolds,
        congrArg (s.probeSent recovery :: ·) commands⟩

/-- The first attempt meets the destination as it is. -/
theorem Does.first_outcome {isRetry : Bool} {went : Try α} {later : List (Deed α)}
    (does : s.Does recovery (s.asking question read) w (.attempted isRetry went :: later) t) :
    went.outcome = (s.answer w.outside question.1 question.2).bind read := by
  generalize deeds : Deed.attempted isRetry went :: later = all at does
  induction does with
  | nothing | paused | probed => cases deeds
  | aside quiet more inductionHypothesis => exact inductionHypothesis deeds
  | attempted ended =>
      cases deeds
      rw [run_asking] at ended
      cases ended
      rfl

/-- The answer to a question is such that the session is recovered before it is asked
again: it was not understood for a reason that passes, and the floors are not reached by
the first attempt alone. -/
def CallsForRecovery (s : Session σ) (question : String × Document)
    (read : Document → Except Failure α) (w : World σ) : Prop :=
  (∃ failure, (s.answer w.outside question.1 question.2).bind read = .error failure ∧
    failure.isReconnectable = true) ∧ s.policy.commandExhausted 0 0 = false

/-- A repeated question sends itself first, and then nothing but itself and probes.  It
sends a probe exactly if the first answer calls for one. -/
theorem retrying_asking_ends (operation : String) (w : World σ) :
    (s.retrying recovery operation (s.asking question read)).Ends w fun _ t =>
      ∃ events later, s.Unfolds w events t ∧ World.commands events = question :: later ∧
        (∀ command ∈ later, command = question ∨ command = s.probeSent recovery) ∧
          (question ≠ s.probeSent recovery →
            (s.probeSent recovery ∈ later ↔ s.CallsForRecovery question read w)) := by
  intro result t ended
  obtain ⟨account, does, follows⟩ :=
    s.retrying_does recovery (s.asking question read) operation w result t ended
  obtain ⟨events, unfolds, commands⟩ := does.unfolds
  refine ⟨events, _, unfolds, commands, fun command => mem_of_sent, fun different => ?_⟩
  have transient : account.first.IsTransient ↔
      ∃ failure, (s.answer w.outside question.1 question.2).bind read = .error failure ∧
        failure.isReconnectable = true := by
    rw [Try.IsTransient, does.first_outcome]
  rw [probe_mem_sent_iff different, follows.probed_iff, transient, Nat.sub_self]
  rfl

/-! ## The two questions -/

/-- What the questions of a session send. -/
structure QuestionsSend (s : Session σ) : Prop where
  /-- Whatever goes wrong, asking for the version only asks: no entry is applied. -/
  version : ∀ w, s.buildInfo.Ends w fun _ t =>
    ∃ events, s.Unfolds w events t ∧
      ∀ command ∈ World.commands events,
        command ∈ [versionQuestion, ("admin", [("isMaster", .int32 1)])] ∧
          ¬AppliesEntries command
  /-- A listing is asked for by listings and by probes that write.  So an entry is applied
  exactly if the first answer calls for a recovery. -/
  listing : ∀ ns w, (s.collectionInfo ns).Ends w fun _ t =>
    ∃ events, s.Unfolds w events t ∧
      (∀ command ∈ World.commands events,
        command ∈ [listQuestion ns, ("admin", s.probeCommand)]) ∧
      ((∃ command ∈ World.commands events, AppliesEntries command) ↔
        s.CallsForRecovery (listQuestion ns) CollectionInfo.ofListing w)

theorem appliesEntries_cons {database name : String} {value : Value} {rest : Document} :
    AppliesEntries (database, (name, value) :: rest) ↔ name = "applyOps" :=
  Option.some_inj

theorem appliesEntries_probeSent : AppliesEntries (s.probeSent .byWriting) :=
  rfl

theorem not_appliesEntries_listQuestion (ns : Namespace) :
    ¬AppliesEntries (listQuestion ns) := by
  rw [listQuestion, listCommand, appliesEntries_cons]
  decide

/-- Asking for the version sends only questions.  Listing a collection sends only listings,
unless the first answer calls for a recovery: then it writes. -/
theorem questions_send (s : Session σ) : s.QuestionsSend where
  version := by
    intro w
    rw [buildInfo_eq]
    refine (retrying_asking_ends "buildInfo" w).mono ?_
    rintro _ t ⟨events, later, unfolds, commands, only, -⟩
    have asks : ¬AppliesEntries versionQuestion := by
      rw [versionQuestion, appliesEntries_cons]
      decide
    have probes : ¬AppliesEntries (s.probeSent .byAsking) := by
      rw [probeSent, appliesEntries_cons]
      decide
    refine ⟨events, unfolds, ?_⟩
    rw [commands]
    rintro command (_ | ⟨_, member⟩)
    · exact ⟨List.mem_cons_self, asks⟩
    · rcases only command member with rfl | rfl
      · exact ⟨List.mem_cons_self, asks⟩
      · exact ⟨List.mem_cons_of_mem _ List.mem_cons_self, probes⟩
  listing := by
    intro ns w
    rw [collectionInfo_eq]
    refine (retrying_asking_ends "listCollections" w).mono ?_
    rintro _ t ⟨events, later, unfolds, commands, only, probed⟩
    have different : listQuestion ns ≠ s.probeSent .byWriting := by
      intro same
      exact not_appliesEntries_listQuestion ns (same ▸ appliesEntries_probeSent)
    refine ⟨events, unfolds, ?_, ?_⟩
    · rw [commands]
      rintro command (_ | ⟨_, member⟩)
      · exact List.mem_cons_self
      · rcases only command member with rfl | rfl
        · exact List.mem_cons_self
        · exact List.mem_cons_of_mem _ List.mem_cons_self
    · rw [commands, ← probed different]
      constructor
      · rintro ⟨command, _ | ⟨_, member⟩, applies⟩
        · exact absurd applies (not_appliesEntries_listQuestion ns)
        · rcases only command member with rfl | rfl
          · exact absurd applies (not_appliesEntries_listQuestion ns)
          · exact member
      · intro member
        exact ⟨_, List.mem_cons_of_mem _ member, appliesEntries_probeSent⟩

end Session

/-- The answer to a listing gets lost, a probe is answered, and the next listing as well. -/
def lostListing : List (Except Failure Document) :=
  [.error (.transport .timeout "i/o timeout"), .ok [("ok", .int32 1)],
    .ok [("ok", .int32 1), ("cursor", .document [("firstBatch", .array [])])]]

/-- A listing that is answered on the second attempt: the collection does not exist.  In
between an entry was applied, although the destination was only asked a question. -/
theorem lost_listing_writes :
    ∃ t : World (List (Except Failure Document)),
      (rehearsed.collectionInfo ⟨"app", "users"⟩).run ⟨lostListing, []⟩ = some (.ok none, t) ∧
        World.commands t.trace =
          [Session.listQuestion ⟨"app", "users"⟩, ("admin", rehearsed.probeCommand),
            Session.listQuestion ⟨"app", "users"⟩] ∧
        AppliesEntries ("admin", rehearsed.probeCommand) :=
  ⟨_, rfl, rfl, rfl⟩

end LogReplay
