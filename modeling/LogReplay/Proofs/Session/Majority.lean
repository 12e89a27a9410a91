/-
Module: LogReplay.Proofs.Session.Majority
Purpose: Every operation that changes a destination waits until a majority has it.
Main exports:
  AsksForMajority, AttemptsOpenWith, Mutation.Waits, Session.mutate_waits_for_majority
-/
import LogReplay.Proofs.Session.Mutation

/-!
A command waits for a majority by itself if it asks for that, and asks for nothing else.
Two commands cannot: a change of a collection does not take the request before 3.6, and a
build of indexes does not heed it before 3.3.5.  After these an entry that does nothing is
applied by a majority, within the same attempt.

A command of the caller may already ask for something.  It is sent with its other fields as
they are, on every attempt.
-/

namespace LogReplay

open Bson

/-- The only write concern of the command is a majority. -/
def AsksForMajority (command : Document) : Prop :=
  command.filter (fun field => field.1 = "writeConcern") =
    [("writeConcern", .document [("w", .string "majority")])]

theorem asksForMajority_majority {command : Document} (distinct : command.names.Nodup) :
    AsksForMajority (majority command) :=
  Document.filter_put_self _ distinct

/-- The fields of a command besides its write concern. -/
def otherFields (command : Document) : Document :=
  command.remove "writeConcern"

theorem otherFields_majority (command : Document) :
    otherFields (majority command) = otherFields command :=
  Document.remove_put_self command _ _

namespace Session

variable {σ : Type}

theorem asksForMajority_batchCommand (s : Session σ) (entries : List Document)
    (bypass : Bool) : AsksForMajority (s.batchCommand entries bypass) := by
  apply asksForMajority_majority
  cases bypass <;> simp [Document.names]

theorem asksForMajority_insertCommand (s : Session σ) (ns : Namespace)
    (documents : List Document) : AsksForMajority (s.insertCommand ns documents) := by
  apply asksForMajority_majority
  cases s.settings.bypassValidation <;> simp [Document.names]

end Session

/-! ## What commands ask for -/

namespace Mutation

/-- The caller's own command, and the database it is for. -/
def own? : Mutation → Option (String × Document)
  | .create database command => some (database, command.fields)
  | .modify database command _ => some (database, command.fields)
  | _ => none

/-- A command that cannot ask for a majority. -/
def plain? : Mutation → Option (String × Document)
  | .modify database command info =>
      if info.isAtLeast [3, 6, 0] then none else some (database, command.fields)
  | _ => none

/-- A command after which the operation still has to wait for a majority. -/
def awaited? : Mutation → Option (String × Document)
  | .modify database command info =>
      if info.isAtLeast [3, 6, 0] then none else some (database, command.fields)
  | .createIndexes ns indexes info =>
      if info.isAtLeast [3, 3, 5] then none
      else some (ns.database, Session.createIndexesCommand ns indexes)
  | _ => none

variable {σ : Type} {s : Session σ} {m : Mutation} {database : String} {command : Document}

theorem Sends.asksForMajority (sends : m.Sends s database command) :
    AsksForMajority command ∨ m.plain? = some (database, command) := by
  induction sends with
  | probe | applyBatch | applyIndex => exact .inl (s.asksForMajority_batchCommand _ _)
  | insert => exact .inl (s.asksForMajority_insertCommand _ _)
  | @create _ command | @modify _ command =>
      exact .inl (asksForMajority_majority command.distinct)
  | drop | rename | dropRenamed | dropDatabase | createIndexes =>
      exact .inl (asksForMajority_majority (by simp [Document.names]))
  | modifyOld old => exact .inr (by rw [plain?, old]; rfl)
  | dropStored _ _ inductionHypothesis | createInBulk _ inductionHypothesis
  | createSingly _ _ inductionHypothesis =>
      exact .inl (inductionHypothesis.resolve_right (by simp [plain?]))

/-- Where the caller's own command is sent, nothing else is sent but probes. -/
theorem Sends.own (sends : m.Sends s database command) {own : String × Document}
    (given : m.own? = some own) :
    (database, command) = ("admin", s.probeCommand) ∨
      database = own.1 ∧ otherFields command = otherFields own.2 := by
  cases sends with
  | probe => exact .inl rfl
  | create | modify =>
      cases given
      exact .inr ⟨rfl, otherFields_majority _⟩
  | modifyOld =>
      cases given
      exact .inr ⟨rfl, rfl⟩
  | _ => cases given

end Mutation

/-! ## What attempts begin with -/

/-- Every attempt among the events begins with such an event. -/
def AttemptsOpenWith (opening : Event → Prop) (events : List Event) : Prop :=
  ∀ earlier isRetry later, events = earlier ++ .attempted isRetry :: later →
    ∃ event rest, later = event :: rest ∧ opening event

namespace AttemptsOpenWith

variable {opening : Event → Prop} {events later : List Event}

theorem of_no_attempts (opening : Event → Prop)
    (none : ∀ isRetry, .attempted isRetry ∉ events) : AttemptsOpenWith opening events := by
  rintro earlier isRetry later rfl
  exact absurd List.mem_append_cons_self (none isRetry)

theorem append (one : AttemptsOpenWith opening events) (two : AttemptsOpenWith opening later) :
    AttemptsOpenWith opening (events ++ later) := by
  intro earlier isRetry rest split
  rcases List.append_eq_append_iff.mp split with ⟨middle, rfl, same⟩ | ⟨middle, rfl, same⟩
  · exact two middle isRetry rest same
  cases middle with
  | nil => exact two [] isRetry rest same.symm
  | cons first middle =>
      cases same
      obtain ⟨event, others, rfl, opens⟩ := one earlier isRetry middle rfl
      exact ⟨event, others ++ later, rfl, opens⟩

theorem attempt {event : Event} (isRetry : Bool) (opens : opening event)
    (alone : ∀ isRetry, .attempted isRetry ∉ event :: events) :
    AttemptsOpenWith opening (.attempted isRetry :: event :: events) := by
  intro earlier retry rest split
  cases earlier with
  | nil =>
      cases split
      exact ⟨event, events, rfl, opens⟩
  | cons first earlier =>
      rw [List.cons_append, List.cons.injEq] at split
      exact of_no_attempts opening alone earlier retry rest split.2

end AttemptsOpenWith

namespace Session

variable {σ : Type} {s : Session σ} {w : World σ} {opening : Event → Prop}

/-- Whatever else it does, the act begins with such an event and makes no attempts. -/
def BeginsWith {α : Type} (s : Session σ) (opening : Event → Prop)
    (x : Act (World σ) Failure α) : Prop :=
  ∀ w, x.Ends w fun _ t => ∃ event later, s.Unfolds w (event :: later) t ∧ opening event ∧
    ∀ isRetry, .attempted isRetry ∉ event :: later

theorem BeginsWith.mono {α : Type} {wider : Event → Prop} {x : Act (World σ) Failure α}
    (begins : s.BeginsWith opening x) (widen : ∀ event, opening event → wider event) :
    s.BeginsWith wider x := by
  intro w
  refine (begins w).mono ?_
  rintro result t ⟨event, later, unfolds, opens, alone⟩
  exact ⟨event, later, unfolds, widen event opens, alone⟩

theorem BeginsWith.forgiving {forgiven : Failure → Bool} {x : Act (World σ) Failure Unit}
    (begins : s.BeginsWith opening x) :
    s.BeginsWith opening (forgiving forgiven x) := by
  intro w
  refine Act.ends_bind.mpr (Act.ends_outcome.mpr ((begins w).mono ?_))
  rintro (failure | ⟨⟩) t ended
  · dsimp only
    split
    · exact (Act.ends_pure _).mpr ended
    · exact (Act.ends_fail _).mpr ended
  · exact (Act.ends_pure _).mpr ended

/-- The event is this command being sent. -/
def IsSending (database : String) (command : Document) (event : Event) : Prop :=
  ∃ outcome, event = .commanded database command outcome

theorem perform_beginsWith (s : Session σ) (database : String) (command : Document) :
    s.BeginsWith (IsSending database command) (s.perform database command) := by
  intro w
  exact ends_perform.mpr ⟨_, [], .heard s w database command, ⟨_, rfl⟩, by simp⟩

/-- Sends a command, and waits for a majority afterwards. -/
def performAwaited (s : Session σ) (database : String) (command : Document) :
    Act (World σ) Failure Unit := do
  s.perform database command
  s.waitForMajority

theorem performAwaited_beginsWith (s : Session σ) (database : String) (command : Document) :
    s.BeginsWith (IsSending database command) (s.performAwaited database command) := by
  intro w
  have sent := Unfolds.heard s w database command
  refine Act.ends_bind.mpr (ends_perform.mpr ?_)
  cases s.answer w.outside database command with
  | error failure => exact ⟨_, [], sent, ⟨_, rfl⟩, by simp⟩
  | ok reply =>
      exact ends_waitForMajority.mpr
        ⟨_, [_], sent.trans (.heard s _ _ _), ⟨_, rfl⟩, by simp⟩

theorem retryingWrite_opens {α : Type} {attempt : Bool → Act (World σ) Failure α}
    (begins : ∀ isRetry, s.BeginsWith opening (attempt isRetry)) {operation : String} :
    (s.retryingWrite operation attempt).Ends w fun _ t =>
      ∃ events, s.Unfolds w events t ∧ AttemptsOpenWith opening events := by
  have every (isRetry : Bool) (u : World σ)
      (held : ∃ events, s.Unfolds w events u ∧ AttemptsOpenWith opening events) :
      (attempt isRetry).Ends (u.record (.attempted isRetry))
        (Attempted (fun t => ∃ events, s.Unfolds w events t ∧ AttemptsOpenWith opening events)
          fun _ t => ∃ events, s.Unfolds w events t ∧ AttemptsOpenWith opening events) := by
    obtain ⟨events, unfolds, opened⟩ := held
    refine (begins isRetry _).mono ?_
    rintro result t ⟨event, later, attempted, opens, alone⟩
    have reached := (unfolds.trans (.record s u rfl)).trans attempted
    rw [List.append_assoc] at reached
    have kept := opened.append (.attempt isRetry opens alone)
    cases result with
    | ok value => exact ⟨_, reached, kept⟩
    | error failure => exact ⟨fun _ => ⟨_, reached, kept⟩, fun _ => ⟨_, reached, kept⟩⟩
  refine retrying_ends_of_mends (mends_unfolds w _ ?_) (fun u held => every true u held)
    (fun _ held => held) (every false w ⟨[], .refl s w, .of_no_attempts opening (by simp)⟩)
  intro events event opened between
  refine opened.append (.of_no_attempts opening ?_)
  intro isRetry begun
  obtain rfl := List.mem_singleton.mp begun
  exact not_isBetweenAttempts isRetry between

/-! ## What older destinations are waited for -/

/-- The command succeeded, and then an entry that does nothing was acknowledged by a
majority. -/
def AreAwaited (s : Session σ) (command : String × Document) (events : List Event) : Prop :=
  ∃ reply acknowledgement applied,
    events = [.commanded command.1 command.2 (.ok reply),
      .commanded "admin" s.probeCommand (.ok acknowledgement)] ∧
    ApplyOpsReply.ofDocument acknowledgement = .ok applied

/-- The last attempt consists of events that are awaited so. -/
def EndsAwaited (s : Session σ) (command : String × Document) (events : List Event) : Prop :=
  ∃ earlier isRetry last, events = earlier ++ .attempted isRetry :: last ∧
    s.AreAwaited command last

theorem exists_answer_of_batchAnswer {o : σ} {command : Document} {applied : ApplyOpsReply}
    (answered : s.batchAnswer o command = .ok applied) :
    ∃ acknowledgement, s.answer o "admin" command = .ok acknowledgement ∧
      ApplyOpsReply.ofDocument acknowledgement = .ok applied := by
  rw [batchAnswer] at answered
  cases acknowledged : s.answer o "admin" command with
  | error failure =>
      rw [acknowledged] at answered
      cases answered
  | ok acknowledgement =>
      rw [acknowledged] at answered
      exact ⟨acknowledgement, rfl, answered⟩

theorem performAwaited_ends (s : Session σ) (database : String) (command : Document)
    (w : World σ) :
    (s.performAwaited database command).Ends w fun result t =>
      ∃ events, s.Unfolds w events t ∧
        (result = .ok () → s.AreAwaited (database, command) events) := by
  have sent := Unfolds.heard s w database command
  refine Act.ends_bind.mpr (ends_perform.mpr ?_)
  cases answered : s.answer w.outside database command with
  | error failure => exact ⟨_, sent, fun ended => (by cases ended)⟩
  | ok reply =>
      rw [answered] at sent
      have probed := sent.trans (.heard s _ "admin" s.probeCommand)
      refine ends_waitForMajority.mpr ⟨_, probed, ?_⟩
      intro ended
      cases confirmed : s.batchAnswer (s.heard w database command).outside s.probeCommand with
      | error failure =>
          rw [confirmed] at ended
          cases ended
      | ok applied =>
          obtain ⟨acknowledgement, acknowledged, read⟩ :=
            exists_answer_of_batchAnswer confirmed
          rw [acknowledged]
          exact ⟨reply, acknowledgement, applied, rfl, read⟩

theorem retryingAwaited_ends {operation database : String} {command : Document} :
    (s.retryingWrite operation fun _ => s.performAwaited database command).Ends w
      fun result t => result = .ok () →
        ∃ events, s.Unfolds w events t ∧ s.EndsAwaited (database, command) events := by
  have every (isRetry : Bool) (u : World σ) (held : ∃ events, s.Unfolds w events u ∧ True) :
      (s.performAwaited database command).Ends (u.record (.attempted isRetry))
        (Attempted (fun t => ∃ events, s.Unfolds w events t ∧ True) fun result t =>
          result = .ok () →
            ∃ events, s.Unfolds w events t ∧ s.EndsAwaited (database, command) events) := by
    obtain ⟨earlier, unfolds, -⟩ := held
    have begun : s.Unfolds w (earlier ++ [.attempted isRetry]) (u.record (.attempted isRetry)) :=
      unfolds.trans (.record s u rfl)
    refine (s.performAwaited_ends database command _).mono ?_
    rintro (failure | ⟨⟩) t ⟨last, attempted, awaited⟩
    · exact ⟨fun _ => ⟨_, begun.trans attempted, trivial⟩, fun _ ended => (by cases ended)⟩
    · intro _
      refine ⟨_, begun.trans attempted, earlier, isRetry, last, ?_, awaited rfl⟩
      exact (List.append_cons _ _ _).symm
  exact retrying_ends_of_mends (mends_unfolds w _ fun _ _ => trivial)
    (fun u held => every true u held) (fun _ _ ended => (by cases ended))
    (every false w ⟨[], .refl s w, trivial⟩)

end Session

/-! ## All that an operation sends -/

/-- The event is the caller's own command being sent, with its other fields as they are. -/
def Mutation.IsOwn (own : String × Document) (event : Event) : Prop :=
  ∃ sent, Session.IsSending own.1 sent event ∧ otherFields sent = otherFields own.2

/-- What the events of an operation and its result say of waiting for a majority. -/
structure Mutation.Waits {σ : Type} (s : Session σ) (m : Mutation) (events : List Event)
    (result : Except Fault Unit) : Prop where
  /-- Every command asks for a majority, save the one that cannot. -/
  asked : ∀ command ∈ World.commands events,
    AsksForMajority command.2 ∨ m.plain? = some command
  /-- Besides the caller's own command nothing is sent but probes. -/
  own : ∀ own, m.own? = some own → ∀ command ∈ World.commands events,
    command = ("admin", s.probeCommand) ∨
      command.1 = own.1 ∧ otherFields command.2 = otherFields own.2
  /-- It is sent in every attempt. -/
  attempted : ∀ own, m.own? = some own → AttemptsOpenWith (Mutation.IsOwn own) events
  /-- What does not wait for a majority by itself is waited for. -/
  awaited : result = .ok () → ∀ command, m.awaited? = some command →
    s.EndsAwaited command events

namespace Session

variable {σ : Type} {s : Session σ} {w t : World σ} {result : Except Fault Unit}

theorem mutate_opens (m : Mutation) {own : String × Document} (given : m.own? = some own) :
    (s.mutate m).Ends w fun _ t =>
      ∃ events, s.Unfolds w events t ∧ AttemptsOpenWith (Mutation.IsOwn own) events := by
  cases m with
  | create database command =>
      cases given
      refine retryingWrite_opens fun _ =>
        ((perform_beginsWith s database (majority command.fields)).mono ?_).forgiving
      exact fun event sending => ⟨_, sending, otherFields_majority command.fields⟩
  | modify database command info =>
      cases given
      refine retryingWrite_opens fun _ => ?_
      split
      · refine (perform_beginsWith s database (majority command.fields)).mono ?_
        exact fun event sending => ⟨_, sending, otherFields_majority command.fields⟩
      · refine (performAwaited_beginsWith s database command.fields).mono ?_
        exact fun event sending => ⟨_, sending, rfl⟩
  | _ => cases given

theorem modifyCollection_of_old {database : String} {command : Document} {info : BuildInfo}
    (old : ¬ info.isAtLeast [3, 6, 0] = true) :
    s.modifyCollection database command info =
      s.retryingWrite "collMod" fun _ => s.performAwaited database command := by
  simp only [modifyCollection, if_neg old]
  rfl

theorem createIndexes_of_old {ns : Namespace} {indexes : List Document} {info : BuildInfo}
    (old : ¬ info.isAtLeast [3, 3, 5] = true) :
    s.createIndexes ns indexes info =
      s.retryingWrite "createIndexes" fun _ =>
        s.performAwaited ns.database (createIndexesCommand ns indexes) := by
  simp only [createIndexes, if_neg old]
  rfl

theorem mutate_awaits (m : Mutation) {command : String × Document}
    (given : m.awaited? = some command) :
    (s.mutate m).Ends w fun result t => result = .ok () →
      ∃ events, s.Unfolds w events t ∧ s.EndsAwaited command events := by
  cases m with
  | modify database own info =>
      rw [Mutation.awaited?] at given
      split at given <;> cases given
      next old =>
      rw [mutate, modifyCollection_of_old old]
      exact retryingAwaited_ends
  | createIndexes ns indexes info =>
      rw [Mutation.awaited?] at given
      split at given <;> cases given
      next old =>
      rw [mutate, createIndexes_of_old old]
      exact retryingAwaited_ends
  | _ => cases given

theorem Unfolds.unique {events later : List Event} (one : s.Unfolds w events t)
    (two : s.Unfolds w later t) : later = events :=
  List.append_cancel_left (two.trace.symm.trans one.trace)

/-- However an operation that changes a destination ends, each command that it sent on any
attempt asks for a majority and for no other write concern, save a change of a collection
before 3.6.  A command of the caller is sent on every attempt with its other fields in
order, and nothing else is but probes.  A command that does not wait for a majority by
itself succeeds only if an entry that does nothing was acknowledged by a majority after it,
in the same attempt. -/
theorem mutate_waits_for_majority (s : Session σ) (m : Mutation)
    (ended : (s.mutate m).run w = some (result, t)) :
    ∃ events, t.trace = w.trace ++ events ∧ m.Waits s events result := by
  obtain ⟨events, unfolds, sends⟩ := s.mutate_sends m w result t ended
  refine ⟨events, unfolds.trace, ?_, ?_, ?_, ?_⟩
  · intro command sent
    exact (sends command sent).asksForMajority
  · intro own given command sent
    exact (sends command sent).own given
  · intro own given
    obtain ⟨others, unfolding, opened⟩ := mutate_opens m given result t ended
    rwa [unfolds.unique unfolding] at opened
  · intro succeeded command given
    obtain ⟨others, unfolding, awaited⟩ := mutate_awaits m given result t ended succeeded
    rwa [unfolds.unique unfolding] at awaited

end Session

/-- A change of a collection, by a caller who does not care for a write concern. -/
def carelessChange : OwnCommand where
  fields :=
    [("collMod", .string "users"), ("writeConcern", .document [("w", .int32 0)]),
      ("hidden", .boolean true)]
  distinct := by decide

/-- The connection is lost at the first attempt.  Before 3.6 the second one sends the change
as it is, and an entry that does nothing after it. -/
theorem careless_change_awaited :
    ∃ (t : World (List (Except Failure Document))) (events : List Event),
      (rehearsed.mutate (.modify "app" carelessChange ⟨"3.4.0", [3, 4, 0]⟩)).run
        ⟨[.error (.transport .timeout "i/o timeout")], []⟩ = some (.ok (), t) ∧
      t.trace = events ∧ (World.commands events).length = 4 ∧
      (∀ command ∈ World.commands events,
        AsksForMajority command.2 ∨ command = ("app", carelessChange.fields)) ∧
      rehearsed.EndsAwaited ("app", carelessChange.fields) events := by
  obtain ⟨t, ended, sent⟩ : ∃ t,
      (rehearsed.mutate (.modify "app" carelessChange ⟨"3.4.0", [3, 4, 0]⟩)).run
        ⟨[.error (.transport .timeout "i/o timeout")], []⟩ = some (.ok (), t) ∧
      (World.commands t.trace).length = 4 := ⟨_, rfl, rfl⟩
  obtain ⟨events, trace, waits⟩ := rehearsed.mutate_waits_for_majority _ ended
  obtain rfl : t.trace = events := trace
  refine ⟨t, t.trace, ended, rfl, sent, ?_, waits.awaited rfl _ rfl⟩
  intro command member
  refine (waits.asked command member).imp_right ?_
  intro plain
  exact (Option.some.inj plain).symm

end LogReplay
