/-
Module: LogReplay.Proofs.Session.Singly
Purpose: Indexes that cannot be built in bulk are built one by one, each as it was asked for.
Main exports:
  OwnIndex, BuildsIndex, WrittenAs, Session.Repeats, Session.BuildsSingly, Session.BuildsIndexes,
  Session.createIndexesOrSingly_builds_once
-/
import LogReplay.Proofs.Entry.NormalForm
import LogReplay.Proofs.Session.Acknowledged
import LogReplay.Proofs.Session.Mutation

/-!
There are three ways to ask for an index: among others in one command, in a command entry
of the log, and in an entry that inserts its specification.  The three carry the same
specification, as it is sent out; but a log entry is written as a value, and so are the fields
of a specification in it.  A literal one takes its canonical form, in which the option letters
of regular expressions are in order and decimals have their normal bits.  In others the
documents that stand for values, such as `$numberInt` for a number, become these.

What was sent is read off the events of a run.  However often an operation is repeated, it
sends one command, and probes in between: it `Repeats` the command.  So the course of a run
is a bulk build and, after a refusal that single builds may get around, one call for each
index up to the first that fails.
-/

namespace LogReplay

open Bson

variable {σ : Type}

/-! ## Specifications -/

/-- A specification as a caller puts it together: it names every field once, and has no field
that is named like the command. -/
structure OwnIndex where
  fields : Document
  distinct : fields.names.Nodup
  fresh : "createIndexes" ∉ fields.names

/-- The specification as it is sent out. -/
def OwnIndex.outgoing (index : OwnIndex) : Document :=
  Index.outgoing index.fields

theorem OwnIndex.createIndexes_notMem_outgoing (index : OwnIndex) :
    "createIndexes" ∉ index.outgoing.names := by
  intro member
  rcases Index.mem_names_outgoing member with version | own
  · exact absurd version (by decide)
  · exact index.fresh own

/-- The specifications in a command that builds indexes. -/
def specsIn (command : Document) : List Document :=
  match command.items "indexes" with
  | .ok specs => specs.filterMap Value.document?
  | .error _ => []

/-- The bulk command has the specifications as they are sent out, in the order of the list. -/
theorem specsIn_createIndexesCommand (ns : Namespace) (indexes : List OwnIndex) :
    specsIn (Session.createIndexesCommand ns (indexes.map OwnIndex.fields)) =
      indexes.map OwnIndex.outgoing := by
  have field : (Session.createIndexesCommand ns (indexes.map OwnIndex.fields)).field? "indexes" =
      some (.array ((indexes.map OwnIndex.outgoing).map .document)) := by
    rw [Session.createIndexesCommand, majority, Document.field?_put_of_ne _ (by decide)]
    simp [Document.field?_cons, OwnIndex.outgoing, Function.comp_def]
  simp only [specsIn, Document.items, field, Session.documents_of_items]

/-! ## Log entries that build an index -/

/-- The application of the entry builds an index of this specification: without an
identifier of the collection it inserts the specification where old databases keep them,
and with one it is the command on that collection. -/
inductive BuildsIndex (ns : Namespace) (spec entry : Document) : Option Binary → Prop where
  | asInsertion (operation : entry.field? "op" = some (.string "i"))
      (place : entry.field? "ns" = some (.string (ns.database ++ ".system.indexes")))
      (anonymous : entry.field? "ui" = none)
      (body : entry.field? "o" = some (.document spec)) :
      BuildsIndex ns spec entry none
  | asCommand {identifier : Binary}
      (operation : entry.field? "op" = some (.string "c"))
      (place : entry.field? "ns" = some (.string (ns.database ++ ".$cmd")))
      (identified : entry.field? "ui" = some (.binary identifier))
      (body : entry.field? "o" =
        some (.document (("createIndexes", .string ns.collection) :: spec))) :
      BuildsIndex ns spec entry (some identifier)

/-- What a specification is written as in an entry: field by field, under the same names,
and in its canonical form if it is literal. -/
structure WrittenAs (spec written : Document) : Prop where
  fieldwise : written = writtenFields spec
  names : written.names = spec.names
  literal : spec.isLiteral = true → written = Document.canonical spec

theorem writtenAs (spec : Document) : WrittenAs spec (writtenFields spec) where
  fieldwise := rfl
  names := names_writtenFields spec
  literal := writtenFields_of_areLiteral spec

example :
    writtenFields [("partialFilterExpression",
        .document [("age", .document [("$numberInt", .string "5")])])] =
      [("partialFilterExpression", .document [("age", .int32 5)])] := by
  decide

/-- A specification is written as a document, since its version is among its fields. -/
theorem OwnIndex.written_outgoing (index : OwnIndex) :
    Document.written (Index.outgoing index.fields) = .document (writtenFields index.outgoing) := by
  have versioned : "v" ∈ Document.names (writtenFields index.outgoing) := by
    rw [names_writtenFields]
    exact Index.version_mem_names_outgoing index.fields
  exact Value.ofRecord_of_untagged versioned rfl

/-- The specification follows the field that names the command. -/
theorem OwnIndex.written_extend (index : OwnIndex) (collection : String) :
    Document.written
        (Document.extend [("createIndexes", .string collection)] (Index.outgoing index.fields)) =
      .document (("createIndexes", .string collection) :: writtenFields index.outgoing) := by
  have extended : Document.extend [("createIndexes", .string collection)] index.outgoing =
      ("createIndexes", .string collection) :: index.outgoing := by
    refine Document.extend_of_fresh (Index.nodup_names_outgoing index.distinct) ?_
    intro name member taken
    cases List.mem_singleton.mp taken
    exact index.createIndexes_notMem_outgoing member
  have named : "createIndexes" ∈
      Document.names (("createIndexes", .string collection) :: writtenFields index.outgoing) :=
    List.mem_cons_self
  exact (congrArg Document.written extended).trans (Value.ofRecord_of_untagged named rfl)

/-- The document of the entry that builds an index. -/
def OwnIndex.entry (index : OwnIndex) (ns : Namespace) (identifier : Option Binary) : Document :=
  (Session.indexEntry ns index.fields identifier).toDocument

/-- It carries the specification as it is written. -/
theorem OwnIndex.entry_buildsIndex (index : OwnIndex) (ns : Namespace)
    (identifier : Option Binary) :
    BuildsIndex ns (writtenFields index.outgoing) (index.entry ns identifier) identifier := by
  have written {name : String} {value : Option Value}
      (row : (name, value) ∈
        (Session.indexEntry ns index.fields identifier).rows Document.written) :
      (index.entry ns identifier).field? name = value :=
    Entry.field?_fields _ row
  cases identifier with
  | none =>
      simp only [Session.indexEntry, Entry.rows, Entry.noop, Namespace.text_systemIndexes,
        index.written_outgoing] at written
      exact .asInsertion (written (by simp)) (written (by simp)) (written (by simp))
        (written (by simp))
  | some identifier =>
      simp only [Session.indexEntry, Entry.rows, Entry.noop, Namespace.text_command,
        index.written_extend] at written
      exact .asCommand (written (by simp)) (written (by simp)) (written (by simp))
        (written (by simp))

/-! ## Commands that carry data -/

/-- An operation that does nothing. -/
def isIdle : Value → Bool
  | .document entry => Document.text? entry "op" == some "n"
  | _ => false

/-- The command applies operations that do something. -/
def carriesData (command : Document) : Bool :=
  match command.items "applyOps" with
  | .ok operations => operations.any fun operation => !isIdle operation
  | .error _ => false

theorem carriesData_createIndexesCommand (ns : Namespace) (indexes : List Document) :
    carriesData (Session.createIndexesCommand ns indexes) = false := by
  have missing : (Session.createIndexesCommand ns indexes).field? "applyOps" = none := by
    rw [Session.createIndexesCommand, majority, Document.field?_put_of_ne _ (by decide)]
    simp [Document.field?_cons]
  simp only [carriesData, Document.items, missing]

theorem BuildsIndex.not_isIdle {ns : Namespace} {spec entry : Document}
    {identifier : Option Binary} (builds : BuildsIndex ns spec entry identifier) :
    isIdle (.document entry) = false := by
  cases builds with
  | asInsertion operation => simp [isIdle, Document.text?, operation, Value.text?]
  | asCommand operation => simp [isIdle, Document.text?, operation, Value.text?]

namespace Session

variable {s : Session σ}

theorem carriesData_batchCommand (entry : Document) (bypass : Bool) :
    carriesData (s.batchCommand [entry] bypass) = !isIdle (.document entry) := by
  simp [carriesData, Document.items, field?_batchCommand, batchOperations]

theorem carriesData_probeCommand (s : Session σ) : carriesData s.probeCommand = false := by
  have operation : Document.field? s.noop "op" = some (.string "n") :=
    Entry.field?_fields _ (by simp [Entry.rows, Entry.noop])
  rw [probeCommand, carriesData_batchCommand]
  simp [isIdle, Document.text?, operation, Value.text?]

/-! ## Repeating one command -/

/-- The commands among the events other than probes. -/
def errands (s : Session σ) (events : List Event) : List (String × Document) :=
  (World.commands events).filter (· ≠ ("admin", s.probeCommand))

theorem errands_append (events later : List Event) :
    s.errands (events ++ later) = s.errands events ++ s.errands later := by
  rw [errands, World.commands_append, List.filter_append]
  rfl

theorem errands_probe (outcome : Except Failure Document) :
    s.errands [.commanded "admin" s.probeCommand outcome] = [] :=
  List.filter_eq_nil_iff.mpr (by simp [World.commands])

theorem errands_of_isBetweenAttempts {event : Event} (between : s.IsBetweenAttempts event) :
    s.errands [event] = [] := by
  cases event with
  | commanded database command outcome =>
      obtain ⟨rfl, rfl⟩ := between
      exact errands_probe outcome
  | _ => rfl

/-- What carries data is not a probe. -/
theorem mem_errands_of_carriesData {events : List Event} {command : String × Document}
    (member : command ∈ World.commands events) (data : carriesData command.2 = true) :
    command ∈ s.errands events := by
  refine List.mem_filter.mpr ⟨member, decide_eq_true ?_⟩
  rintro rfl
  rw [carriesData_probeCommand] at data
  cases data

/-- On the way from one world to the other one command was sent, once or several times, and
nothing else but probes. -/
def Repeats (s : Session σ) (database : String) (command : Document) (w t : World σ) : Prop :=
  ∃ events, s.Unfolds w events t ∧
    ∃ again, s.errands events = List.replicate (again + 1) (database, command)

/-- An operation whose attempts send one command repeats it. -/
theorem retryingWrite_repeats {α : Type} {attempt : Bool → Act (World σ) Failure α}
    {database : String} {command : Document}
    (attempted : ∀ isRetry w, (attempt isRetry).Ends w fun _ t =>
      ∃ events, s.Unfolds w events t ∧ s.errands events = [(database, command)])
    {operation : String} {w : World σ} :
    (s.retryingWrite operation attempt).Ends w fun _ t => s.Repeats database command w t := by
  have mends : s.Mends .byWriting (s.Repeats database command w)
      (s.Repeats database command w) := by
    refine mends_unfolds w _ ?_
    rintro events event ⟨again, sent⟩ between
    refine ⟨again, ?_⟩
    rw [errands_append, errands_of_isBetweenAttempts between, List.append_nil, sent]
  -- An attempt that follows so many earlier ones adds one more of the command.
  have attemptedAfter (times : Nat) (isRetry : Bool) {u : World σ} {events : List Event}
      (unfolds : s.Unfolds w events u)
      (sent : s.errands events = List.replicate times (database, command)) :
      (attempt isRetry).Ends (u.record (.attempted isRetry))
        (Attempted (s.Repeats database command w)
          fun _ t => s.Repeats database command w t) := by
    refine (attempted isRetry _).mono ?_
    rintro outcome t ⟨later, more, once⟩
    have repeated : s.Repeats database command w t := by
      refine ⟨_, (unfolds.trans (.record s u rfl)).trans more, times, ?_⟩
      rw [errands_append, errands_append, sent, once, List.replicate_succ']
      exact congrArg (· ++ _) (List.append_nil _)
    cases outcome with
    | ok value => exact repeated
    | error failure => exact ⟨fun _ => repeated, fun _ => repeated⟩
  refine retrying_ends_of_mends mends ?_ (fun _ repeated => repeated)
    (attemptedAfter 0 false (.refl s w) rfl)
  rintro u ⟨events, unfolds, again, sent⟩
  exact attemptedAfter _ true unfolds sent

/-! ## The bulk build -/

/-- The bulk build was refused for good, because of an option or because an index cannot be
created. -/
def IsRefusal (bulk : Except Fault Unit) : Prop :=
  ∃ e : CommandError, bulk = .error (.command (.command e)) ∧ (e.code = 197 ∨ e.code = 67)

theorem not_isRefusal_ok : ¬ IsRefusal (.ok ()) := by
  rintro ⟨_, ⟨⟩, _⟩

theorem callsForSingles_iff {fault : Fault} :
    callsForSingles fault = true ↔ IsRefusal (.error fault) := by
  constructor
  · intro calls
    cases fault with
    | command failure =>
        cases failure with
        | command e =>
            have codes : e.code = 197 ∨ e.code = 67 := by
              simpa [callsForSingles, Fault.commandFailure?, Failure.isInvalidIndexOption,
                Failure.isCannotCreateIndex, Failure.isCommandWithCode] using calls
            exact ⟨e, rfl, codes⟩
        | _ => cases calls
    | _ => cases calls
  · rintro ⟨e, ⟨⟩, codes⟩
    simpa [callsForSingles, Fault.commandFailure?, Failure.isInvalidIndexOption,
      Failure.isCannotCreateIndex, Failure.isCommandWithCode] using codes

/-- The indexes are built in bulk, which comes to `bulk`. -/
structure BuildsInBulk (s : Session σ) (ns : Namespace) (indexes : List Document)
    (info : BuildInfo) (w : World σ) (bulk : Except Fault Unit) (t : World σ) : Prop where
  ran : (s.createIndexes ns indexes info).run w = some (bulk, t)
  sent : s.Repeats ns.database (createIndexesCommand ns indexes) w t

/-- A single build is one call to apply an entry, which comes to `outcome`. -/
structure Applies (s : Session σ) (entry : Document) (w : World σ)
    (outcome : Except Fault ApplyOpsReply) (t : World σ) : Prop where
  ran : (s.applyBatchWith [entry] false).run w = some (outcome, t)
  sent : s.Repeats "admin" (s.batchCommand [entry] false) w t

/-- Indexes of these specifications are built one by one, in order and up to the first that
fails. -/
inductive BuildsSingly (s : Session σ) (ns : Namespace) (identifier : Option Binary) :
    World σ → List Document → List (Except Fault ApplyOpsReply) → World σ → Prop where
  | done {w : World σ} : BuildsSingly s ns identifier w [] [] w
  | built {w u t : World σ} {spec written entry : Document} {rest : List Document}
      {reply : ApplyOpsReply} {outcomes : List (Except Fault ApplyOpsReply)}
      (writes : WrittenAs spec written) (builds : BuildsIndex ns written entry identifier)
      (applies : s.Applies entry w (.ok reply) u)
      (later : BuildsSingly s ns identifier u rest outcomes t) :
      BuildsSingly s ns identifier w (spec :: rest) (.ok reply :: outcomes) t
  | failed {w t : World σ} {spec written entry : Document} {rest : List Document} {fault : Fault}
      (writes : WrittenAs spec written) (builds : BuildsIndex ns written entry identifier)
      (applies : s.Applies entry w (.error fault) t) :
      BuildsSingly s ns identifier w (spec :: rest) [.error fault] t

/-! ## What is sent -/

theorem errands_heard (database : String) {command : Document}
    (other : command ≠ s.probeCommand) (outcome : Except Failure Document) :
    s.errands [.commanded database command outcome] = [(database, command)] := by
  have proper : (database, command) ≠ ("admin", s.probeCommand) :=
    fun same => other (congrArg Prod.snd same)
  exact List.filter_cons_of_pos (decide_eq_true proper)

theorem createIndexesCommand_ne_probeCommand (ns : Namespace) (indexes : List Document) :
    createIndexesCommand ns indexes ≠ s.probeCommand := by
  intro same
  have names : some "createIndexes" = some "applyOps" := congrArg Document.firstName? same
  exact absurd names (by decide)

/-- Probes bypass validation. -/
theorem batchCommand_ne_probeCommand (entries : List Document) :
    s.batchCommand entries false ≠ s.probeCommand := by
  intro same
  have absent : (s.batchCommand entries false).field? "bypassDocumentValidation" = none := by
    rw [batchCommand, majority, Document.field?_put_of_ne _ (by decide)]
    rfl
  have present : s.probeCommand.field? "bypassDocumentValidation" = some (.boolean true) := by
    rw [probeCommand, batchCommand, majority, Document.field?_put_of_ne _ (by decide)]
    rfl
  rw [same, present] at absent
  cases absent

theorem createIndexes_repeats (ns : Namespace) (indexes : List Document) (info : BuildInfo)
    (w : World σ) :
    (s.createIndexes ns indexes info).Ends w fun _ t =>
      s.Repeats ns.database (createIndexesCommand ns indexes) w t := by
  refine retryingWrite_repeats fun isRetry u => ?_
  have unfolds := Unfolds.heard s u ns.database (createIndexesCommand ns indexes)
  have once := s.errands_heard ns.database (createIndexesCommand_ne_probeCommand ns indexes)
    (s.answer u.outside ns.database (createIndexesCommand ns indexes))
  refine Act.ends_bind.mpr (ends_perform.mpr ?_)
  cases s.answer u.outside ns.database (createIndexesCommand ns indexes) with
  | error failure => exact ⟨_, unfolds, once⟩
  | ok reply =>
      dsimp only [Except.map]
      split
      · exact (Act.ends_pure ()).mpr ⟨_, unfolds, once⟩
      · have heard := unfolds.trans (.heard s _ "admin" s.probeCommand)
        refine ends_waitForMajority.mpr ⟨_, heard, ?_⟩
        rw [errands_append, once, errands_probe]
        rfl

theorem applyBatchWith_repeats (entry : Document) (w : World σ) :
    (s.applyBatchWith [entry] false).Ends w fun _ t =>
      s.Repeats "admin" (s.batchCommand [entry] false) w t := by
  refine retryingWrite_repeats fun isRetry u => ?_
  refine (Act.ends_iff_of_run (s.run_attemptBatch [entry] false u)).mpr ?_
  refine ⟨_, (Unfolds.heard s u "admin" _).trans (.record s _ rfl), ?_⟩
  rw [errands_append, errands_heard "admin" (batchCommand_ne_probeCommand [entry])]
  rfl

/-! ## Single builds -/

/-- What single builds come to together: the first failure among them. -/
def verdict : List (Except Fault ApplyOpsReply) → Except Fault Unit
  | [] => .ok ()
  | .ok _ :: rest => verdict rest
  | .error fault :: _ => .error fault

theorem applyIndexes_buildsSingly (ns : Namespace) (identifier : Option Binary)
    (indexes : List OwnIndex) (w : World σ) :
    (s.applyIndexes ns identifier (indexes.map OwnIndex.fields)).Ends w fun result t =>
      ∃ singles, result = verdict singles ∧
        s.BuildsSingly ns identifier w (indexes.map OwnIndex.outgoing) singles t := by
  induction indexes generalizing w with
  | nil => exact (Act.ends_pure ()).mpr ⟨[], rfl, .done⟩
  | cons index rest inductionHypothesis =>
      have builds := index.entry_buildsIndex ns identifier
      rw [List.map_cons, List.map_cons, applyIndexes, Act.ends_bind]
      intro outcome u ran
      have applies : s.Applies (index.entry ns identifier) w outcome u :=
        ⟨ran, applyBatchWith_repeats _ w outcome u ran⟩
      cases outcome with
      | error fault => exact ⟨[.error fault], rfl, .failed (writtenAs _) builds applies⟩
      | ok reply =>
          refine (inductionHypothesis u).mono ?_
          rintro result t ⟨singles, rfl, later⟩
          exact ⟨.ok reply :: singles, rfl, .built (writtenAs _) builds applies later⟩

namespace BuildsSingly

variable {ns : Namespace} {identifier : Option Binary} {w t : World σ}
  {specs : List Document} {singles : List (Except Fault ApplyOpsReply)}

/-- Single builds succeed if there is one for every index and each of them succeeded. -/
theorem verdict_eq_ok_iff (builds : s.BuildsSingly ns identifier w specs singles t) :
    verdict singles = .ok () ↔
      singles.length = specs.length ∧ ∀ single ∈ singles, ∃ reply, single = .ok reply := by
  induction builds with
  | done => simp [verdict]
  | built _ _ _ _ inductionHypothesis => simp [verdict, inductionHypothesis]
  | failed => simp [verdict]

/-- Otherwise they fail with the failure of the last one, and those before succeeded. -/
theorem verdict_eq_error_iff {fault : Fault}
    (builds : s.BuildsSingly ns identifier w specs singles t) :
    verdict singles = .error fault ↔
      ∃ replies : List ApplyOpsReply, singles = replies.map .ok ++ [.error fault] := by
  induction builds with
  | done => simp [verdict]
  | @built _ _ _ _ _ _ _ reply outcomes _ _ _ _ inductionHypothesis =>
      rw [verdict, inductionHypothesis]
      constructor
      · rintro ⟨replies, rfl⟩
        exact ⟨reply :: replies, rfl⟩
      · rintro ⟨replies, same⟩
        cases replies with
        | nil => cases same
        | cons first rest => exact ⟨rest, (List.cons.inj same).2⟩
  | failed =>
      rw [verdict]
      constructor
      · rintro ⟨⟩
        exact ⟨[], rfl⟩
      · rintro ⟨replies, same⟩
        cases replies with
        | nil => exact congrArg _ (Except.error.inj (List.cons.inj same).1)
        | cons first rest => cases same

/-- Single builds send data if there is an index to build. -/
theorem sendsData (builds : s.BuildsSingly ns identifier w specs singles t) :
    ∃ events, s.Unfolds w events t ∧
      ((∃ command ∈ World.commands events, carriesData command.2 = true) ↔ specs ≠ []) := by
  have sends {entry : Document} {w u : World σ} {spec : Document}
      {outcome : Except Fault ApplyOpsReply} (builds : BuildsIndex ns spec entry identifier)
      (applies : s.Applies entry w outcome u) :
      ∃ events, s.Unfolds w events u ∧
        ∃ command ∈ World.commands events, carriesData command.2 = true := by
    obtain ⟨events, unfolds, again, sent⟩ := applies.sent
    refine ⟨events, unfolds, ("admin", s.batchCommand [entry] false), ?_, ?_⟩
    · have errand : ("admin", s.batchCommand [entry] false) ∈ s.errands events :=
        sent ▸ List.mem_replicate.mpr ⟨again.succ_ne_zero, rfl⟩
      exact (List.mem_filter.mp errand).1
    · rw [carriesData_batchCommand, builds.not_isIdle]
      rfl
  induction builds with
  | done => exact ⟨[], .refl s _, by simp [World.commands]⟩
  | built _ builds applies _ inductionHypothesis =>
      obtain ⟨events, first, command, member, data⟩ := sends builds applies
      obtain ⟨more, later, _⟩ := inductionHypothesis
      refine ⟨events ++ more, first.trans later, fun _ => List.cons_ne_nil _ _, fun _ => ?_⟩
      rw [World.commands_append]
      exact ⟨command, List.mem_append_left _ member, data⟩
  | failed _ builds applies =>
      obtain ⟨events, unfolds, found⟩ := sends builds applies
      exact ⟨events, unfolds, fun _ => List.cons_ne_nil _ _, fun _ => found⟩

end BuildsSingly

/-! ## The whole run -/

/-- The course of building indexes: the bulk build alone, or the single builds after its
refusal. -/
inductive IndexCourse (s : Session σ) (ns : Namespace) (indexes : List OwnIndex)
    (info : BuildInfo) (identifier : Option Binary) (w : World σ) :
    Except Fault Unit → List (Except Fault ApplyOpsReply) → World σ → Prop where
  | inBulk {bulk : Except Fault Unit} {t : World σ}
      (built : s.BuildsInBulk ns (indexes.map OwnIndex.fields) info w bulk t)
      (settled : ¬ IsRefusal bulk) :
      IndexCourse s ns indexes info identifier w bulk [] t
  | singly {bulk : Except Fault Unit} {u t : World σ}
      {singles : List (Except Fault ApplyOpsReply)}
      (built : s.BuildsInBulk ns (indexes.map OwnIndex.fields) info w bulk u)
      (refused : IsRefusal bulk)
      (builds : s.BuildsSingly ns identifier
        (u.record (.indexesSingly ns.text indexes.length))
        (specsIn (createIndexesCommand ns (indexes.map OwnIndex.fields))) singles t) :
      IndexCourse s ns indexes info identifier w bulk singles t

/-- Building indexes came to `result`, the bulk build to `bulk` and the single builds to
`singles`. -/
structure BuildsIndexes (s : Session σ) (ns : Namespace) (indexes : List OwnIndex)
    (info : BuildInfo) (identifier : Option Binary) (w : World σ) (result : Except Fault Unit)
    (t : World σ) (bulk : Except Fault Unit) (singles : List (Except Fault ApplyOpsReply)) :
    Prop where
  course : s.IndexCourse ns indexes info identifier w bulk singles t
  /-- Commands that carry data are sent only after a refusal, and then if there is an index. -/
  sendsData : ∃ events, s.Unfolds w events t ∧
    ((∃ command ∈ World.commands events, carriesData command.2 = true) ↔
      IsRefusal bulk ∧ indexes ≠ [])
  succeeds : result = .ok () ↔
    bulk = .ok () ∨ (IsRefusal bulk ∧ singles.length = indexes.length ∧
      ∀ single ∈ singles, ∃ reply, single = .ok reply)
  fails : ∀ fault, result = .error fault ↔
    (bulk = .error fault ∧ ¬ IsRefusal bulk) ∨
      (IsRefusal bulk ∧
        ∃ replies : List ApplyOpsReply, singles = replies.map .ok ++ [.error fault])

namespace BuildsInBulk

variable {ns : Namespace} {info : BuildInfo} {w u t : World σ} {bulk : Except Fault Unit}

theorem sendsNoData {specs : List Document} (built : s.BuildsInBulk ns specs info w bulk u) :
    ∃ events, s.Unfolds w events u ∧
      ∀ command ∈ World.commands events, carriesData command.2 = false := by
  obtain ⟨events, unfolds, again, sent⟩ := built.sent
  refine ⟨events, unfolds, fun command member => ?_⟩
  cases data : carriesData command.2 with
  | false => rfl
  | true =>
      have errand : command ∈ s.errands events := mem_errands_of_carriesData member data
      rw [sent] at errand
      rw [List.eq_of_mem_replicate errand, carriesData_createIndexesCommand] at data
      cases data

variable {indexes : List OwnIndex} {identifier : Option Binary}

/-- A bulk build that is not refused is all there is. -/
theorem settles (built : s.BuildsInBulk ns (indexes.map OwnIndex.fields) info w bulk u)
    (final : ¬ IsRefusal bulk) :
    s.BuildsIndexes ns indexes info identifier w bulk u bulk [] where
  course := .inBulk built final
  sendsData := by
    obtain ⟨events, unfolds, noData⟩ := built.sendsNoData
    refine ⟨events, unfolds, ?_, fun refused => absurd refused.1 final⟩
    rintro ⟨command, member, data⟩
    rw [noData command member] at data
    cases data
  succeeds := ⟨.inl, fun h => h.elim id fun refused => absurd refused.1 final⟩
  fails := fun _ =>
    ⟨fun same => .inl ⟨same, final⟩,
      fun h => h.elim And.left fun refused => absurd refused.1 final⟩

/-- A refused bulk build is followed by single builds, and they decide. -/
theorem givesWay {singles : List (Except Fault ApplyOpsReply)}
    (built : s.BuildsInBulk ns (indexes.map OwnIndex.fields) info w bulk u)
    (refused : IsRefusal bulk)
    (builds : s.BuildsSingly ns identifier (u.record (.indexesSingly ns.text indexes.length))
      (indexes.map OwnIndex.outgoing) singles t) :
    s.BuildsIndexes ns indexes info identifier w (verdict singles) t bulk singles where
  course := .singly built refused (by rwa [specsIn_createIndexesCommand])
  sendsData := by
    obtain ⟨events, unfolds, noData⟩ := built.sendsNoData
    obtain ⟨later, continues, data⟩ := builds.sendsData
    refine ⟨_, (unfolds.trans (.record s u rfl)).trans continues, ?_⟩
    have nonempty : indexes.map OwnIndex.outgoing ≠ [] ↔ indexes ≠ [] :=
      not_congr List.map_eq_nil_iff
    rw [World.commands_append, World.commands_append, ← nonempty, ← data]
    constructor
    · rintro ⟨command, member, carries⟩
      refine ⟨refused, command, ?_, carries⟩
      rcases List.mem_append.mp member with early | late
      · rw [World.commands_of_isSilent rfl, List.append_nil] at early
        exact absurd (noData command early) (by simp [carries])
      · exact late
    · rintro ⟨_, command, member, carries⟩
      exact ⟨command, List.mem_append_right _ member, carries⟩
  succeeds := by
    rw [builds.verdict_eq_ok_iff, List.length_map]
    constructor
    · exact fun all => .inr ⟨refused, all⟩
    · rintro (accepted | all)
      · exact absurd (accepted ▸ refused) not_isRefusal_ok
      · exact all.2
  fails := by
    intro fault
    rw [builds.verdict_eq_error_iff]
    constructor
    · exact fun last => .inr ⟨refused, last⟩
    · rintro (final | last)
      · exact absurd refused final.2
      · exact last.2

end BuildsInBulk

theorem createIndexesOrSingly_ends (ns : Namespace) (indexes : List OwnIndex)
    (info : BuildInfo) (identifier : Option Binary) (w : World σ) :
    (s.createIndexesOrSingly ns (indexes.map OwnIndex.fields) info identifier).Ends w
      fun result t => ∃ bulk singles,
        s.BuildsIndexes ns indexes info identifier w result t bulk singles := by
  rw [createIndexesOrSingly, Act.ends_bind, Act.ends_outcome]
  intro bulk u ran
  have built : s.BuildsInBulk ns (indexes.map OwnIndex.fields) info w bulk u :=
    ⟨ran, createIndexes_repeats ns _ info w bulk u ran⟩
  cases bulk with
  | ok value => exact (Act.ends_pure ()).mpr ⟨_, _, built.settles not_isRefusal_ok⟩
  | error fault =>
      dsimp only
      split
      · next calls =>
        rw [List.length_map]
        refine Act.ends_bind.mpr (ends_note.mpr ?_)
        refine (applyIndexes_buildsSingly ns identifier indexes _).mono ?_
        rintro result t ⟨singles, rfl, builds⟩
        exact ⟨_, singles, built.givesWay (callsForSingles_iff.mp calls) builds⟩
      · next other =>
        exact (Act.ends_fail fault).mpr
          ⟨_, _, built.settles fun refused => other (callsForSingles_iff.mpr refused)⟩

variable {ns : Namespace} {indexes : List OwnIndex} {info : BuildInfo}
  {identifier : Option Binary} {w t : World σ} {result : Except Fault Unit}

/-- Building indexes is a bulk build, and if that is refused because of an option or because
an index cannot be created, one call for each index in order, up to the first that fails.
Each call applies a single entry, which carries the specification that the bulk command had
for the index, as it is written.  Nothing else applies data.  The indexes have been built if
either the bulk build or all the calls succeeded; otherwise the bulk build, or the first call
that failed, says why. -/
theorem createIndexesOrSingly_builds_once
    (ended : (s.createIndexesOrSingly ns (indexes.map OwnIndex.fields) info identifier).run w =
      some (result, t)) :
    ∃ bulk singles, s.BuildsIndexes ns indexes info identifier w result t bulk singles :=
  createIndexesOrSingly_ends ns indexes info identifier w result t ended

end Session

/-! ## Indexes that the destination refuses to build in bulk -/

/-- The reply of a destination that cannot create an index. -/
def cannotCreate : Document :=
  [("ok", .int32 0), ("code", .int32 67), ("errmsg", .string "cannot create index")]

def ageIndex : OwnIndex where
  fields := [("key", .document [("age", .int32 0)]), ("name", .string "age"),
    ("background", .boolean true)]
  distinct := by decide
  fresh := by decide

def nameIndex : OwnIndex where
  fields := [("key", .document [("name", .int32 1)]), ("name", .string "name"), ("v", .int32 2)]
  distinct := by decide
  fresh := by decide

theorem two_indexes_built_singly :
    ∃ t, (rehearsed.createIndexesOrSingly ⟨"app", "users"⟩
        ([ageIndex, nameIndex].map OwnIndex.fields) ⟨"4.0.0", [4, 0, 0]⟩ none).run
          ⟨[.ok cannotCreate], []⟩ = some (.ok (), t) ∧
      ∃ bulk singles, rehearsed.BuildsIndexes ⟨"app", "users"⟩ [ageIndex, nameIndex]
        ⟨"4.0.0", [4, 0, 0]⟩ none ⟨[.ok cannotCreate], []⟩ (.ok ()) t bulk singles :=
  ⟨_, rfl, Session.createIndexesOrSingly_builds_once rfl⟩

/-- The decimal `NaN` with a sign. -/
def negativeNaN : Vector UInt8 16 :=
  #v[0, 0, 0, 0, 0, 0, 0, 0, 0, 0, 0, 0, 0, 0, 0, 0xfc]

def partialIndex : OwnIndex where
  fields := [("key", .document [("age", .int32 1)]), ("name", .string "age"), ("v", .int32 2),
    ("partialFilterExpression", .document [("age", .decimal128 negativeNaN)])]
  distinct := by decide
  fresh := by decide

/-- The log entry that builds an index does not carry its specification as it is: the sign of
the decimal is lost. -/
theorem sign_lost_singly :
    ∃ t entry,
      (rehearsed.createIndexesOrSingly ⟨"app", "users"⟩ [partialIndex.fields]
        ⟨"4.0.0", [4, 0, 0]⟩ none).run ⟨[.ok cannotCreate], []⟩ = some (.ok (), t) ∧
      World.commands t.trace =
        [("app", Session.createIndexesCommand ⟨"app", "users"⟩ [partialIndex.fields]),
         ("admin", rehearsed.batchCommand [entry] false)] ∧
      specsIn (Session.createIndexesCommand ⟨"app", "users"⟩ [partialIndex.fields]) =
        [partialIndex.fields] ∧
      ¬ BuildsIndex ⟨"app", "users"⟩ partialIndex.fields entry none := by
  refine ⟨_, partialIndex.entry ⟨"app", "users"⟩ none, rfl, rfl, rfl, ?_⟩
  intro builds
  cases builds with
  | asInsertion _ _ _ body => exact absurd body (by decide)

end LogReplay
