/-
Module: LogReplay.Proofs.Session.Mutation
Purpose: The operations that change a destination, and the commands that each may send.
Main exports:
  OwnCommand, Mutation, Session.mutate, Mutation.Sends, Session.mutate_sends
-/
import LogReplay.Proofs.Session.Unfolding
import LogReplay.Session.Indexing

/-!
There are eleven operations that change a destination.  Each sends commands of a few forms
only, on databases that are known beforehand, and probes between its attempts.  `Sends`
lists them; what is to be shown of every command that is ever sent is shown of the forms.
-/

namespace LogReplay

open Bson

variable {σ : Type}

/-- A command as a caller puts it together: it names every field once. -/
structure OwnCommand where
  fields : Document
  distinct : fields.names.Nodup

/-- An operation that changes a destination, with its arguments. -/
inductive Mutation where
  | insert (ns : Namespace) (documents : List Document)
  | create (database : String) (command : OwnCommand)
  | drop (ns : Namespace)
  | renameAndDrop (ns : Namespace)
  | dropDatabase (database : String)
  | modify (database : String) (command : OwnCommand) (info : BuildInfo)
  | createIndexes (ns : Namespace) (indexes : List Document) (info : BuildInfo)
  | createIndexesOrSingly (ns : Namespace) (indexes : List Document) (info : BuildInfo)
      (identifier : Option Binary)
  | applyBatch (entries : List Document)
  | applyIndex (ns : Namespace) (spec : Document) (identifier : Option Binary)
  | awaitMajority

namespace Session

/-- An act for its effect. -/
def discarding {α : Type} (x : Act (World σ) Fault α) : Act (World σ) Fault Unit := do
  let _ ← x
  pure ()

/-- Carries out an operation. -/
def mutate (s : Session σ) : Mutation → Act (World σ) Fault Unit
  | .insert ns documents => s.insertAll ns documents
  | .create database command => s.createCollection database command.fields
  | .drop ns => s.dropCollection ns
  | .renameAndDrop ns => s.renameAndDrop ns
  | .dropDatabase database => s.dropDatabase database
  | .modify database command info => s.modifyCollection database command.fields info
  | .createIndexes ns indexes info => s.createIndexes ns indexes info
  | .createIndexesOrSingly ns indexes info identifier =>
      s.createIndexesOrSingly ns indexes info identifier
  | .applyBatch entries => discarding (s.applyBatch entries)
  | .applyIndex ns spec identifier => discarding (s.applyIndex ns spec identifier)
  | .awaitMajority => s.awaitMajority

end Session

/-- An operation may send this command on this database. -/
inductive Mutation.Sends (s : Session σ) : Mutation → String → Document → Prop where
  | probe (m : Mutation) : Sends s m "admin" s.probeCommand
  | insert {ns : Namespace} {documents part : List Document} (subset : part ⊆ documents) :
      Sends s (.insert ns documents) ns.database (s.insertCommand ns part)
  | create {database : String} {command : OwnCommand} :
      Sends s (.create database command) database (majority command.fields)
  | drop {ns : Namespace} (plain : ns.isStoredFunctions = false) :
      Sends s (.drop ns) ns.database (Session.dropCommand ns)
  /-- Stored functions are dropped under another name. -/
  | dropStored {ns : Namespace} {database : String} {command : Document}
      (stored : ns.isStoredFunctions = true)
      (sends : Sends s (.renameAndDrop ns) database command) :
      Sends s (.drop ns) database command
  | rename {ns : Namespace} :
      Sends s (.renameAndDrop ns) "admin" (Session.renameCommand ns (s.dropPending ns))
  | dropRenamed {ns : Namespace} :
      Sends s (.renameAndDrop ns) ns.database (Session.dropCommand (s.dropPending ns))
  | dropDatabase {database : String} :
      Sends s (.dropDatabase database) database (majority [("dropDatabase", .int32 1)])
  | modify {database : String} {command : OwnCommand} {info : BuildInfo}
      (recent : info.isAtLeast [3, 6, 0] = true) :
      Sends s (.modify database command info) database (majority command.fields)
  | modifyOld {database : String} {command : OwnCommand} {info : BuildInfo}
      (old : info.isAtLeast [3, 6, 0] = false) :
      Sends s (.modify database command info) database command.fields
  | createIndexes {ns : Namespace} {indexes : List Document} {info : BuildInfo} :
      Sends s (.createIndexes ns indexes info) ns.database
        (Session.createIndexesCommand ns indexes)
  | createInBulk {ns : Namespace} {indexes : List Document} {info : BuildInfo}
      {identifier : Option Binary} {database : String} {command : Document}
      (sends : Sends s (.createIndexes ns indexes info) database command) :
      Sends s (.createIndexesOrSingly ns indexes info identifier) database command
  | createSingly {ns : Namespace} {indexes : List Document} {info : BuildInfo}
      {identifier : Option Binary} {spec : Document} {database : String} {command : Document}
      (member : spec ∈ indexes) (sends : Sends s (.applyIndex ns spec identifier) database command) :
      Sends s (.createIndexesOrSingly ns indexes info identifier) database command
  | applyBatch {entries : List Document} :
      Sends s (.applyBatch entries) "admin"
        (s.batchCommand entries s.settings.bypassValidation)
  | applyIndex {ns : Namespace} {spec : Document} {identifier : Option Binary} :
      Sends s (.applyIndex ns spec identifier) "admin"
        (s.batchCommand [(Session.indexEntry ns spec identifier).toDocument] false)

namespace Session

variable {s : Session σ} {allowed : String → Document → Prop} {w : World σ}

/-! ## What the operations send -/

theorem discarding_preserves {α : Type} {holds : World σ → Prop} {x : Act (World σ) Fault α}
    (kept : x.Preserves holds) : (discarding x).Preserves holds :=
  kept.bind fun _ => Act.preserves_pure ()

theorem forgiving_preserves {holds : World σ → Prop} {forgiven : Failure → Bool}
    {x : Act (World σ) Failure Unit} (kept : x.Preserves holds) :
    (forgiving forgiven x).Preserves holds := by
  refine kept.outcome.bind ?_
  rintro (failure | ⟨⟩)
  · dsimp only
    split
    · exact Act.preserves_pure ()
    · exact Act.preserves_fail failure
  · exact Act.preserves_pure ()

theorem attemptBatch_preserves_within {entries : List Document} {bypass : Bool}
    (permitted : allowed "admin" (s.batchCommand entries bypass)) :
    (s.attemptBatch entries bypass).Preserves (s.UnfoldsWithin allowed w) := by
  intro t within
  exact (Act.ends_iff_of_run (s.run_attemptBatch entries bypass t)).mpr
    ((within.heard permitted).record rfl)

section

variable (probes : allowed "admin" s.probeCommand)
include probes

theorem applyBatchWith_preserves_within {entries : List Document} {bypass : Bool}
    (permitted : allowed "admin" (s.batchCommand entries bypass)) :
    (s.applyBatchWith entries bypass).Preserves (s.UnfoldsWithin allowed w) := by
  rw [applyBatchWith]
  split
  · exact Act.preserves_fail _
  · exact retryingWrite_preserves_within probes fun _ => attemptBatch_preserves_within permitted

/-- An operation of one command, part of whose failures may be forgiven. -/
theorem retryingForgiving_preserves_within {operation database : String} {command : Document}
    {forgiven : Bool → Failure → Bool} (permitted : allowed database command) :
    (s.retryingWrite operation fun isRetry =>
      forgiving (forgiven isRetry) (s.perform database command)).Preserves
        (s.UnfoldsWithin allowed w) :=
  retryingWrite_preserves_within probes fun _ =>
    forgiving_preserves (perform_preserves_within permitted)

theorem insertRound_preserves_within {ns : Namespace} {documents : List Document}
    (permitted : allowed ns.database (s.insertCommand ns documents)) :
    (s.insertRound ns documents).Preserves (s.UnfoldsWithin allowed w) := by
  rw [insertRound]
  refine (retryingWrite_preserves_within probes fun _ =>
    perform_preserves_within permitted).outcome.bind ?_
  rintro (fault | ⟨⟩)
  · dsimp only
    split
    · exact Act.preserves_pure _
    · exact Act.preserves_fail fault
  · exact Act.preserves_pure _

theorem insertFrom_preserves_within {ns : Namespace} {documents : List Document}
    (permitted : ∀ part ⊆ documents, allowed ns.database (s.insertCommand ns part)) :
    ∀ {singles : Option Nat} {rest : List Document}, rest ⊆ documents →
      (s.insertFrom ns singles rest).Preserves (s.UnfoldsWithin allowed w)
  | none, [], _ => Act.preserves_pure ()
  | some count, [], _ => note_preserves_within rfl
  | singles, document :: rest, subset => by
      have later (next : Option Nat) :
          (s.insertFrom ns next rest).Preserves (s.UnfoldsWithin allowed w) :=
        insertFrom_preserves_within permitted fun _ member =>
          subset (List.mem_cons_of_mem document member)
      have alone : [document] ⊆ documents :=
        List.cons_subset.mpr ⟨subset List.mem_cons_self, List.nil_subset _⟩
      rw [insertFrom]
      have together : (s.insertTogether ns (document :: rest) singles).Preserves
          (s.UnfoldsWithin allowed w) := by
        cases singles with
        | some count => exact Act.preserves_pure _
        | none =>
            refine (insertRound_preserves_within probes (permitted _ subset)).bind ?_
            intro stored
            cases stored <;> exact Act.preserves_pure _
      refine together.bind ?_
      rintro (_ | count)
      · exact Act.preserves_pure ()
      refine (insertRound_preserves_within probes (permitted _ alone)).bind ?_
      rintro (_ | _)
      · exact later _
      · exact (note_preserves_within rfl).bind fun _ => later none

theorem dropPlainly_preserves_within {ns : Namespace}
    (permitted : allowed ns.database (dropCommand ns)) :
    (s.dropPlainly ns).Preserves (s.UnfoldsWithin allowed w) :=
  retryingForgiving_preserves_within probes permitted

theorem renameAndDrop_preserves_within {ns : Namespace}
    (renames : allowed "admin" (renameCommand ns (s.dropPending ns)))
    (drops : allowed ns.database (dropCommand (s.dropPending ns))) :
    (s.renameAndDrop ns).Preserves (s.UnfoldsWithin allowed w) :=
  (retryingForgiving_preserves_within probes renames).bind fun _ =>
    dropPlainly_preserves_within probes drops

theorem createIndexes_preserves_within {ns : Namespace} {indexes : List Document}
    {info : BuildInfo} (permitted : allowed ns.database (createIndexesCommand ns indexes)) :
    (s.createIndexes ns indexes info).Preserves (s.UnfoldsWithin allowed w) := by
  refine retryingWrite_preserves_within probes fun _ =>
    (perform_preserves_within permitted).bind fun _ => ?_
  split
  · exact Act.preserves_pure ()
  · exact waitForMajority_preserves_within probes

theorem applyIndexes_preserves_within {ns : Namespace} {identifier : Option Binary} :
    ∀ {indexes : List Document},
      (∀ spec ∈ indexes, allowed "admin"
        (s.batchCommand [(indexEntry ns spec identifier).toDocument] false)) →
      (s.applyIndexes ns identifier indexes).Preserves (s.UnfoldsWithin allowed w)
  | [], _ => Act.preserves_pure ()
  | _ :: _, permitted =>
      (applyBatchWith_preserves_within probes (permitted _ List.mem_cons_self)).bind fun _ =>
        applyIndexes_preserves_within fun spec member =>
          permitted spec (List.mem_cons_of_mem _ member)

theorem modifyCollection_preserves_within {database : String} {command : Document}
    {info : BuildInfo}
    (recent : info.isAtLeast [3, 6, 0] = true → allowed database (majority command))
    (old : info.isAtLeast [3, 6, 0] = false → allowed database command) :
    (s.modifyCollection database command info).Preserves (s.UnfoldsWithin allowed w) := by
  refine retryingWrite_preserves_within probes fun _ => ?_
  split
  · next atLeast => exact perform_preserves_within (recent atLeast)
  · next before =>
    exact (perform_preserves_within (old (eq_false_of_ne_true before))).bind fun _ =>
      waitForMajority_preserves_within probes

theorem createIndexesOrSingly_preserves_within {ns : Namespace} {indexes : List Document}
    {info : BuildInfo} {identifier : Option Binary}
    (bulk : allowed ns.database (createIndexesCommand ns indexes))
    (single : ∀ spec ∈ indexes, allowed "admin"
      (s.batchCommand [(indexEntry ns spec identifier).toDocument] false)) :
    (s.createIndexesOrSingly ns indexes info identifier).Preserves
      (s.UnfoldsWithin allowed w) := by
  refine (createIndexes_preserves_within probes bulk).outcome.bind ?_
  rintro (fault | ⟨⟩)
  · dsimp only
    split
    · exact (note_preserves_within rfl).bind fun _ =>
        applyIndexes_preserves_within probes single
    · exact Act.preserves_fail fault
  · exact Act.preserves_pure ()

end

/-- However an operation ends, it has sent nothing but what it may send. -/
theorem mutate_sends (s : Session σ) (m : Mutation) (w : World σ) :
    (s.mutate m).Ends w fun _ t => s.UnfoldsWithin (m.Sends s) w t := by
  have probes : m.Sends s "admin" s.probeCommand := .probe m
  have kept : (s.mutate m).Preserves (s.UnfoldsWithin (m.Sends s) w) := by
    cases m with
    | insert ns documents =>
        exact insertFrom_preserves_within probes (fun _ subset => .insert subset)
          (List.Subset.refl documents)
    | create => exact retryingForgiving_preserves_within probes .create
    | drop ns =>
        rw [mutate, dropCollection]
        split
        · next stored =>
          exact renameAndDrop_preserves_within probes (.dropStored stored .rename)
            (.dropStored stored .dropRenamed)
        · next other =>
          exact dropPlainly_preserves_within probes
            (.drop (eq_false_of_ne_true other))
    | renameAndDrop => exact renameAndDrop_preserves_within probes .rename .dropRenamed
    | dropDatabase =>
        exact retryingWrite_preserves_within probes fun _ =>
          perform_preserves_within .dropDatabase
    | modify => exact modifyCollection_preserves_within probes .modify .modifyOld
    | createIndexes => exact createIndexes_preserves_within probes .createIndexes
    | createIndexesOrSingly =>
        exact createIndexesOrSingly_preserves_within probes (.createInBulk .createIndexes)
          fun _ member => .createSingly member .applyIndex
    | applyBatch =>
        exact discarding_preserves (applyBatchWith_preserves_within probes .applyBatch)
    | applyIndex =>
        exact discarding_preserves (applyBatchWith_preserves_within probes .applyIndex)
    | awaitMajority =>
        exact retryingWrite_preserves_within probes fun _ =>
          waitForMajority_preserves_within probes
  exact kept w (.refl w)

end Session

/-! ## A destination with a script -/

/-- A destination that answers as it has been told to, and then accepts everything. -/
def scripted : Destination (List (Except Failure Document)) where
  now _ := 0
  run o _ _ :=
    match o with
    | [] => (.ok [("ok", .int32 1)], [])
    | answer :: rest => (answer, rest)
  pause o _ := o

/-- A session with it that has small floors of patience. -/
def rehearsed : Session (List (Except Failure Document)) where
  destination := scripted
  settings := .testing
  policy := .testing
  patience := 4

end LogReplay
