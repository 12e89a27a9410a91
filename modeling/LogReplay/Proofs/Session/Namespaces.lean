/-
Module: LogReplay.Proofs.Session.Namespaces
Purpose: Collections are created, dropped and renamed once, however often that is tried.
Main exports:
  Change, Change.Answered, Session.KeepsNamespaces, Change.ComesTo, Session.ChangesOnce,
  Session.namespaces_change_once
-/
import LogReplay.Proofs.Session.Mutation
import Mathlib.Order.BooleanAlgebra.Set

/-!
A destination holds a set of namespaces.  A command that changes the set takes effect or
not, and its answer tells which, or gets lost.  After a lost answer the command is sent
again, and may then be refused because of the effect it has already had.  On a retry such
a refusal is taken for success, on the first attempt it is not.

The set is changed at most once, and what has been found on a retry is what the change
was to bring about.  One thing can mislead a retry: an answer that says that the namespace
exists, or is missing, and also that the answer got lost.  It is taken for a refusal,
before anybody asks whether it is worth a retry.
-/

namespace LogReplay

open Bson (Document)

/-- The failure says that a namespace exists or is missing. -/
def Failure.namesNamespace (f : Failure) : Bool :=
  f.isNamespaceExists || f.isNamespaceMissing

/-- The answer got lost, and speaks of a namespace at the same time. -/
def Event.isGarbled : Event → Bool
  | .commanded _ _ (.error failure) => failure.isReconnectable && failure.namesNamespace
  | _ => false

/-- A change of the set of namespaces that a destination holds. -/
inductive Change where
  | create (ns : String)
  | drop (ns : String)
  | rename (source target : String)

namespace Change

/-- The change that a command asks for. -/
def ofCommand? (database : String) : Document → Option Change
  | ("create", .string collection) :: _ => some (.create (Namespace.text ⟨database, collection⟩))
  | ("drop", .string collection) :: _ => some (.drop (Namespace.text ⟨database, collection⟩))
  | ("renameCollection", .string source) :: ("to", .string target) :: _ =>
      if database = "admin" then some (.rename source target) else none
  | _ => none

def IsPossible (held : Set String) : Change → Prop
  | .create ns => ns ∉ held
  | .drop ns => ns ∈ held
  | .rename source target => source ∈ held ∧ target ∉ held

/-- The namespaces after the change. -/
def effect (held : Set String) : Change → Set String
  | .create ns => insert ns held
  | .drop ns => held \ {ns}
  | .rename source target => insert target (held \ {source})

/-- The failure truthfully says why the change is not possible. -/
def Refuses (held : Set String) : Change → Failure → Prop
  | .create ns, failure => ns ∈ held ∧ failure.isNamespaceExists = true
  | .drop ns, failure => ns ∉ held ∧ failure.isNamespaceMissing = true
  | .rename source target, failure =>
      source ∉ held ∧ failure.isNamespaceMissing = true ∨
        source ∈ held ∧ target ∈ held ∧ failure.isNamespaceExists = true

/-- The change has nothing left to bring about. -/
def IsDone (held : Set String) : Change → Prop
  | .create ns => ns ∈ held
  | .drop ns => ns ∉ held
  | .rename source _ => source ∉ held

/-- The refusal that is taken for success on a retry. -/
def forgives : Change → Failure → Bool
  | .create _ => Failure.isNamespaceExists
  | .drop _ => Failure.isNamespaceMissing
  | .rename _ _ => Failure.isNamespaceMissing

/-- How a destination that holds these namespaces may answer the command of a change, and
what it holds afterwards. -/
inductive Answered (c : Change) (held : Set String) :
    Except Failure Document → Set String → Prop where
  | acknowledged {reply : Document} (possible : c.IsPossible held) :
      Answered c held (.ok reply) (c.effect held)
  | refused {failure : Failure} (truthful : c.Refuses held failure) :
      Answered c held (.error failure) held
  /-- It did not take effect for a reason that has nothing to do with the namespaces. -/
  | declined {failure : Failure} (unrelated : failure.namesNamespace = false) :
      Answered c held (.error failure) held
  /-- It took effect, and nobody heard of it. -/
  | lostAfter {failure : Failure} (possible : c.IsPossible held)
      (passing : failure.isReconnectable = true) :
      Answered c held (.error failure) (c.effect held)
  | lostBefore {failure : Failure} (passing : failure.isReconnectable = true) :
      Answered c held (.error failure) held

/-- The change has been made once or not at all. -/
def IsMadeOnce (c : Change) (before after : Set String) : Prop :=
  after = before ∨ c.IsPossible before ∧ after = c.effect before

variable {c : Change} {before now after held : Set String} {failure : Failure}

theorem isDone_effect (possible : c.IsPossible held) : c.IsDone (c.effect held) := by
  cases c with
  | create ns => exact Set.mem_insert ns held
  | drop ns => exact fun left => left.2 rfl
  | rename source target =>
      rintro (same | left)
      · exact possible.2 (same ▸ possible.1)
      · exact left.2 rfl

theorem not_isPossible_of_isDone (done : c.IsDone held) : ¬ c.IsPossible held := by
  cases c with
  | create => exact fun possible => possible done
  | drop => exact done
  | rename => exact fun possible => done possible.1

theorem not_refuses_of_isPossible (possible : c.IsPossible held) : ¬ c.Refuses held failure := by
  cases c with
  | create => exact fun refuses => possible refuses.1
  | drop => exact fun refuses => refuses.1 possible
  | rename =>
      rintro (⟨missing, _⟩ | ⟨_, taken, _⟩)
      · exact missing possible.1
      · exact possible.2 taken

theorem namesNamespace_of_forgives (forgiven : c.forgives failure = true) :
    failure.namesNamespace = true := by
  rw [Failure.namesNamespace, Bool.or_eq_true]
  cases c with
  | create => exact .inl forgiven
  | drop | rename => exact .inr forgiven

/-- No failure is about both kinds of namespace. -/
theorem not_isNamespaceExists_of_missing (missing : failure.isNamespaceMissing = true) :
    failure.isNamespaceExists = false := by
  cases failure with
  | command e =>
      have code : e.code = 26 := eq_of_beq missing
      simp [Failure.isNamespaceExists, Failure.isCommandWithCode, code]
  | _ => rfl

theorem isDone_of_refuses (refuses : c.Refuses held failure)
    (forgiven : c.forgives failure = true) : c.IsDone held := by
  cases c with
  | create | drop => exact refuses.1
  | rename =>
      rcases refuses with ⟨missing, _⟩ | ⟨_, _, exists'⟩
      · exact missing
      · rw [not_isNamespaceExists_of_missing forgiven] at exists'
        cases exists'

theorem forgives_of_refuses (refuses : c.Refuses held failure) (done : c.IsDone held) :
    c.forgives failure = true := by
  cases c with
  | create | drop => exact refuses.2
  | rename =>
      rcases refuses with ⟨_, missing⟩ | ⟨present, _⟩
      · exact missing
      · exact absurd present done

namespace Answered

variable {answer : Except Failure Document}

theorem isMadeOnce (answered : c.Answered now answer after) (once : c.IsMadeOnce before now) :
    c.IsMadeOnce before after := by
  have made (possible : c.IsPossible now) : c.IsMadeOnce before (c.effect now) := by
    rcases once with rfl | ⟨earlier, rfl⟩
    · exact .inr ⟨possible, rfl⟩
    · exact absurd possible (not_isPossible_of_isDone (isDone_effect earlier))
  cases answered with
  | acknowledged possible | lostAfter possible => exact made possible
  | refused | declined | lostBefore => exact once

theorem isDone_of_ok {reply : Document} (answered : c.Answered now (.ok reply) after) :
    c.IsDone after := by
  cases answered with
  | acknowledged possible => exact isDone_effect possible

theorem isDone_of_forgiven (answered : c.Answered now (.error failure) after)
    (forgiven : c.forgives failure = true)
    (clear : (failure.isReconnectable && failure.namesNamespace) = false) : c.IsDone after := by
  have named := namesNamespace_of_forgives forgiven
  cases answered with
  | refused truthful => exact isDone_of_refuses truthful forgiven
  | declined unrelated =>
      rw [unrelated] at named
      cases named
  | lostAfter _ passing | lostBefore passing =>
      rw [passing, named] at clear
      cases clear

/-- Why a change fails for good: the destination refused it as it was in the beginning, or
for a reason of its own. -/
theorem refuses_before (answered : c.Answered now (.error failure) after)
    (once : c.IsMadeOnce before now) (final : failure.isReconnectable = false)
    (unforgiven : now = before ∨ c.forgives failure = false) :
    c.Refuses before failure ∨ failure.namesNamespace = false := by
  cases answered with
  | declined unrelated => exact .inr unrelated
  | lostAfter _ passing | lostBefore passing =>
      rw [passing] at final
      cases final
  | refused truthful =>
      rcases once with rfl | ⟨earlier, rfl⟩
      · exact .inl truthful
      rcases unforgiven with same | strict
      · exact .inl (same ▸ truthful)
      · rw [forgives_of_refuses truthful (isDone_effect earlier)] at strict
        cases strict

end Answered

/-- What a change comes to that is repeated until it is heard of. -/
structure ComesTo (c : Change) (before after : Set String) (events : List Event)
    (result : Except Fault Unit) : Prop where
  once : c.IsMadeOnce before after
  done : (∀ event ∈ events, event.isGarbled = false) → result = .ok () → c.IsDone after
  refused : ∀ failure, result = .error (.command failure) →
    c.Refuses before failure ∨ failure.namesNamespace = false

namespace Answered

variable {events : List Event}

theorem comesTo_of_ok {reply : Document} (answered : c.Answered now (.ok reply) after)
    (once : c.IsMadeOnce before now) : c.ComesTo before after events (.ok ()) where
  once := answered.isMadeOnce once
  done _ _ := answered.isDone_of_ok
  refused := by
    intro _ failed
    cases failed

theorem comesTo_of_forgiven (answered : c.Answered now (.error failure) after)
    (once : c.IsMadeOnce before now) (forgiven : c.forgives failure = true)
    {database : String} {command : Document}
    (heard : .commanded database command (.error failure) ∈ events) :
    c.ComesTo before after events (.ok ()) where
  once := answered.isMadeOnce once
  done clear _ := answered.isDone_of_forgiven forgiven (clear _ heard)
  refused := by
    intro _ failed
    cases failed

theorem comesTo_of_final (answered : c.Answered now (.error failure) after)
    (once : c.IsMadeOnce before now) (final : failure.isReconnectable = false)
    (unforgiven : now = before ∨ c.forgives failure = false) :
    c.ComesTo before after events (.error (.command failure)) where
  once := answered.isMadeOnce once
  done := by
    intro _ succeeded
    cases succeeded
  refused := by
    rintro _ ⟨⟩
    exact answered.refuses_before once final unforgiven

end Answered

/-- What a change comes to that was possible in the beginning. -/
structure IsMade (c : Change) (before after : Set String) (events : List Event)
    (result : Except Fault Unit) : Prop where
  once : after = before ∨ after = c.effect before
  unrefused : ∀ failure, result = .error (.command failure) → failure.namesNamespace = false
  made : result = .ok () → (∀ event ∈ events, event.isGarbled = false) →
    after = c.effect before

theorem ComesTo.isMade {events : List Event} {result : Except Fault Unit}
    (comesTo : c.ComesTo before after events result) (possible : c.IsPossible before) :
    c.IsMade before after events result where
  once := comesTo.once.imp_right And.right
  unrefused failure failed :=
    (comesTo.refused failure failed).resolve_left (not_refuses_of_isPossible possible)
  made := by
    intro succeeded clear
    rcases comesTo.once with same | ⟨_, made⟩
    · exact absurd possible (not_isPossible_of_isDone (same ▸ comesTo.done clear succeeded))
    · exact made

end Change

namespace Session

variable {σ : Type}

/-- The destination holds a set of namespaces.  Nothing but the commands that ask for it
changes the set, and they are answered as their effect demands. -/
structure KeepsNamespaces (s : Session σ) (view : σ → Set String) : Prop where
  paused : ∀ o span, view (s.destination.pause o span) = view o
  probed : ∀ o, view (s.destination.run o "admin" s.probeCommand).2 = view o
  changed : ∀ o database command change, Change.ofCommand? database command = some change →
    change.Answered (view o) (s.answer o database command)
      (view (s.destination.run o database command).2)

variable {s : Session σ} {view : σ → Set String} {c : Change} {w t : World σ}

theorem KeepsNamespaces.onward (keeps : s.KeepsNamespaces view) {event : Event}
    (between : s.IsBetweenAttempts event) (o : σ) :
    view (s.destination.onward o event) = view o := by
  cases event with
  | slept span => exact keeps.paused o span
  | commanded database command outcome =>
      obtain ⟨rfl, rfl⟩ := between
      exact keeps.probed o
  | _ => rfl

/-- One attempt at a change that has been made once or not at all. -/
theorem KeepsNamespaces.attempt_ends (keeps : s.KeepsNamespaces view) {database : String}
    {command : Document} (asks : Change.ofCommand? database command = some c)
    {isRetry : Bool} {events : List Event} (unfolds : s.Unfolds w events t)
    (once : c.IsMadeOnce (view w.outside) (view t.outside))
    (first : isRetry = false → view t.outside = view w.outside) :
    (forgiving (fun failure => isRetry && c.forgives failure)
      (s.perform database command)).Ends t
        (Attempted (fun u => ∃ events, s.Unfolds w events u ∧
            c.IsMadeOnce (view w.outside) (view (events.foldl s.destination.onward w.outside)))
          fun result u => ∃ events, s.Unfolds w events u ∧
            c.ComesTo (view w.outside) (view u.outside) events result) := by
  have heard := unfolds.trans (.heard s t database command)
  have answered := keeps.changed t.outside database command c asks
  refine Act.ends_bind.mpr (Act.ends_outcome.mpr (ends_perform.mpr ?_))
  cases outcome : s.answer t.outside database command with
  | ok reply =>
      rw [outcome] at heard answered
      exact (Act.ends_pure ()).mpr ⟨_, heard, answered.comesTo_of_ok once⟩
  | error failure =>
      rw [outcome] at heard answered
      dsimp only [Except.map]
      split
      · next forgivable =>
        have forgiven := (Bool.and_eq_true_iff.mp forgivable).2
        exact (Act.ends_pure ()).mpr
          ⟨_, heard, answered.comesTo_of_forgiven once forgiven List.mem_concat_self⟩
      · next strict =>
        refine (Act.ends_fail failure).mpr ⟨fun _ => ⟨_, heard, ?_⟩, fun final =>
          ⟨_, heard, answered.comesTo_of_final once final ?_⟩⟩
        · rw [← heard.outside]
          exact answered.isMadeOnce once
        cases isRetry with
        | false => exact .inl (first rfl)
        | true => exact .inr (eq_false_of_ne_true strict)

/-- A change that is repeated until it is heard of. -/
theorem KeepsNamespaces.retryingChange_ends (keeps : s.KeepsNamespaces view)
    (operation : String) {database : String} {command : Document}
    (asks : Change.ofCommand? database command = some c) (w : World σ) :
    (s.retryingWrite operation fun isRetry =>
      forgiving (fun failure => isRetry && c.forgives failure)
        (s.perform database command)).Ends w fun result t =>
          ∃ events, s.Unfolds w events t ∧
            c.ComesTo (view w.outside) (view t.outside) events result := by
  refine retrying_ends_of_mends
    (mends_unfolds w (fun events =>
      c.IsMadeOnce (view w.outside) (view (events.foldl s.destination.onward w.outside))) ?_)
    ?_ ?_ (keeps.attempt_ends asks (.record s w rfl) (.inl rfl) fun _ => rfl)
  · intro events event once between
    rw [List.foldl_append, List.foldl_cons, List.foldl_nil, keeps.onward between]
    exact once
  · rintro u ⟨events, unfolds, once⟩
    rw [← unfolds.outside] at once
    exact keeps.attempt_ends asks (unfolds.trans (.record s u rfl)) once fun same => by cases same
  · rintro fault u uncaused ⟨events, unfolds, once⟩
    rw [← unfolds.outside] at once
    refine ⟨events, unfolds, once, fun _ succeeded => (by cases succeeded), ?_⟩
    rintro failure ⟨⟩
    cases uncaused

/-! ## What the operations come to -/

/-- An operation comes to the answer that its first attempt gets, unless the answer says
that another attempt may help. -/
def ComesToAnswer (s : Session σ) (database : String) (command : Document)
    (x : Act (World σ) Fault Unit) : Prop :=
  ∀ {w t : World σ} {result : Except Fault Unit}, x.run w = some (result, t) →
    (∀ failure, s.answer w.outside database command = .error failure →
      failure.isReconnectable = false) →
    result = ((s.answer w.outside database command).map fun _ => ()).mapError .command ∧
      t.trace = w.trace ++ [.attempted false,
        .commanded database command (s.answer w.outside database command)]

/-- What the operations on namespaces come to. -/
structure ChangesOnce (s : Session σ) (view : σ → Set String) : Prop where
  /-- A collection that is absent is created. -/
  created : ∀ {database collection : String} {options : Document} {w t : World σ}
    {result : Except Fault Unit},
    (s.createCollection database (("create", .string collection) :: options)).run w =
      some (result, t) →
    Namespace.text ⟨database, collection⟩ ∉ view w.outside →
    ∃ events, s.Unfolds w events t ∧
      (Change.create (Namespace.text ⟨database, collection⟩)).IsMade (view w.outside)
        (view t.outside) events result
  /-- A collection that exists is dropped. -/
  dropped : ∀ {ns : Namespace} {w t : World σ} {result : Except Fault Unit},
    (s.dropCollection ns).run w = some (result, t) → ns.isStoredFunctions = false →
    ns.text ∈ view w.outside →
    ∃ events, s.Unfolds w events t ∧
      (Change.drop ns.text).IsMade (view w.outside) (view t.outside) events result
  /-- Stored functions are dropped under another name. -/
  droppedStored : ∀ {ns : Namespace} {w t : World σ} {result : Except Fault Unit},
    (s.dropCollection ns).run w = some (result, t) → ns.isStoredFunctions = true →
    (s.dropPending ns).text ∉ view w.outside →
    ∃ events, s.Unfolds w events t ∧ ((∀ event ∈ events, event.isGarbled = false) →
      (result = .ok () → ns.text ∉ view t.outside ∧ (s.dropPending ns).text ∉ view t.outside ∧
        view t.outside = view w.outside \ {ns.text}) ∧
      (ns.text ∈ view w.outside → ∀ failure, result = .error (.command failure) →
        failure.namesNamespace = false))
  createdAtOnce : ∀ database command,
    s.ComesToAnswer database (majority command) (s.createCollection database command)
  droppedAtOnce : ∀ ns : Namespace, ns.isStoredFunctions = false →
    s.ComesToAnswer ns.database (dropCommand ns) (s.dropCollection ns)
  /-- Stored functions that cannot be renamed are not dropped. -/
  refusedAtOnce : ∀ {ns : Namespace} {w t : World σ} {result : Except Fault Unit}
    {failure : Failure}, (s.dropCollection ns).run w = some (result, t) →
    ns.isStoredFunctions = true →
    s.answer w.outside "admin" (renameCommand ns (s.dropPending ns)) = .error failure →
    failure.isReconnectable = false →
    result = .error (.command failure) ∧
      t.trace = w.trace ++ [.attempted false,
        .commanded "admin" (renameCommand ns (s.dropPending ns)) (.error failure)]

theorem retryingForgiving_comesToAnswer (s : Session σ) (forgives : Failure → Bool)
    (operation database : String) (command : Document) :
    s.ComesToAnswer database command (s.retryingWrite operation fun isRetry =>
      forgiving (fun failure => isRetry && forgives failure)
        (s.perform database command)) := by
  intro w t result ended final
  have trace : (s.heard (w.record (.attempted false)) database command).trace =
      w.trace ++ [.attempted false,
        .commanded database command (s.answer w.outside database command)] :=
    (List.append_cons _ _ _).symm
  have whole : (s.retryingWrite operation fun isRetry =>
      forgiving (fun failure => isRetry && forgives failure)
        (s.perform database command)).Ends w fun result t =>
      result = ((s.answer w.outside database command).map fun _ => ()).mapError .command ∧
        t.trace = w.trace ++ [.attempted false,
          .commanded database command (s.answer w.outside database command)] := by
    refine retrying_ends_of_first ?_
    refine Act.ends_bind.mpr (Act.ends_outcome.mpr (ends_perform.mpr ?_))
    rw [World.outside_record]
    cases answered : s.answer w.outside database command with
    | ok reply =>
        rw [answered] at trace
        exact (Act.ends_pure ()).mpr ⟨rfl, trace⟩
    | error failure =>
        rw [answered] at trace
        have stays := final failure answered
        refine (Act.ends_fail failure).mpr ⟨fun passing => ?_, fun _ => ⟨rfl, trace⟩⟩
        rw [stays] at passing
        cases passing
  exact whole result t ended

theorem dropCollection_of_plain {ns : Namespace} (plain : ns.isStoredFunctions = false) :
    s.dropCollection ns = s.dropPlainly ns := by
  rw [dropCollection, plain]
  rfl

theorem dropCollection_of_stored {ns : Namespace} (stored : ns.isStoredFunctions = true) :
    s.dropCollection ns = s.renameAndDrop ns := by
  rw [dropCollection, if_pos stored]

theorem KeepsNamespaces.dropPlainly_ends (keeps : s.KeepsNamespaces view) (ns : Namespace)
    (w : World σ) :
    (s.dropPlainly ns).Ends w fun result t => ∃ events, s.Unfolds w events t ∧
      (Change.drop ns.text).ComesTo (view w.outside) (view t.outside) events result :=
  keeps.retryingChange_ends "drop" (c := .drop ns.text) rfl w

/-- What dropping stored functions comes to if no answer is garbled. -/
theorem KeepsNamespaces.renameAndDrop_ends (keeps : s.KeepsNamespaces view) (ns : Namespace)
    (absent : (s.dropPending ns).text ∉ view w.outside) :
    (s.renameAndDrop ns).Ends w fun result t => ∃ events, s.Unfolds w events t ∧
      ((∀ event ∈ events, event.isGarbled = false) →
        (result = .ok () → view t.outside = view w.outside \ {ns.text}) ∧
        (ns.text ∈ view w.outside → ∀ failure, result = .error (.command failure) →
          failure.namesNamespace = false)) := by
  have asks : Change.ofCommand? "admin" (renameCommand ns (s.dropPending ns)) =
      some (.rename ns.text (s.dropPending ns).text) := rfl
  have moves := keeps.retryingChange_ends "renameCollection" asks w
  refine Act.ends_bind.mpr (moves.mono ?_)
  rintro (fault | ⟨⟩) u ⟨earlier, renamed, rename⟩
  · refine ⟨earlier, renamed, fun _ => ⟨fun succeeded => (by cases succeeded), ?_⟩⟩
    rintro present failure ⟨⟩
    exact (rename.isMade ⟨present, absent⟩).unrefused failure rfl
  refine (keeps.dropPlainly_ends (s.dropPending ns) u).mono ?_
  rintro result t ⟨later, dropped, drop⟩
  refine ⟨earlier ++ later, renamed.trans dropped, fun clear => ?_⟩
  obtain ⟨clearEarlier, clearLater⟩ := List.forall_mem_append.mp clear
  have done : ns.text ∉ view u.outside := rename.done clearEarlier rfl
  rcases rename.once with same | ⟨⟨present, _⟩, effect⟩
  · rw [same] at done
    refine ⟨fun _ => ?_, fun present => absurd present done⟩
    rcases drop.once with still | ⟨possible, _⟩
    · rw [still, same, Set.sdiff_singleton_eq_self done]
    · exact absurd (same ▸ possible) absent
  · have pending : (Change.drop (s.dropPending ns).text).IsPossible (view u.outside) := by
      rw [effect]
      exact Set.mem_insert _ _
    have made := drop.isMade pending
    refine ⟨fun succeeded => ?_, fun _ => made.unrefused⟩
    rw [made.made succeeded clearLater, effect]
    exact Set.insert_sdiff_self_of_notMem fun left => absent left.1

/-- On a destination that holds a set of namespaces, the operations on them take effect at
most once, however many answers get lost.  A collection that is absent in the beginning is
not reported to exist, nor one that exists to be missing; and unless an answer was garbled,
success means that the change has been made.  An answer to the first attempt that did not
get lost is what the operation comes to. -/
theorem namespaces_change_once (keeps : s.KeepsNamespaces view) : s.ChangesOnce view where
  created := by
    intro database collection options w t result ended absent
    obtain ⟨events, unfolds, comesTo⟩ := keeps.retryingChange_ends "create"
      (c := .create (Namespace.text ⟨database, collection⟩)) rfl w result t ended
    exact ⟨events, unfolds, comesTo.isMade absent⟩
  dropped := by
    intro ns w t result ended plain present
    rw [dropCollection_of_plain plain] at ended
    obtain ⟨events, unfolds, comesTo⟩ := keeps.dropPlainly_ends ns w result t ended
    exact ⟨events, unfolds, comesTo.isMade present⟩
  droppedStored := by
    intro ns w t result ended stored absent
    rw [dropCollection_of_stored stored] at ended
    obtain ⟨events, unfolds, comesTo⟩ := keeps.renameAndDrop_ends ns absent result t ended
    refine ⟨events, unfolds, fun clear => ⟨fun succeeded => ?_, (comesTo clear).2⟩⟩
    have left := (comesTo clear).1 succeeded
    refine ⟨?_, ?_, left⟩ <;> rw [left]
    · exact fun still => still.2 rfl
    · exact fun still => absent still.1
  createdAtOnce := by
    intro database command
    exact s.retryingForgiving_comesToAnswer _ _ database (majority command)
  droppedAtOnce := by
    intro ns plain
    rw [dropCollection_of_plain plain]
    exact s.retryingForgiving_comesToAnswer _ _ ns.database (dropCommand ns)
  refusedAtOnce := by
    intro ns w t result failure ended stored refused final
    rw [dropCollection_of_stored stored] at ended
    have first : (s.renameAndDrop ns).Ends w fun result t =>
        result = .error (.command failure) ∧ t.trace = w.trace ++ [.attempted false,
          .commanded "admin" (renameCommand ns (s.dropPending ns)) (.error failure)] := by
      refine Act.ends_bind.mpr ?_
      intro renamed u attempted
      obtain ⟨rfl, trace⟩ := s.retryingForgiving_comesToAnswer _ _ _ _ attempted <| by
        rw [refused]
        rintro _ ⟨⟩
        exact final
      rw [refused] at trace ⊢
      exact ⟨rfl, trace⟩
    exact first result t ended

end Session

/-! ## A registry whose answers get lost -/

/-- An answer that gets lost, and whether the command takes effect all the same. -/
structure Outage where
  tookEffect : Bool
  failure : Failure
  passing : failure.isReconnectable = true

/-- The namespaces, and the fates of the next commands on them. -/
structure Registry where
  held : List String
  outages : List Outage

namespace Change

def isPossibleIn (held : List String) : Change → Bool
  | .create ns => !held.contains ns
  | .drop ns => held.contains ns
  | .rename source target => held.contains source && !held.contains target

def effectOn (held : List String) : Change → List String
  | .create ns => ns :: held
  | .drop ns => held.filter (· ≠ ns)
  | .rename source target => target :: held.filter (· ≠ source)

/-- The code of a refusal. -/
def refusalCode (held : List String) : Change → Int32
  | .create _ => 48
  | .drop _ => 26
  | .rename source _ => if held.contains source then 48 else 26

end Change

namespace Registry

def view (r : Registry) : Set String :=
  {ns | ns ∈ r.held}

@[simp] theorem mem_view {r : Registry} {ns : String} : ns ∈ r.view ↔ ns ∈ r.held :=
  Iff.rfl

/-- Answers the command of a change. -/
def answer (r : Registry) (c : Change) : Except Failure Document × Registry :=
  match r.outages with
  | [] =>
      if c.isPossibleIn r.held then
        (.ok [("ok", .int32 1)], { r with held := c.effectOn r.held })
      else (.ok [("ok", .int32 0), ("code", .int32 (c.refusalCode r.held))], r)
  | outage :: rest =>
      (.error outage.failure,
        { held :=
            if outage.tookEffect && c.isPossibleIn r.held then c.effectOn r.held else r.held
          outages := rest })

end Registry

/-- A destination that has no contents besides its namespaces. -/
def registry : Destination Registry where
  now _ := 0
  run o database command :=
    match Change.ofCommand? database command with
    | none => (.ok [("ok", .int32 1)], o)
    | some c => o.answer c
  pause o _ := o

def registering : Session Registry where
  destination := registry
  settings := .testing
  policy := .testing
  patience := 4

theorem Change.isPossibleIn_iff {c : Change} {r : Registry} :
    c.isPossibleIn r.held = true ↔ c.IsPossible r.view := by
  cases c <;> simp [isPossibleIn, IsPossible]

theorem Registry.view_effectOn (r : Registry) (c : Change) (outages : List Outage) :
    (Registry.view ⟨c.effectOn r.held, outages⟩) = c.effect r.view := by
  ext ns
  cases c <;> simp [Change.effectOn, Change.effect]

/-- What is not possible is refused truthfully. -/
theorem Registry.refuses {c : Change} {r : Registry} {e : CommandError}
    (impossible : c.isPossibleIn r.held = false) (code : e.code = c.refusalCode r.held) :
    c.Refuses r.view (.command e) := by
  cases c with
  | create ns | drop ns =>
      refine ⟨by simpa [Change.isPossibleIn] using impossible, ?_⟩
      exact beq_of_eq code
  | rename source target =>
      by_cases present : source ∈ r.held
      · refine .inr ⟨present, by simpa [Change.isPossibleIn, present] using impossible, ?_⟩
        rw [Change.refusalCode, if_pos (List.contains_iff_mem.mpr present)] at code
        exact beq_of_eq code
      · refine .inl ⟨present, ?_⟩
        rw [Change.refusalCode, if_neg fun held => present (List.contains_iff_mem.mp held)] at code
        exact beq_of_eq code

theorem Registry.answered (r : Registry) (c : Change) :
    c.Answered r.view ((r.answer c).1.bind Reply.lift) (r.answer c).2.view := by
  obtain ⟨held, outages⟩ := r
  cases outages with
  | nil =>
      cases possible : c.isPossibleIn held with
      | true =>
          simp only [Registry.answer, possible, if_true, Registry.view_effectOn ⟨held, []⟩ c]
          exact .acknowledged (Change.isPossibleIn_iff.mp possible)
      | false =>
          simp only [Registry.answer, possible]
          exact .refused (Registry.refuses possible rfl)
  | cons outage rest =>
      cases effective : outage.tookEffect && c.isPossibleIn held with
      | true =>
          have possible := (Bool.and_eq_true_iff.mp effective).2
          simp only [Registry.answer, effective, if_true,
            Registry.view_effectOn ⟨held, outage :: rest⟩ c]
          exact .lostAfter (Change.isPossibleIn_iff.mp possible) outage.passing
      | false =>
          simp only [Registry.answer, effective]
          exact .lostBefore outage.passing

theorem keepsNamespaces_registering : registering.KeepsNamespaces Registry.view where
  paused _ _ := rfl
  probed _ := rfl
  changed := by
    intro o database command c asks
    have run : registering.destination.run o database command = o.answer c := by
      simp only [registering, registry, asks]
    rw [Session.answer, run]
    exact o.answered c

/-- The connection is lost after the command has taken effect, or before. -/
def lostConnection (tookEffect : Bool) : Outage where
  tookEffect := tookEffect
  failure := .transport .timeout "i/o timeout"
  passing := rfl

/-- The rename is carried out, and its answer and that of a retry get lost; then the same
happens to the drop. -/
theorem stored_functions_dropped :
    ∃ t : World Registry,
      (registering.dropCollection ⟨"app", "system.js"⟩).run
          ⟨⟨["app.system.js", "app.users"],
            [lostConnection true, lostConnection false, lostConnection true]⟩, []⟩ =
        some (.ok (), t) ∧
      t.outside.view = Registry.view ⟨["app.system.js", "app.users"], []⟩ \ {"app.system.js"} := by
  obtain ⟨t, ended, clear⟩ : ∃ t,
      (registering.dropCollection ⟨"app", "system.js"⟩).run
          ⟨⟨["app.system.js", "app.users"],
            [lostConnection true, lostConnection false, lostConnection true]⟩, []⟩ =
        some (.ok (), t) ∧ t.trace.all (fun event => !event.isGarbled) = true := ⟨_, rfl, rfl⟩
  have absent : (registering.dropPending ⟨"app", "system.js"⟩).text ∉
      Registry.view ⟨["app.system.js", "app.users"],
        [lostConnection true, lostConnection false, lostConnection true]⟩ := by
    rw [Registry.mem_view]
    decide
  obtain ⟨events, unfolds, comesTo⟩ :=
    (Session.namespaces_change_once keepsNamespaces_registering).droppedStored ended rfl absent
  rw [unfolds.trace, List.nil_append] at clear
  have heard : ∀ event ∈ events, event.isGarbled = false := by
    intro event member
    simpa using List.all_eq_true.mp clear event member
  exact ⟨t, ended, ((comesTo heard).1 rfl).2.2⟩

/-- An answer that got lost, and says that the collection exists. -/
def garbledAnswer : Outage where
  tookEffect := false
  failure := .command ⟨48, none, "connection lost", ["NetworkError"], none⟩
  passing := rfl

/-- On a retry such an answer is taken for a refusal, although it says of itself that
another attempt may help: the creation succeeds without a collection. -/
theorem garbled_answer_taken_for_success :
    ∃ w t : World Registry, registering.KeepsNamespaces Registry.view ∧
      "app.users" ∉ w.outside.view ∧
      (registering.createCollection "app" [("create", .string "users")]).run w =
        some (.ok (), t) ∧
      "app.users" ∉ t.outside.view :=
  ⟨⟨⟨[], [lostConnection false, garbledAnswer]⟩, []⟩, _, keepsNamespaces_registering,
    List.not_mem_nil, rfl, List.not_mem_nil⟩

end LogReplay
