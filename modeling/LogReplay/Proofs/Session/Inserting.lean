/-
Module: LogReplay.Proofs.Session.Inserting
Purpose: Inserting documents loses none and stores none over another.
Main exports:
  Stores, InsertEnds, Session.KeepsKeys, Insertion, Filing,
  Session.insertAll_loses_and_repeats_nothing
-/
import LogReplay.Proofs.Session.Attempt
import LogReplay.Proofs.Session.Rounds
import Mathlib.Logic.Function.Basic

/-!
The rounds of an insert account for every position of the list, whatever the destination
does.  What that means for the documents depends on the destination: it is to keep documents
under keys, to store the documents of a command in their order under keys that are free, and
to stop at a key that is taken, or anywhere with a failure that passes.

A command that is acknowledged then has stored its documents, and a document that is alone
in its command and meets a taken key has its own key taken.  Since keys stay taken, every
key of the list is taken in the end.
-/

namespace LogReplay

open Bson (Document Value)

/-! ## Documents under keys -/

/-- The documents of a collection by their keys. -/
abbrev Holdings :=
  Value → Option Document

/-- The keys of these documents are taken. -/
def HaveKeys (held : Holdings) (documents : List Document) : Prop :=
  ∀ document ∈ documents, ∀ key, document.field? "_id" = some key → (held key).isSome = true

/-- Documents are stored one after the other, each under a key that is free: its own, or one
that the destination chooses for a document without a key. -/
inductive Stores : Holdings → List Document → Holdings → Prop where
  | nothing (held : Holdings) : Stores held [] held
  | keyed {held after : Holdings} {document : Document} {rest : List Document} {key : Value}
      (own : document.field? "_id" = some key) (free : held key = none)
      (later : Stores (Function.update held key (some document)) rest after) :
      Stores held (document :: rest) after
  | unkeyed {held after : Holdings} {document completed : Document} {rest : List Document}
      {key : Value} (keyless : document.field? "_id" = none) (free : held key = none)
      (later : Stores (Function.update held key (some completed)) rest after) :
      Stores held (document :: rest) after

namespace Stores

variable {held between after : Holdings} {documents later : List Document}

theorem trans (one : Stores held documents between) (two : Stores between later after) :
    Stores held (documents ++ later) after := by
  induction one with
  | nothing => exact two
  | keyed own free _ inductionHypothesis => exact .keyed own free (inductionHypothesis two)
  | unkeyed keyless free _ inductionHypothesis =>
      exact .unkeyed keyless free (inductionHypothesis two)

theorem update_of_free {key other : Value} {document stored : Document}
    (free : held key = none) (known : held other = some document) :
    Function.update held key (some stored) other = some document := by
  have different : other ≠ key := by
    rintro rfl
    rw [free] at known
    cases known
  rw [Function.update_of_ne different, known]

/-- What was stored before stays as it is. -/
theorem kept (stores : Stores held documents after) :
    ∀ {key : Value} {document : Document}, held key = some document →
      after key = some document := by
  induction stores with
  | nothing =>
      intro key document known
      exact known
  | keyed _ free _ inductionHypothesis | unkeyed _ free _ inductionHypothesis =>
      intro key document known
      exact inductionHypothesis (update_of_free free known)

/-- Every key of the documents is taken afterwards. -/
theorem present (stores : Stores held documents after) : HaveKeys after documents := by
  induction stores with
  | nothing => exact List.forall_mem_nil _
  | @keyed held after document rest key own free later inductionHypothesis =>
      refine List.forall_mem_cons.mpr ⟨?_, inductionHypothesis⟩
      intro other same
      rw [own, Option.some.injEq] at same
      subst same
      rw [later.kept (Function.update_self ..)]
      rfl
  | unkeyed keyless _ _ inductionHypothesis =>
      refine List.forall_mem_cons.mpr ⟨?_, inductionHypothesis⟩
      intro key own
      rw [keyless] at own
      cases own

end Stores

/-- Nothing but documents of a list is stored. -/
def Adds (documents : List Document) (held after : Holdings) : Prop :=
  ∃ stored, (∀ document ∈ stored, document ∈ documents) ∧ Stores held stored after

namespace Adds

variable {documents more : List Document} {held between after : Holdings}

theorem refl (documents : List Document) (held : Holdings) : Adds documents held held :=
  ⟨[], List.forall_mem_nil _, .nothing held⟩

theorem trans (one : Adds documents held between) (two : Adds documents between after) :
    Adds documents held after := by
  obtain ⟨stored, inList, first⟩ := one
  obtain ⟨later, alsoInList, second⟩ := two
  exact ⟨stored ++ later, List.forall_mem_append.mpr ⟨inList, alsoInList⟩, first.trans second⟩

theorem mono (adds : Adds documents held after)
    (within : ∀ document ∈ documents, document ∈ more) : Adds more held after := by
  obtain ⟨stored, inList, stores⟩ := adds
  exact ⟨stored, fun document member => within document (inList document member), stores⟩

theorem kept (adds : Adds documents held after) {key : Value} {document : Document}
    (known : held key = some document) : after key = some document := by
  obtain ⟨_, _, stores⟩ := adds
  exact stores.kept known

theorem present_of_present (adds : Adds documents held after) {key : Value}
    (present : (held key).isSome = true) : (after key).isSome = true := by
  obtain ⟨document, known⟩ := Option.isSome_iff_exists.mp present
  rw [adds.kept known]
  rfl

end Adds

/-! ## A destination that keeps keys -/

/-- How an insert of documents can end: they are all stored; or they are stored up to the
first one whose key is taken; or some of them are, and the failure passes. -/
inductive InsertEnds (held : Holdings) (documents : List Document) :
    Except Failure Document → Holdings → Prop where
  | stored {reply : Document} {after : Holdings} (all : Stores held documents after) :
      InsertEnds held documents (.ok reply) after
  | taken {before rest : List Document} {document : Document} {key : Value} {failure : Failure}
      {after : Holdings} (whole : documents = before ++ document :: rest)
      (stored : Stores held before after) (own : document.field? "_id" = some key)
      (present : (after key).isSome = true) (duplicate : failure.isDuplicateKey = true) :
      InsertEnds held documents (.error failure) after
  | lost {before rest : List Document} {failure : Failure} {after : Holdings}
      (whole : documents = before ++ rest) (stored : Stores held before after)
      (passing : failure.isReconnectable = true) : InsertEnds held documents (.error failure) after

theorem InsertEnds.adds {held after : Holdings} {documents : List Document}
    {outcome : Except Failure Document} (ends : InsertEnds held documents outcome after) :
    Adds documents held after := by
  cases ends with
  | stored all => exact ⟨documents, fun _ member => member, all⟩
  | @taken before _ _ _ _ _ whole stored | @lost before _ _ _ whole stored =>
      refine ⟨before, ?_, stored⟩
      intro document member
      rw [whole]
      exact List.mem_append_left _ member

/-- One of these documents has a key of its own that is taken. -/
def OneHasKey (held : Holdings) (documents : List Document) : Prop :=
  ∃ document ∈ documents, ∃ key, document.field? "_id" = some key ∧ (held key).isSome = true

/-- What an attempt at inserting documents came to says which of their keys are taken. -/
structure AccountsForKeys (held : Holdings) (documents : List Document)
    (outcome : Except Failure Unit) : Prop where
  acknowledged : outcome = .ok () → HaveKeys held documents
  rejected : ∀ failure, outcome = .error failure → failure.isDuplicateKey = true →
    failure.isReconnectable = false → OneHasKey held documents

theorem AccountsForKeys.later {held after : Holdings} {documents more : List Document}
    {outcome : Except Failure Unit} (accounts : AccountsForKeys held documents outcome)
    (adds : Adds more held after) : AccountsForKeys after documents outcome where
  acknowledged := by
    intro succeeded document member key own
    exact adds.present_of_present (accounts.acknowledged succeeded document member key own)
  rejected := by
    intro failure failed duplicate final
    obtain ⟨document, member, key, own, present⟩ :=
      accounts.rejected failure failed duplicate final
    exact ⟨document, member, key, own, adds.present_of_present present⟩

theorem InsertEnds.accounts {held after : Holdings} {documents : List Document}
    {outcome : Except Failure Document} (ends : InsertEnds held documents outcome after) :
    AccountsForKeys after documents (outcome.map fun _ => ()) := by
  cases ends with
  | stored all =>
      refine ⟨fun _ => all.present, ?_⟩
      intro failure failed
      cases failed
  | @taken before rest document key failure _ whole _ own present _ =>
      refine ⟨?_, ?_⟩
      · intro succeeded
        cases succeeded
      · intro _ _ _ _
        refine ⟨document, ?_, key, own, present⟩
        rw [whole]
        exact List.mem_append_right _ List.mem_cons_self
  | lost _ _ passing =>
      refine ⟨?_, ?_⟩
      · intro succeeded
        cases succeeded
      · intro failure failed _ final
        cases failed
        rw [passing] at final
        cases final

namespace Session

variable {σ : Type} {s : Session σ} {ns : Namespace} {view : σ → Holdings}

/-- The destination keeps the documents of a collection under keys: inserting goes in order
and stores over nothing, and neither pauses nor probes change what is stored. -/
structure KeepsKeys (s : Session σ) (ns : Namespace) (view : σ → Holdings) : Prop where
  paused : ∀ o span, view (s.destination.pause o span) = view o
  probed : ∀ o, view (s.destination.run o "admin" s.probeCommand).2 = view o
  inserted : ∀ o documents,
    InsertEnds (view o) documents (s.answer o ns.database (s.insertCommand ns documents))
      (view (s.destination.run o ns.database (s.insertCommand ns documents)).2)

/-- What is done in a round stores documents of the round, and its attempts account for their
keys. -/
theorem KeepsKeys.does (keeps : s.KeepsKeys ns view) {slice : List Document} {w t : World σ}
    {deeds : List (Deed Unit)}
    (does : s.Does .byWriting (s.insertAttempt ns slice) w deeds t) :
    Adds slice (view w.outside) (view t.outside) ∧
      ∀ isRetry went, .attempted isRetry went ∈ deeds →
        AccountsForKeys (view t.outside) slice went.outcome := by
  induction does with
  | nothing w => exact ⟨.refl slice _, fun _ _ member => nomatch member⟩
  | aside _ _ inductionHypothesis => exact inductionHypothesis
  | @attempted w u t deeds isRetry outcome ended later inductionHypothesis =>
      -- The command accounts for keys right after it, and later deeds only add to them.
      obtain ⟨adds, others⟩ := inductionHypothesis
      rw [insertAttempt, run_perform] at ended
      cases ended
      have ends := keeps.inserted w.outside slice
      refine ⟨ends.adds.trans adds, ?_⟩
      intro retried went member
      rcases List.mem_cons.mp member with same | rest
      · cases same
        exact ends.accounts.later adds
      · exact others retried went rest
  | @paused w u t deeds span slept _ inductionHypothesis =>
      cases slept
      obtain ⟨adds, others⟩ := inductionHypothesis
      rw [← keeps.paused w.outside span]
      exact ⟨adds, by simpa using others⟩
  | @probed w u t deeds outcome ended _ inductionHypothesis =>
      rw [probe, run_waitForMajority] at ended
      cases ended
      obtain ⟨adds, others⟩ := inductionHypothesis
      rw [← keeps.probed w.outside]
      exact ⟨adds, by simpa using others⟩

end Session

theorem Account.exists_attempted_mem_deeds {α : Type} {a : Account α} {went : Try α}
    (member : went ∈ a.attempts) (pause : Span) :
    ∃ isRetry, Deed.attempted isRetry went ∈ a.deeds pause := by
  rcases List.mem_cons.mp member with rfl | renewed
  · exact ⟨false, List.mem_cons_self⟩
  · obtain ⟨r, inRenewals, rfl⟩ := List.mem_map.mp renewed
    refine ⟨true, List.mem_cons_of_mem _ (List.mem_append_left _ ?_)⟩
    exact List.mem_flatMap.mpr
      ⟨r, inRenewals, List.mem_append_right _ (List.mem_singleton_self _)⟩

theorem Round.documents_subset (documents : List Document) (r : Round) :
    ∀ document ∈ r.documents documents, document ∈ documents := by
  intro document member
  exact List.mem_of_mem_drop (List.mem_of_mem_take member)

namespace Session

variable {σ : Type} {s : Session σ} {ns : Namespace} {view : σ → Holdings}

/-- Rounds store documents of the list, and their attempts account for the keys of their
documents. -/
theorem KeepsKeys.inserts (keeps : s.KeepsKeys ns view) {documents : List Document}
    {w t : World σ} {rounds : List Round} (inserts : s.Inserts ns documents w rounds t) :
    Adds documents (view w.outside) (view t.outside) ∧
      ∀ r ∈ rounds, ∀ outcome ∈ r.attempts,
        AccountsForKeys (view t.outside) (r.documents documents) outcome := by
  induction inserts with
  | nothing w => exact ⟨.refl documents _, List.forall_mem_nil _⟩
  | aside _ inductionHypothesis => exact inductionHypothesis
  | @round w u t r rounds account _ does _ _ attempts _ inductionHypothesis =>
      obtain ⟨adds, accounts⟩ := keeps.does does
      obtain ⟨more, others⟩ := inductionHypothesis
      refine ⟨(adds.mono (r.documents_subset documents)).trans more, ?_⟩
      refine List.forall_mem_cons.mpr ⟨?_, others⟩
      intro outcome member
      rw [attempts] at member
      obtain ⟨went, inAccount, rfl⟩ := List.mem_map.mp member
      obtain ⟨isRetry, done⟩ :=
        Account.exists_attempted_mem_deeds inAccount s.policy.recoverSleep
      exact (accounts isRetry went done).later more

end Session

/-! ## All rounds together -/

/-- What the rounds of an insert of so many documents have done when it ends. -/
structure Insertion (count : Nat) (rounds : List Round) (result : Except Fault Unit) :
    Prop where
  few : rounds.length ≤ 2 * count
  /-- A round is about documents of the list. -/
  inside : ∀ r ∈ rounds, 0 < r.size ∧ r.first + r.size ≤ count
  /-- If all went well, every position was in a command that was acknowledged, or alone in a
  command that was rejected because its key is taken. -/
  covered : result = .ok () → ∀ k < count,
    (∃ r ∈ rounds, r.Covers k ∧ r.IsAcknowledged) ∨
      ∃ r ∈ rounds, r.first = k ∧ r.size = 1 ∧ r.MetTakenKey
  /-- Positions are acknowledged in order, and later rounds are about positions behind. -/
  inOrder : rounds.Pairwise fun earlier later =>
    earlier.IsAcknowledged → earlier.first + earlier.size ≤ later.first
  /-- In the round itself nothing is sent after a command that was acknowledged. -/
  last : ∀ r ∈ rounds, ∀ k, r.attempts[k]? = some (.ok ()) → k + 1 = r.attempts.length
  /-- What is reported is what the last round came to, and never a taken key. -/
  faults : ∀ fault, result = .error fault →
    fault.isDuplicateKey = false ∧ ∃ r, rounds.getLast? = some r ∧ r.outcome = .error fault

/-- What has become of a collection when an insert of documents ends. -/
structure Filing (documents : List Document) (held after : Holdings)
    (result : Except Fault Unit) : Prop where
  /-- Nothing but documents of the list was stored, one after the other, each under a key
  that was free at its time. -/
  added : Adds documents held after
  /-- Nothing that was stored has been overwritten. -/
  kept : ∀ key document, held key = some document → after key = some document
  /-- If all went well, every key of the list is taken. -/
  present : result = .ok () → HaveKeys after documents

theorem Course.insertion {count : Nat} {rounds : List Round} {result : Except Fault Unit}
    (course : Course count 0 false rounds result) (tells : ∀ r ∈ rounds, r.Tells) :
    Insertion count rounds result where
  few := course.length_le
  inside := fun r member => (course.inside r member).2
  covered := by
    intro succeeded k before
    rcases course.covered succeeded k (Nat.zero_le k) before with
      ⟨r, member, covers, acknowledged⟩ | ⟨r, member, own, one, fault, taken, duplicate⟩
    · exact .inl ⟨r, member, covers, (tells r member).isAcknowledged_iff.mpr acknowledged⟩
    · exact .inr ⟨r, member, own, one, (tells r member).taken fault taken duplicate⟩
  inOrder := by
    refine course.pairwise.imp_of_mem ?_
    intro earlier later member _ behind acknowledged
    exact behind ((tells earlier member).isAcknowledged_iff.mp acknowledged)
  last := fun r member => (tells r member).last
  faults := course.last_of_error

namespace Session

variable {σ : Type}

theorem KeepsKeys.filing {s : Session σ} {ns : Namespace} {view : σ → Holdings}
    (keeps : s.KeepsKeys ns view) {documents : List Document} {w t : World σ}
    {rounds : List Round} {result : Except Fault Unit}
    (inserts : s.Inserts ns documents w rounds t)
    (insertion : Insertion documents.length rounds result) :
    Filing documents (view w.outside) (view t.outside) result := by
  obtain ⟨adds, accounts⟩ := keeps.inserts inserts
  refine ⟨adds, fun _ _ known => adds.kept known, ?_⟩
  intro succeeded document member key own
  obtain ⟨k, found⟩ := List.getElem?_of_mem member
  obtain ⟨before, rfl⟩ := List.getElem?_eq_some_iff.mp found
  rcases insertion.covered succeeded k before with
    ⟨r, inRounds, ⟨behind, inside⟩, acknowledged⟩ |
      ⟨r, inRounds, rfl, one, failure, last, taken, final⟩
  · have inRound : documents[k] ∈ r.documents documents := by
      refine List.mem_of_getElem? (i := k - r.first) ?_
      rw [Round.documents, List.getElem?_take, if_pos (by omega), List.getElem?_drop,
        Nat.add_sub_cancel' behind, found]
    exact (accounts r inRounds _ acknowledged).acknowledged rfl _ inRound key own
  · have alone : r.documents documents = [documents[r.first]] := by
      rw [Round.documents, one, List.drop_eq_getElem_cons before]
      rfl
    obtain ⟨other, inRound, otherKey, otherOwn, present⟩ :=
      (accounts r inRounds _ (List.mem_of_getLast? last)).rejected failure rfl taken final
    rw [alone] at inRound
    cases List.mem_singleton.mp inRound
    rw [own] at otherOwn
    cases otherOwn
    exact present

/-- Inserting documents ends if each of its repetitions does.  When it has ended, every
position of the list is accounted for by few rounds, none was sent again after it was
acknowledged, and a destination that keeps keys has lost and overwritten nothing. -/
theorem insertAll_loses_and_repeats_nothing (s : Session σ) (ns : Namespace)
    (documents : List Document) (w : World σ) :
    (¬ s.MeetsEndless ns documents w →
        ∃ result t, (s.insertAll ns documents).run w = some (result, t)) ∧
      ∀ result t, (s.insertAll ns documents).run w = some (result, t) →
        ∃ rounds, s.Inserts ns documents w rounds t ∧
          Insertion documents.length rounds result ∧
            ∀ view, s.KeepsKeys ns view →
              Filing documents (view w.outside) (view t.outside) result := by
  refine ⟨?_, ?_⟩
  · intro ends
    cases run : (s.insertAll ns documents).run w with
    | none => exact absurd (meetsEndless_of_insertFrom documents documents List.drop_zero run) ends
    | some ending => exact ⟨ending.1, ending.2, rfl⟩
  · intro result t ended
    obtain ⟨rounds, inserts, course⟩ :=
      s.insertFrom_ends ns documents documents List.drop_zero result t ended
    have insertion := course.insertion inserts.tells
    exact ⟨rounds, inserts, insertion, fun view keeps => keeps.filing inserts insertion⟩

end Session

/-! ## A cabinet that loses a connection -/

/-- Documents under keys, and after how many documents the next commands lose their
connection. -/
structure Cabinet where
  held : Holdings
  losses : List Nat

namespace Cabinet

/-- The reply of a destination that steps down. -/
def steppedDown : Document :=
  [("ok", .int32 0), ("code", .int32 10107)]

/-- The reply to a document whose key is taken. -/
def duplicate : Document :=
  [("ok", .int32 1),
   ("writeErrors", .array [.document [("index", .int32 0), ("code", .int32 11000)]])]

/-- Stores documents in order, as many as there is a connection for.  A document without a
key is not stored. -/
def fill (held : Holdings) : (connected : Nat) → List Document → Document × Holdings
  | _, [] => ([("ok", .int32 1)], held)
  | 0, _ :: _ => (steppedDown, held)
  | connected + 1, document :: rest =>
      match document.field? "_id" with
      | none => (steppedDown, held)
      | some key =>
          match held key with
          | some _ => (duplicate, held)
          | none => fill (Function.update held key (some document)) connected rest

end Cabinet

/-- Inserts are filed, and other commands succeed. -/
def cabinet : Destination Cabinet where
  now _ := Span.ofMilliseconds 0
  run o _ command :=
    if command.firstName? = some "insert" then
      let documents := (Reply.itemsAt command "documents").filterMap Value.document?
      let (reply, held) := Cabinet.fill o.held (o.losses.headD documents.length) documents
      (.ok reply, ⟨held, o.losses.tail⟩)
    else (.ok [("ok", .int32 1)], o)
  pause o _ := o

def filing : Session Cabinet where
  destination := cabinet
  settings := .testing
  policy := .testing
  patience := 4

theorem InsertEnds.cons {held after : Holdings} {document : Document} {rest : List Document}
    {key : Value} {outcome : Except Failure Document} (own : document.field? "_id" = some key)
    (free : held key = none)
    (ends : InsertEnds (Function.update held key (some document)) rest outcome after) :
    InsertEnds held (document :: rest) outcome after := by
  cases ends with
  | stored all => exact .stored (.keyed own free all)
  | @taken before behind other _ _ _ whole stored otherOwn present duplicate =>
      have split : document :: rest = (document :: before) ++ other :: behind :=
        congrArg (document :: ·) whole
      exact .taken split (.keyed own free stored) otherOwn present duplicate
  | @lost before behind _ _ whole stored passing =>
      have split : document :: rest = (document :: before) ++ behind :=
        congrArg (document :: ·) whole
      exact .lost split (.keyed own free stored) passing

theorem Cabinet.insertEnds_fill (documents : List Document) :
    ∀ (held : Holdings) (connected : Nat),
      InsertEnds held documents (Reply.lift (fill held connected documents).1)
        (fill held connected documents).2 := by
  induction documents with
  | nil =>
      intro held connected
      rw [fill]
      exact .stored (.nothing held)
  | cons document rest inductionHypothesis =>
      intro held connected
      have lost : InsertEnds held (document :: rest) (Reply.lift steppedDown) held :=
        .lost (List.nil_append _).symm (.nothing held) rfl
      have rejected : Reply.lift duplicate = .error (.writeException [⟨0, 11000, ""⟩] none) := rfl
      cases connected with
      | zero => exact lost
      | succ connected =>
          rw [fill]
          cases own : document.field? "_id" with
          | none => exact lost
          | some key =>
              cases taken : held key with
              | some stored =>
                  have present : (held key).isSome = true := by rw [taken]; rfl
                  simp only [taken, rejected]
                  exact .taken (List.nil_append _).symm (.nothing held) own present rfl
              | none =>
                  simp only [taken]
                  exact .cons own taken (inductionHypothesis _ connected)

theorem keepsKeys_filing (ns : Namespace) : filing.KeepsKeys ns Cabinet.held where
  paused := fun _ _ => rfl
  probed := fun _ => rfl
  inserted := by
    intro o documents
    have sent : (Reply.itemsAt (filing.insertCommand ns documents) "documents").filterMap
        Value.document? = documents := by
      rw [show Reply.itemsAt (filing.insertCommand ns documents) "documents" =
        documents.map .document from rfl]
      simp [List.filterMap_map, Function.comp_def, Value.document?]
    have run : filing.destination.run o ns.database (filing.insertCommand ns documents) =
        (.ok (Cabinet.fill o.held (o.losses.headD documents.length) documents).1,
          ⟨(Cabinet.fill o.held (o.losses.headD documents.length) documents).2,
            o.losses.tail⟩) := by
      have insert : (filing.insertCommand ns documents).firstName? = some "insert" := rfl
      rw [show filing.destination = cabinet from rfl, cabinet]
      simp only [insert, if_true, sent]
    rw [Session.answer, run]
    exact Cabinet.insertEnds_fill documents o.held _

/-- Three documents with keys of their own. -/
def threeDocuments : List Document :=
  [[("_id", .int32 1)], [("_id", .int32 2)], [("_id", .int32 3)]]

/-- The second key is taken from the beginning, and the connection is lost when the first
document has been stored: the repeated batch meets the first key, and the documents are
inserted one by one. -/
theorem threeDocuments_filed :
    ∃ (held : Holdings) (t : World Cabinet) (rounds : List Round),
      (filing.insertAll ⟨"shop", "orders"⟩ threeDocuments).run ⟨⟨held, [1]⟩, []⟩ =
        some (.ok (), t) ∧
      filing.Inserts ⟨"shop", "orders"⟩ threeDocuments ⟨⟨held, [1]⟩, []⟩ rounds t ∧
        Insertion 3 rounds (.ok ()) ∧ Filing threeDocuments held t.outside.held (.ok ()) ∧
          held (.int32 2) = some [("_id", .int32 2), ("paid", .boolean true)] := by
  let held : Holdings := fun key =>
    if key = .int32 2 then some [("_id", .int32 2), ("paid", .boolean true)] else none
  obtain ⟨t, ended⟩ : ∃ t,
      (filing.insertAll ⟨"shop", "orders"⟩ threeDocuments).run ⟨⟨held, [1]⟩, []⟩ =
        some (.ok (), t) := ⟨_, rfl⟩
  obtain ⟨rounds, inserts, insertion, filed⟩ :=
    (filing.insertAll_loses_and_repeats_nothing ⟨"shop", "orders"⟩ threeDocuments _).2 _ t ended
  exact ⟨held, t, rounds, ended, inserts, insertion, filed _ (keepsKeys_filing _), rfl⟩

end LogReplay
