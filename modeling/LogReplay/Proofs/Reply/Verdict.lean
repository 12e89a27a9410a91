/-
Module: LogReplay.Proofs.Reply.Verdict
Purpose: The two readings of the reply to a batch: as a failure, and as an account of the
  batch.
Main exports:
  ApplyOpsReply.ReadsAs, ApplyOpsReply.readsAs_of_ofDocument, ApplyOpsReply.Tells,
  Session.readings_agree
-/
import LogReplay.Proofs.Bson.Extended
import LogReplay.Proofs.Number.Whole
import LogReplay.Proofs.Session.Attempt
import LogReplay.Proofs.Session.Retrying

/-!
A reply is lifted before it is read.  Lifting looks its fields up by name and takes what it
does not understand for missing; reading goes through the fields in order and refuses what it
does not understand.  Of a reply that can be read both give the same verdict, with the same
code and the same message, as long as no value comes in disguise.

A document that stands for a number is this number to the reader, and no number to whoever
looks for one.  A message in generic bytes is a text to the reader, and no text to whoever
looks for a string.
-/

namespace LogReplay

open Bson Number

namespace ApplyOpsReply

/-! ## Reading by order, and by name -/

/-- What reading leaves of one part of a reply, by the field that was found for it. -/
def Takes {α : Type} (read : Value → Except String α) (found : Option Value)
    (before after : α) : Prop :=
  match found with
  | none => after = before
  | some value => read value = .ok after

/-- What reading leaves of each part, by the fields that were found. -/
structure ReadsAs (found : String → Option Value) (before after : ApplyOpsReply) : Prop where
  ok : Takes readOk (found "ok") before.ok after.ok
  message : Takes readMessage (found "errmsg") before.message after.message
  code : Takes readInt (found "code") before.code after.code
  applied : Takes readInt (found "applied") before.applied after.applied
  results : Takes readResults (found "results") before.results after.results

theorem map_eq_ok_iff {ε α β : Type} {f : α → β} {x : Except ε α} {b : β} :
    x.map f = .ok b ↔ ∃ a, x = .ok a ∧ f a = b := by
  cases x <;> simp [Except.map]

section

variable {r middle after : ApplyOpsReply} {name : String} {value : Value} {d : Document}

/-- One field is read into the part of its name, and into no other. -/
theorem readsAs_of_readField (read : readField r name value = .ok after) :
    ReadsAs (Document.field? [(name, value)]) r after := by
  unfold readField at read
  iterate 5
    split at read
    · next own =>
      obtain ⟨part, taken, rfl⟩ := map_eq_ok_iff.mp read
      constructor <;> simp [Takes, Document.field?_cons, own, taken]
  cases read
  constructor <;> simp [Takes, Document.field?_cons, *]

theorem Takes.cons {α : Type} {read : Value → Except String α} {key : String}
    {before between behind : α}
    (first : Takes read (Document.field? [(name, value)] key) before between)
    (later : Takes read (d.field? key) between behind) (fresh : name ∉ d.names) :
    Takes read (Document.field? ((name, value) :: d) key) before behind := by
  rw [Document.field?_cons] at first ⊢
  by_cases own : name = key
  · subst own
    rw [Document.field?_eq_none_of_not_mem fresh] at later
    rw [if_pos rfl] at first ⊢
    cases later
    exact first
  · rw [if_neg own] at first ⊢
    cases first
    exact later

theorem ReadsAs.cons (first : ReadsAs (Document.field? [(name, value)]) r middle)
    (later : ReadsAs d.field? middle after) (fresh : name ∉ d.names) :
    ReadsAs (Document.field? ((name, value) :: d)) r after where
  ok := first.ok.cons later.ok fresh
  message := first.message.cons later.message fresh
  code := first.code.cons later.code fresh
  applied := first.applied.cons later.applied fresh
  results := first.results.cons later.results fresh

/-- Where no name is repeated, reading in order reads each part by its name. -/
theorem readsAs_of_readFields (distinct : d.names.Nodup) (read : readFields r d = .ok after) :
    ReadsAs d.field? r after := by
  induction d generalizing r with
  | nil =>
      cases read
      exact ⟨rfl, rfl, rfl, rfl, rfl⟩
  | cons field rest inductionHypothesis =>
      obtain ⟨name, value⟩ := field
      obtain ⟨fresh, later⟩ := List.nodup_cons.mp distinct
      rw [readFields] at read
      cases first : readField r name value with
      | error problem =>
          rw [first] at read
          cases read
      | ok middle =>
          rw [first] at read
          exact (readsAs_of_readField first).cons (inductionHypothesis later read) fresh

theorem readsAs_of_ofDocument (distinct : d.names.Nodup) (read : ofDocument d = .ok r) :
    ReadsAs d.field? blank r := by
  unfold ofDocument at read
  split at read
  · next fields =>
    cases read
    exact readsAs_of_readFields distinct fields
  · cases read

/-! ## The verdict -/

/-- The field holds a document, and so no number, but maybe one that stands for a number. -/
def Disguised (d : Document) (key : String) : Prop :=
  ∃ fields, d.field? key = some (.document fields)

/-- A value other than a document is read as itself, or as something that is no number. -/
theorem eq_or_not_number_of_read {w : Value} (undisguised : ∀ fields, value ≠ .document fields)
    (read : value.read = .ok w) :
    w = value ∨ (∀ x, number w ≠ .ok x) ∧ ∀ n, integer w ≠ .ok n := by
  cases value with
  | document fields => exact absurd rfl (undisguised fields)
  | array items =>
      obtain ⟨_, _, ⟨⟩⟩ := bind_eq_ok read
      exact .inr ⟨nofun, nofun⟩
  | javaScriptWithScope code scope =>
      obtain ⟨_, _, read⟩ := bind_eq_ok read
      obtain ⟨_, _, ⟨⟩⟩ := bind_eq_ok read
      exact .inr ⟨nofun, nofun⟩
  | regex pattern options =>
      cases read
      exact .inr ⟨nofun, nofun⟩
  | _ =>
      cases read
      exact .inl rfl

/-- What is read from the field that decides says the same as the field, unless that is a
document. -/
theorem isOk_of_readOk {ok : Double} (found : d.field? "ok" = some value)
    (undisguised : ¬Disguised d "ok") (read : readOk value = .ok ok) :
    Reply.isOk d = ok.equals .one := by
  obtain ⟨w, same, number⟩ := bind_eq_ok read
  have proper : ∀ fields, value ≠ .document fields := by
    rintro fields rfl
    exact undisguised ⟨fields, found⟩
  obtain rfl | ⟨none, -⟩ := eq_or_not_number_of_read proper same
  · rw [Reply.isOk, found]
    cases w with
    | double x =>
        cases Except.ok.inj number
        rfl
    | int32 n =>
        rw [← Except.ok.inj number, Double.equals_one_ofInt, Bool.eq_iff_iff, beq_iff_eq,
          decide_eq_true_eq, ← Int32.toInt_inj]
        rfl
    | int64 n =>
        rw [← Except.ok.inj number, Double.equals_one_ofInt, Bool.eq_iff_iff, beq_iff_eq,
          decide_eq_true_eq, ← Int64.toInt_inj]
        rfl
    | boolean flag =>
        rw [← Except.ok.inj number]
        cases flag <;> decide
    | _ => cases number
  · exact absurd number (none ok)

theorem isOk_eq (reads : ReadsAs d.field? blank r) (undisguised : ¬Disguised d "ok") :
    Reply.isOk d = r.isOk := by
  have ok := reads.ok
  cases found : d.field? "ok" with
  | none =>
      rw [found] at ok
      rw [Reply.isOk, found, isOk, show r.ok = .zero from ok]
      decide
  | some value =>
      rw [found] at ok
      exact isOk_of_readOk found undisguised ok

theorem isOk_of_disguised (disguised : Disguised d "ok") : Reply.isOk d = false := by
  obtain ⟨fields, found⟩ := disguised
  rw [Reply.isOk, found]

/-- An integer that is read from a value other than a document is found in it. -/
theorem int?_of_readInt {n : Option Int32} (undisguised : ∀ fields, value ≠ .document fields)
    (read : readInt value = .ok n) : Reply.int? value = n := by
  obtain ⟨w, same, integer⟩ := bind_eq_ok read
  obtain rfl | ⟨-, none⟩ := eq_or_not_number_of_read undisguised same
  · unfold ApplyOpsReply.integer at integer
    split at integer
    · cases integer
      rfl
    · split at integer
      · next known => rw [known, Except.ok.inj integer]
      · cases integer
  · exact absurd integer (none n)

theorem intAt_code_eq (reads : ReadsAs d.field? blank r) (undisguised : ¬Disguised d "code") :
    Reply.intAt d "code" = r.code.getD 0 := by
  have code := reads.code
  rw [Reply.intAt]
  cases found : d.field? "code" with
  | none =>
      rw [found] at code
      rw [show r.code = none from code]
      rfl
  | some value =>
      rw [found] at code
      have known : Reply.int? value = r.code := by
        refine int?_of_readInt ?_ code
        rintro fields rfl
        exact undisguised ⟨fields, found⟩
      rw [Option.bind_some, known]

theorem intAt_of_disguised {key : String} (disguised : Disguised d key) :
    Reply.intAt d key = 0 := by
  obtain ⟨fields, found⟩ := disguised
  rw [Reply.intAt, found]
  rfl

/-- Only a message in bytes is read and not found. -/
theorem textAt_message_eq (reads : ReadsAs d.field? blank r) :
    Reply.textAt d "errmsg" = r.message.getD "" ∨
      ∃ data, d.field? "errmsg" = some (.binary data) := by
  have message := reads.message
  rw [Reply.textAt, Document.text?]
  cases found : d.field? "errmsg" with
  | none =>
      rw [found] at message
      rw [show r.message = none from message]
      exact .inl rfl
  | some value =>
      rw [found] at message
      cases value with
      | binary data => exact .inr ⟨data, rfl⟩
      | null | string text =>
          rw [← Except.ok.inj message]
          exact .inl rfl
      | _ => cases message

/-! ## What both tell -/

/-- What lifting a reply that can be read as `r` comes to. -/
structure Tells (d : Document) (r : ApplyOpsReply) : Prop where
  verdict : ¬Disguised d "ok" → ((∃ e, Reply.lift d = .error (.command e)) ↔ r.isOk = false)
  /-- A verdict in disguise counts as a refusal, whatever it stands for. -/
  refusal : Disguised d "ok" → ∃ e, Reply.lift d = .error (.command e)
  code : ∀ e, Reply.lift d = .error (.command e) → ¬Disguised d "code" →
    e.code = r.code.getD 0 ∧ (Failure.command e).code = r.code.getD 0
  /-- A code in disguise gets lost. -/
  codeless : ∀ e, Reply.lift d = .error (.command e) → Disguised d "code" →
    e.code = 0 ∧ (Failure.command e).code = 0
  message : ∀ e, Reply.lift d = .error (.command e) →
    (∀ data, d.field? "errmsg" ≠ some (.binary data)) → e.message = r.message.getD ""
  /-- A message in bytes gets lost. -/
  bytes : ∀ e data, Reply.lift d = .error (.command e) →
    d.field? "errmsg" = some (.binary data) → e.message = ""
  /-- The failure keeps the reply, and the reply can be read again from the fault. -/
  response : ∀ e, Reply.lift d = .error (.command e) →
    e.response = some d ∧ ofFault? (.command (.command e)) = some r

theorem lift_eq_command_iff {e : CommandError} :
    Reply.lift d = .error (.command e) ↔ Reply.isOk d = false ∧ e = Reply.commandError d := by
  unfold Reply.lift
  cases Reply.isOk d with
  | false => simp [eq_comm]
  | true =>
      simp only [Bool.not_true, Bool.false_eq_true, if_false, Bool.true_eq_false, false_and,
        iff_false]
      split <;> exact nofun

theorem tells_of_ofDocument (distinct : d.names.Nodup) (read : ofDocument d = .ok r) :
    Tells d r := by
  have reads := readsAs_of_ofDocument distinct read
  refine ⟨?_, ?_, ?_, ?_, ?_, ?_, ?_⟩
  · intro undisguised
    rw [← isOk_eq reads undisguised]
    simp only [lift_eq_command_iff, exists_and_left, exists_eq, and_true]
  · intro disguised
    exact ⟨_, lift_eq_command_iff.mpr ⟨isOk_of_disguised disguised, rfl⟩⟩
  · intro e lifted undisguised
    obtain ⟨-, rfl⟩ := lift_eq_command_iff.mp lifted
    have code := intAt_code_eq reads undisguised
    exact ⟨code, code⟩
  · intro e lifted disguised
    obtain ⟨-, rfl⟩ := lift_eq_command_iff.mp lifted
    have code := intAt_of_disguised disguised
    exact ⟨code, code⟩
  · intro e lifted plain
    obtain ⟨-, rfl⟩ := lift_eq_command_iff.mp lifted
    rcases textAt_message_eq reads with same | ⟨data, found⟩
    · exact same
    · exact absurd found (plain data)
  · intro e data lifted found
    obtain ⟨-, rfl⟩ := lift_eq_command_iff.mp lifted
    change Reply.textAt d "errmsg" = ""
    rw [Reply.textAt, Document.text?, found]
    rfl
  · intro e lifted
    obtain ⟨-, rfl⟩ := lift_eq_command_iff.mp lifted
    refine ⟨rfl, ?_⟩
    rw [ofFault?, Fault.commandFailure?, Option.bind_some, Failure.response?,
      Reply.commandError]
    simp only [read]

end

end ApplyOpsReply

/-! ## Batches that were acknowledged -/

theorem Reply.isOk_of_lift_ok {reply lifted : Document} (success : lift reply = .ok lifted) :
    isOk reply = true := by
  cases verdict : isOk reply with
  | true => rfl
  | false =>
      rw [lift, verdict] at success
      cases success

/-- The replies of the destination name each of their fields once. -/
def Destination.RepliesDistinctly {σ : Type} (d : Destination σ) : Prop :=
  ∀ o database command reply, (d.run o database command).1 = .ok reply → reply.names.Nodup

namespace Session

variable {σ : Type} {s : Session σ}

/-- A reply to a batch is read only if it was in order. -/
theorem isOk_of_batchAnswer (distinct : s.destination.RepliesDistinctly) {o : σ}
    {command : Document} {r : ApplyOpsReply} (answered : s.batchAnswer o command = .ok r) :
    r.isOk = true := by
  rw [batchAnswer, answer] at answered
  cases replied : (s.destination.run o "admin" command).1 with
  | error failure =>
      rw [replied] at answered
      cases answered
  | ok reply =>
      cases handedOn : Reply.lift reply with
      | error failure =>
          rw [replied, Except.bind, handedOn] at answered
          cases answered
      | ok lifted =>
          rw [replied, Except.bind, handedOn] at answered
          obtain rfl := Reply.eq_of_lift_ok handedOn
          have reads :=
            ApplyOpsReply.readsAs_of_ofDocument (distinct _ _ _ _ replied) answered
          have success := Reply.isOk_of_lift_ok handedOn
          have undisguised : ¬ApplyOpsReply.Disguised lifted "ok" := by
            intro disguised
            rw [ApplyOpsReply.isOk_of_disguised disguised] at success
            cases success
          rw [← ApplyOpsReply.isOk_eq reads undisguised, success]

theorem applyBatchWith_isOk (distinct : s.destination.RepliesDistinctly)
    (entries : List Document) (bypass : Bool) (w : World σ) :
    (s.applyBatchWith entries bypass).Ends w fun result _ =>
      ∀ r, result = .ok r → r.isOk = true := by
  rw [applyBatchWith]
  split
  · exact (Act.ends_fail _).mpr nofun
  have keeps : s.Keeps .byWriting fun _ => True :=
    ⟨fun _ _ => trivial, fun _ _ _ _ => trivial, fun _ _ _ _ => trivial⟩
  refine retrying_ends keeps ?_ (fun _ => nofun) trivial
  intro isRetry u _
  refine (Act.ends_iff_of_run (s.run_attemptBatch entries bypass u)).mpr ?_
  cases answered : s.batchAnswer u.outside (s.batchCommand entries bypass) with
  | error failure => trivial
  | ok reply =>
      intro r same
      cases same
      exact isOk_of_batchAnswer distinct answered

/-- Lifting a reply and reading it agree on the verdict and on the code unless these come as
documents, and on the message unless it comes in bytes.  The failure leads back to the reply,
and a batch that was applied is one whose reply says so, whatever the reply holds. -/
theorem readings_agree (s : Session σ) (distinct : s.destination.RepliesDistinctly) :
    (∀ d r, d.names.Nodup → ApplyOpsReply.ofDocument d = .ok r → ApplyOpsReply.Tells d r) ∧
      ∀ entries w r t, (s.applyBatch entries).run w = some (.ok r, t) → r.isOk = true := by
  constructor
  · intro d r named read
    exact ApplyOpsReply.tells_of_ofDocument named read
  · intro entries w r t ended
    exact applyBatchWith_isOk distinct entries s.settings.bypassValidation w _ t ended r rfl

end Session

/-! ## A destination that says it in several ways -/

/-- A destination without a primary at first, and then one that has applied one entry. -/
def electing : Destination Nat where
  now _ := 0
  run o _ _ :=
    (.ok (if o = 0 then
        [("errmsg", .string "not master"), ("code", .int64 10107), ("ok", .boolean false)]
      else [("results", .array [.boolean true]), ("applied", .double .one), ("ok", .int64 1)]),
      o + 1)
  pause o _ := o

def electingSession : Session Nat where
  destination := electing
  settings := .testing
  policy := .testing
  patience := 4

theorem repliesDistinctly_electing : electing.RepliesDistinctly := by
  rintro o database command reply ⟨⟩
  split <;> decide

/-- The batch is applied on the second attempt.  The first reply tells the same as a failure
and as an account. -/
theorem electing_readings_agree :
    (∃ r t, (electingSession.applyBatch [[("op", .string "n")]]).run ⟨0, []⟩ =
      some (.ok r, t) ∧ r.isOk = true) ∧
    ∃ r, ApplyOpsReply.Tells
      [("errmsg", .string "not master"), ("code", .int64 10107), ("ok", .boolean false)] r ∧
        r.code = some 10107 := by
  obtain ⟨told, applied⟩ := electingSession.readings_agree repliesDistinctly_electing
  obtain ⟨r, t, ended⟩ : ∃ r t, (electingSession.applyBatch [[("op", .string "n")]]).run
      ⟨0, []⟩ = some (.ok r, t) := ⟨_, _, rfl⟩
  exact ⟨⟨r, t, ended, applied _ _ _ _ ended⟩, _, told _ _ (by decide) rfl, rfl⟩

/-- A refused batch whose message comes in bytes. -/
def refusedInBytes : Document :=
  [("ok", .int32 0), ("errmsg", .binary ⟨genericSubtype, [103, 111, 110, 101]⟩)]

/-- An applied batch whose verdict comes as a document that stands for a number. -/
def appliedInDisguise : Document :=
  [("ok", .document [("$numberInt", .string "1")])]

/-- A refused batch whose code comes as such a document. -/
def refusedInDisguise : Document :=
  [("ok", .int32 0), ("code", .document [("$numberInt", .string "5")])]

/-- What comes in disguise is read and not found: a message, a verdict and a code. -/
theorem disguised_lost :
    (¬ ∀ d r e, d.names.Nodup → ApplyOpsReply.ofDocument d = .ok r →
      Reply.lift d = .error (.command e) → e.message = r.message.getD "") ∧
    (¬ ∀ d r, d.names.Nodup → ApplyOpsReply.ofDocument d = .ok r →
      ((∃ e, Reply.lift d = .error (.command e)) ↔ r.isOk = false)) ∧
    ¬ ∀ d r e, d.names.Nodup → ApplyOpsReply.ofDocument d = .ok r →
      Reply.lift d = .error (.command e) → e.code = r.code.getD 0 := by
  refine ⟨fun same => ?_, fun same => ?_, fun same => ?_⟩
  · have read : ApplyOpsReply.ofDocument refusedInBytes =
        .ok ⟨.zero, some "gone", none, none, []⟩ := by rfl
    exact absurd (same _ _ _ (by decide) read rfl) (by decide)
  · have read : ApplyOpsReply.ofDocument appliedInDisguise =
        .ok ⟨.ofInt 1, none, none, none, []⟩ := by rfl
    exact absurd ((same _ _ (by decide) read).mp ⟨_, rfl⟩) (by decide)
  · have read : ApplyOpsReply.ofDocument refusedInDisguise =
        .ok ⟨.zero, none, some 5, none, []⟩ := by rfl
    exact absurd (same _ _ _ (by decide) read rfl) (by decide)

end LogReplay
