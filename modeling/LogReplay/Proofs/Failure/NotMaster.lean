/-
Module: LogReplay.Proofs.Failure.NotMaster
Purpose: When a failure that reports "not master" without a code is worth another attempt.
Main exports:
  Failure.message?, Failure.isComposite, Failure.saysNotMaster,
  Failure.isReconnectable_of_isComposite, Failure.notMaster_retried_unless_composite
-/
import LogReplay.Failure.Category
import LogReplay.Reply.Lifting

/-!
A primary that has stepped down may say so in words alone.  The words are looked for in
the text by which a failure is reported, and only if it has no code.

The code of a composite failure is that of one of its parts, but its text only counts the
parts.  So the words are found in a failure that stands for itself, and they are never
found in a part of a composite one.
-/

namespace LogReplay

open Bson (Document)
open Text (occursIn occursIn_iff occursIn_append)

theorem CommandError.exists_text_eq_append (e : CommandError) :
    ∃ before, e.text = before ++ e.message := by
  unfold text
  cases e.codeName with
  | none => exact ⟨_, rfl⟩
  | some name => exact ⟨_, rfl⟩

namespace Failure

/-! ## What a failure says -/

/-- The failure is made of the failures of single documents. -/
def isComposite : Failure → Bool
  | .writeException _ _ | .bulkWriteException _ _ => true
  | _ => false

/-- The message of the part that gives a composite failure its code. -/
def partsMessage? (writes : List WriteError) (concern : Option WriteConcernError) :
    Option String :=
  match writes, concern with
  | first :: _, _ => some first.message
  | [], some e => some e.message
  | [], none => none

/-- The message of the error that the code is read from. -/
def message? : Failure → Option String
  | .command e => some e.message
  | .write e => some e.message
  | .writeConcern e => some e.message
  | .writeException writes concern => partsMessage? writes concern
  | .bulkWriteException writes concern => partsMessage? writes concern
  | .transport _ _ => none
  | .message words => some words

/-- The failure reports "not master", and has no code. -/
def saysNotMaster (f : Failure) : Bool :=
  f.code == 0 && f.message?.any (occursIn "not master")

/-! ## Failures that stand for themselves -/

/-- The text of a failure that stands for itself ends with its message, unless it is an
unmet write concern, whose text goes on. -/
theorem exists_text_eq_append {f : Failure} {words : String} (simple : f.isComposite = false)
    (other : f.isWriteConcern = false) (read : f.message? = some words) :
    ∃ before, f.text = before ++ words := by
  cases f with
  | command e =>
      cases read
      obtain ⟨before, whole⟩ := e.exists_text_eq_append
      refine ⟨"command failed " ++ before, ?_⟩
      rw [String.append_assoc, ← whole]
      rfl
  | write e =>
      cases read
      exact ⟨_, rfl⟩
  | message words =>
      cases read
      exact ⟨"", String.empty_append.symm⟩
  | writeConcern => cases other
  | writeException | bulkWriteException => cases simple
  | transport => cases read

theorem isReconnectable_of_occursIn {f : Failure} (codeless : f.code = 0)
    (occurs : occursIn "not master" f.text = true) : f.isReconnectable = true := by
  simp [isReconnectable, codeless, occurs]

/-! ## Composite failures -/

theorem m_not_mem_toDigits (n : Nat) : 'm' ∉ Nat.toDigits 10 n := fun letter =>
  absurd (Nat.isDigit_of_mem_toDigits (by decide) (by decide) letter) (by decide)

theorem m_not_mem_partsText (writes : List WriteError) (concern : Option WriteConcernError) :
    'm' ∉ (partsText writes concern).toList := by
  cases concern <;> simp [partsText, m_not_mem_toDigits]

/-- The text of a composite failure never speaks of a master. -/
theorem occursIn_eq_false_of_isComposite {f : Failure} (composite : f.isComposite = true) :
    occursIn "not master" f.text = false := by
  rw [Bool.eq_false_iff, ne_eq, occursIn_iff]
  intro occurs
  have master : 'm' ∈ "not master".toList := by decide
  have letter := occurs.subset master
  cases f with
  | writeException | bulkWriteException =>
      unfold text at letter
      simp [m_not_mem_partsText] at letter
  | command | write | writeConcern | transport | message => cases composite

/-- A composite failure is judged by its code alone, whatever its parts say. -/
theorem isReconnectable_of_isComposite {f : Failure} (composite : f.isComposite = true) :
    f.isReconnectable = reconnectableCodes.contains f.code := by
  have text := occursIn_eq_false_of_isComposite composite
  cases f with
  | writeException | bulkWriteException =>
      simp [isReconnectable, isWriteConcern, isNetwork, text]
  | command | write | writeConcern | transport | message => cases composite

/-- Without a code, a report of "not master" is worth another attempt if the failure stands
for itself, and only then. -/
theorem isReconnectable_of_saysNotMaster {f : Failure} (told : f.saysNotMaster = true) :
    f.isReconnectable = !f.isComposite := by
  rw [saysNotMaster, Bool.and_eq_true, beq_iff_eq, Option.any_eq_true] at told
  obtain ⟨codeless, words, read, speaks⟩ := told
  cases composite : f.isComposite with
  | true =>
      rw [isReconnectable_of_isComposite composite, codeless]
      rfl
  | false =>
      cases concern : f.isWriteConcern with
      | true => simp [isReconnectable, concern]
      | false =>
          obtain ⟨before, whole⟩ := exists_text_eq_append composite concern read
          refine isReconnectable_of_occursIn codeless ?_
          have occurs := occursIn_append before "" speaks
          rwa [String.append_empty, ← whole] at occurs

end Failure

/-! ## Failures of replies -/

namespace Reply

/-- The part of a reply whose code and message count: the whole of a reply that is not in
order, and else its first write error. -/
def decisive? (reply : Document) : Option Document :=
  if isOk reply then
    match itemsAt reply "writeErrors" with
    | .document d :: _ => some d
    | _ => none
  else some reply

/-- A reply is lifted to a failure with the code and the message of its decisive part, which
is composite exactly if the reply is in order. -/
theorem exists_lift_eq_error {reply d : Document} (decisive : decisive? reply = some d) :
    ∃ f, lift reply = .error f ∧ f.code = intAt d "code" ∧
      f.message? = some (textAt d "errmsg") ∧ f.isComposite = isOk reply := by
  unfold decisive? at decisive
  cases accepted : isOk reply with
  | false =>
      rw [accepted] at decisive
      cases decisive
      exact ⟨.command (commandError reply), by simp [lift, accepted], rfl, rfl, rfl⟩
  | true =>
      rw [accepted, if_pos rfl] at decisive
      split at decisive
      next first rest errors =>
        cases decisive
        refine ⟨.writeException (writeError d :: (rest.filterMap Bson.Value.document?).map
          writeError) (concern? reply), ?_, rfl, rfl, rfl⟩
        simp [lift, accepted, errors, Bson.Value.document?]
      next => cases decisive

end Reply

namespace Failure

open Reply (decisive? isOk intAt textAt lift)

/-- A report of "not master" without a code is worth another attempt if it is the failure of
a command, of a single write or of a write concern, or plain text.  As a part of a composite
failure it is not.

So a reply that reports it for the command as a whole is tried again, and one that reports
it for the first of the documents is given up. -/
theorem notMaster_retried_unless_composite (f : Failure) (reply : Document) :
    (f.saysNotMaster = true → f.isReconnectable = !f.isComposite) ∧
      ∀ d : Document, decisive? reply = some d → intAt d "code" = 0 →
        occursIn "not master" (textAt d "errmsg") = true →
          ∃ lifted, lift reply = .error lifted ∧ lifted.saysNotMaster = true ∧
            lifted.isReconnectable = !isOk reply := by
  refine ⟨isReconnectable_of_saysNotMaster, ?_⟩
  intro d decisive codeless speaks
  obtain ⟨lifted, fails, code, read, composite⟩ := Reply.exists_lift_eq_error decisive
  have told : lifted.saysNotMaster = true := by
    rw [saysNotMaster, code, codeless, read]
    exact speaks
  exact ⟨lifted, fails, told, composite ▸ isReconnectable_of_saysNotMaster told⟩

/-- A reply that is in order, except that the first document found no primary. -/
def stepDown : Document :=
  [("ok", .int32 1),
   ("writeErrors", .array [.document [("index", .int32 0), ("errmsg", .string "not master")]])]

/-- A refused command is tried again, and a refused document is not. -/
theorem notMaster_retried_at_samples :
    (Failure.command ⟨0, none, "not master", [], none⟩).isReconnectable = true ∧
      ∃ f, lift stepDown = .error f ∧ f.saysNotMaster = true ∧ f.isReconnectable = false := by
  obtain ⟨failures, replies⟩ := notMaster_retried_unless_composite
    (.command ⟨0, none, "not master", [], none⟩) stepDown
  exact ⟨failures (by decide), replies _ rfl (by decide) (by decide)⟩

/-- The shape matters: a write exception of one write error is not tried again. -/
theorem notMaster_not_always_retried :
    ¬ ((∀ f : Failure, f.saysNotMaster = true → f.isReconnectable = true) ∧
      ∀ reply d : Document, decisive? reply = some d → intAt d "code" = 0 →
        occursIn "not master" (textAt d "errmsg") = true →
          ∃ f, lift reply = .error f ∧ f.isReconnectable = true) := by
  intro claimed
  have retried := claimed.1 (.writeException [⟨0, 0, "not master"⟩] none) (by decide)
  rw [isReconnectable_of_isComposite rfl] at retried
  exact absurd retried (by decide)

end Failure

end LogReplay
