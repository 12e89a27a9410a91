/-
Module: LogReplay.Proofs.Transaction.Chain
Purpose: The entries that a database writes for one transaction, and where each belongs.
Main exports:
  Shape, Chain, Chain.Apart, Chain.apart_of_read, Chain.place, Chain.ofEntry_eq_place,
  Chain.predicates_place, Chain.identity_ne
-/
import LogReplay.Proofs.Bson.RoundTrip
import LogReplay.Proofs.Entry.Literal
import LogReplay.Proofs.Transaction.Contents
import LogReplay.Proofs.Transaction.Placing

/-!
A transaction is written as entries of one session and one number.  Each but the first is
linked to the one before it, and the last one commits or aborts:

* one `applyOps` without flags;
* partial ones, closed by an `applyOps` without flags;
* partial ones and a prepared one, closed by `commitTransaction`;
* partial or prepared ones, closed by `abortTransaction`.

A chain is a list of entries with the proof that it is of this kind.  Every entry of a chain
is placed in the transaction of the chain, at a role that only depends on its position.
-/

namespace LogReplay.Transaction

open Bson

/-- An `applyOps` entry with these flags, and operations that can be read. -/
structure Carries (e : Entry) (isPartial isPrepared : Bool) : Prop where
  command : e.commandName? = some "applyOps"
  partialFlag : readFlag e.body "partialTxn" = .ok isPartial
  preparedFlag : readFlag e.body "prepare" = .ok isPrepared
  readable : (operationsIn? e).isSome = true

/-- More of the transaction follows, as far as the entry itself says. -/
def IsPart (e : Entry) : Prop :=
  ∃ isPrepared, Carries e true isPrepared

def IsPrepared (e : Entry) : Prop :=
  ∃ isPartial, Carries e isPartial true

/-- The ways to write a transaction, as the entries before the last and the last. -/
inductive Shape : (committed : Bool) → (opening : List Entry) → (closing : Entry) → Prop where
  | whole {closing : Entry} (plain : Carries closing false false) : Shape true [] closing
  | parts {opening : List Entry} {closing : Entry} (several : opening ≠ [])
      (parts : ∀ e ∈ opening, IsPart e) (plain : Carries closing false false) :
      Shape true opening closing
  | prepared {parts : List Entry} {prepared closing : Entry} (unfinished : ∀ e ∈ parts, IsPart e)
      (last : IsPrepared prepared) (commits : closing.commandName? = some "commitTransaction") :
      Shape true (parts ++ [prepared]) closing
  | aborted {opening : List Entry} {closing : Entry} (several : opening ≠ [])
      (unfinished : ∀ e ∈ opening, IsPart e ∨ IsPrepared e)
      (aborts : closing.commandName? = some "abortTransaction") :
      Shape false opening closing

/-- An entry of a transaction that is written as a chain. -/
structure Belongs (session : Document) (number : Int64) (e : Entry) : Prop where
  command : e.isCommand = true
  session : e.session = some session
  number : e.transactionNumber = some number

theorem Belongs.takesPart {session : Document} {number : Int64} {e : Entry}
    (belongs : Belongs session number e) {name : String} (named : e.commandName? = some name)
    (known : name ∈ transactionCommands) : TakesPart e name session number where
  operation := eq_of_beq belongs.command
  named := named
  known := known
  session := belongs.session
  number := belongs.number

/-- A transaction as a database writes it. -/
structure Chain where
  session : Document
  number : Int64
  committed : Bool
  opening : List Entry
  closing : Entry
  /-- The session id has a byte form, and the form has a length. -/
  encodable : session.isEncodable = true
  bounded : session.wireSize < maxWireSize
  shape : Shape committed opening closing
  belong : ∀ e ∈ opening ++ [closing], Belongs session number e
  /-- The first entry is linked to none, and each later one to another. -/
  linked : (opening ++ [closing]).map Entry.hasPrevious =
    false :: List.replicate opening.length true

namespace Chain

def entries (c : Chain) : List Entry :=
  c.opening ++ [c.closing]

/-- Two transactions with different numbers or different sessions.  Session ids that differ
in nothing but the order of option letters are the same in every entry that is read. -/
def Apart (c d : Chain) : Prop :=
  (Document.ordered c.session, c.number) ≠ (Document.ordered d.session, d.number)

def identity (c : Chain) : Identity :=
  ⟨c.session.encode, c.number⟩

/-- Different transactions have different identities. -/
theorem identity_ne {c d : Chain} (apart : c.Apart d) : c.identity ≠ d.identity := by
  intro same
  obtain ⟨bytes, numbers⟩ := Identity.mk.inj same
  have sessions :=
    Document.ordered_eq_of_encode_eq c.encodable c.bounded d.encodable d.bounded bytes
  exact apart (by rw [sessions, numbers])

/-- Session ids that were read have their option letters in order. -/
theorem ordered_session_of_ofDocument? {document session : Document} {e : Entry}
    (read : Entry.ofDocument? document = some e) (known : e.session = some session) :
    Document.ordered session = session := by
  have member := Entry.mem_documents.mpr (.inr (.inr known))
  exact Value.document.inj (Entry.isSettled_of_ofDocument? read member).ordered

/-- Transactions that were read are apart as soon as their numbers or sessions differ. -/
theorem apart_of_read {c d : Chain} {document other : Document}
    (read : Entry.ofDocument? document = some c.closing)
    (alsoRead : Entry.ofDocument? other = some d.closing)
    (different : (c.session, c.number) ≠ (d.session, d.number)) : c.Apart d := by
  have closingBelongs (c : Chain) : Belongs c.session c.number c.closing :=
    c.belong c.closing (List.mem_append_right _ (List.mem_singleton_self _))
  rw [Apart, ordered_session_of_ofDocument? read (closingBelongs c).session,
    ordered_session_of_ofDocument? alsoRead (closingBelongs d).session]
  exact different

/-! ## Roles by position -/

/-- The role at a position. -/
def role (c : Chain) (position : Nat) : Role :=
  if position < c.opening.length then
    if position = 0 then .firstOfMany else .continuation
  else if c.committed then
    if position = 0 then .single else .finalCommit
  else .finalAbort

def place (c : Chain) (position : Nat) : Placement :=
  ⟨c.identity, c.role position, decide (0 < c.opening.length)⟩

variable {c : Chain} {position : Nat} {e : Entry}

theorem hasPrevious_eq (found : c.entries[position]? = some e) :
    e.hasPrevious = decide (0 < position) := by
  have link : (c.entries.map Entry.hasPrevious)[position]? = some e.hasPrevious := by
    rw [List.getElem?_map, found]
    rfl
  rw [entries, c.linked] at link
  cases position with
  | zero => exact (Option.some.inj link).symm
  | succ position =>
      rw [List.getElem?_cons_succ, List.getElem?_replicate] at link
      split at link
      · exact (Option.some.inj link).symm
      · cases link

/-- An entry before the last is an `applyOps` entry that says that more is to come. -/
theorem exists_carries_of_mem_opening (member : e ∈ c.opening) :
    ∃ isPartial isPrepared, Carries e isPartial isPrepared ∧ (isPartial || isPrepared) = true := by
  have ofPart {e : Entry} : IsPart e → ∃ p q, Carries e p q ∧ (p || q) = true := by
    rintro ⟨isPrepared, carries⟩
    exact ⟨true, isPrepared, carries, rfl⟩
  have ofPrepared {e : Entry} : IsPrepared e → ∃ p q, Carries e p q ∧ (p || q) = true := by
    rintro ⟨isPartial, carries⟩
    exact ⟨isPartial, true, carries, Bool.or_true isPartial⟩
  have shape := c.shape
  generalize c.committed = committed at shape
  generalize c.opening = opening at shape member
  cases shape with
  | whole => cases member
  | parts _ parts _ => exact ofPart (parts e member)
  | prepared unfinished last _ =>
      rcases List.mem_append.mp member with early | late
      · exact ofPart (unfinished e early)
      · cases List.mem_singleton.mp late
        exact ofPrepared last
  | aborted _ unfinished _ => exact (unfinished e member).elim ofPart ofPrepared

/-- How the last entry ends the transaction. -/
inductive Closes : (committed : Bool) → (before : Nat) → Entry → Prop where
  | plain {before : Nat} {closing : Entry} (carries : Carries closing false false) :
      Closes true before closing
  | commits {before : Nat} {closing : Entry} (later : 0 < before)
      (command : closing.commandName? = some "commitTransaction") : Closes true before closing
  | aborts {before : Nat} {closing : Entry} (later : 0 < before)
      (command : closing.commandName? = some "abortTransaction") : Closes false before closing

theorem closes (c : Chain) : Closes c.committed c.opening.length c.closing := by
  have shape := c.shape
  generalize c.opening = opening at shape
  generalize c.committed = committed at shape
  cases shape with
  | whole plain => exact .plain plain
  | parts _ _ plain => exact .plain plain
  | prepared _ _ commits => exact .commits (by simp) commits
  | aborted several _ aborts => exact .aborts (List.length_pos_iff.mpr several) aborts

/-- Every entry of a chain carries operations that can be read, or none. -/
theorem isSome_operationsIn? (member : e ∈ c.entries) : (operationsIn? e).isSome = true := by
  rcases List.mem_append.mp member with early | last
  · obtain ⟨_, _, carries, _⟩ := exists_carries_of_mem_opening early
    exact carries.readable
  · cases List.mem_singleton.mp last
    have closes := c.closes
    generalize c.committed = committed at closes
    cases closes with
    | plain carries => exact carries.readable
    | commits _ command | aborts _ command =>
        rw [operationsIn?, command]
        rfl

/-! ## Placing the entries -/

theorem ofEntry_of_carries {isPartial isPrepared : Bool} (belongs : Belongs c.session c.number e)
    (carries : Carries e isPartial isPrepared) :
    Placement.ofEntry e =
      .ok (.ofApplyOps c.identity e.hasPrevious (isPartial || isPrepared)) := by
  have part := belongs.takesPart carries.command (by decide)
  rw [part.ofEntry_applyOps c.encodable, carries.partialFlag, carries.preparedFlag]
  rfl

/-- An entry of a chain is placed by its position. -/
theorem ofEntry_eq_place (found : c.entries[position]? = some e) :
    Placement.ofEntry e = .ok (c.place position) := by
  have belongs := c.belong e (List.mem_of_getElem? found)
  have linked := hasPrevious_eq found
  by_cases early : position < c.opening.length
  · have member : e ∈ c.opening := by
      rw [entries, List.getElem?_append_left early] at found
      exact List.mem_of_getElem? found
    obtain ⟨isPartial, isPrepared, carries, unfinished⟩ := exists_carries_of_mem_opening member
    have several : 0 < c.opening.length := Nat.zero_lt_of_lt early
    rw [ofEntry_of_carries belongs carries, unfinished, linked, place, role, if_pos early]
    cases position <;> simp [Placement.ofApplyOps, several]
  · have atEnd : position = c.opening.length ∧ e = c.closing := by
      rw [entries, List.getElem?_append_right (Nat.le_of_not_lt early),
        List.getElem?_singleton] at found
      split at found
      · exact ⟨by omega, (Option.some.inj found).symm⟩
      · cases found
    obtain ⟨rfl, rfl⟩ := atEnd
    have closes := c.closes
    rw [place, role, if_neg early]
    generalize c.committed = committed at closes
    generalize c.opening.length = before at closes linked early
    cases closes with
    | plain carries =>
        rw [ofEntry_of_carries belongs carries, linked]
        cases before <;> simp [Placement.ofApplyOps]
    | commits later command =>
        rw [(belongs.takesPart command (by decide)).ofEntry_commit c.encodable, linked]
        simp [identity, Nat.ne_of_gt later]
    | aborts later command =>
        rw [(belongs.takesPart command (by decide)).ofEntry_abort c.encodable, linked]
        simp [identity]

/-! ## What the places tell -/

/-- The role before the last position. -/
theorem role_opening (early : position < c.opening.length) :
    position = 0 ∧ c.role position = .firstOfMany ∨
      position ≠ 0 ∧ c.role position = .continuation := by
  rw [role, if_pos early]
  by_cases first : position = 0
  · exact .inl ⟨first, if_pos first⟩
  · exact .inr ⟨first, if_neg first⟩

/-- The role at the last position. -/
theorem role_closing (c : Chain) :
    c.committed = true ∧ c.opening.length = 0 ∧ c.role c.opening.length = .single ∨
      c.committed = true ∧ 0 < c.opening.length ∧ c.role c.opening.length = .finalCommit ∨
        c.committed = false ∧ 0 < c.opening.length ∧ c.role c.opening.length = .finalAbort := by
  have closes := c.closes
  rw [role, if_neg (Nat.lt_irrefl _)]
  generalize c.committed = committed at closes
  cases closes with
  | plain =>
      rcases Nat.eq_zero_or_pos c.opening.length with alone | later
      · exact .inl ⟨rfl, alone, if_pos alone⟩
      · exact .inr (.inl ⟨rfl, later, if_neg (Nat.ne_of_gt later)⟩)
  | commits later => exact .inr (.inl ⟨rfl, later, if_neg (Nat.ne_of_gt later)⟩)
  | aborts later => exact .inr (.inr ⟨rfl, later, rfl⟩)

/-- The predicates of a place, by its position. -/
theorem predicates_place (inside : position ≤ c.opening.length) :
    (c.place position).isTransactional = true ∧
      (c.place position).isFirst = decide (position = 0) ∧
        (c.place position).isFinal = decide (position = c.opening.length) ∧
          (c.place position).isCommit =
              (c.committed && decide (position = c.opening.length)) ∧
            (c.place position).isAbort =
              (!c.committed && decide (position = c.opening.length)) := by
  simp only [place, Placement.isTransactional, Placement.isFirst, Placement.isFinal,
    Placement.isCommit, Placement.isAbort]
  rcases Nat.lt_or_eq_of_le inside with early | rfl
  · rcases role_opening early with ⟨rfl, role⟩ | ⟨later, role⟩
    · simp [role, Nat.ne_of_lt early]
    · simp [role, later, Nat.ne_of_lt early]
  · rcases c.role_closing with ⟨committed, alone, role⟩ | ⟨committed, later, role⟩ |
      ⟨aborted, later, role⟩
    · rw [alone] at role
      simp [role, committed, alone]
    · simp [role, committed, Nat.ne_of_gt later]
    · simp [role, aborted, Nat.ne_of_gt later]

end Chain

end LogReplay.Transaction
