/-
Module: LogReplay.Proofs.Transaction.Identity
Purpose: Identities are never shared by two transactions, and no transaction has two.
Main exports:
  Document.StatesItsLength, Document.isFreeOfRegex, IsSessionId, IsSessionId.encode_inj,
  TellsApart, ofSession_tells_apart
-/
import LogReplay.Proofs.Bson.Nesting
import LogReplay.Proofs.Bson.RoundTrip
import LogReplay.Proofs.Transaction.Ledger
import LogReplay.Proofs.Transaction.Placing

/-!
An identity is made of the bytes of a session id and of a number.  The bytes can be read back,
and only the order of the option letters of regular expressions is lost; so session ids without
regular expressions have the same bytes only if they are the same, in all kinds, names, bits
and orders.

The format puts the length of a document in front of it, as a signed number of four bytes.  A
document for which this number is wrong has no form in the format, and is left out here.

A ledger keeps one record for each identity, and an entry that it accepts changes the record
of its own.  So two entries share a record exactly if their session ids and numbers are the
same.
-/

namespace LogReplay.Bson

open Number (fromLittleEndian fromLittleEndian_littleEndian length_littleEndian)

/-! ## Lengths -/

/-- The signed number in the first four bytes of the document is the number of its bytes. -/
def Document.StatesItsLength (d : Document) : Prop :=
  (UInt32.ofNat (fromLittleEndian (d.encode.take 4))).toInt32.toInt = d.encode.length

/-- These are the documents whose number of bytes is a signed number of four bytes. -/
theorem Document.statesItsLength_iff {d : Document} :
    d.StatesItsLength ↔ d.wireSize < maxWireSize := by
  have front : UInt32.ofNat (fromLittleEndian (d.encode.take 4)) = UInt32.ofNat d.wireSize := by
    rw [Document.encode, framed, List.append_assoc, List.take_left' (length_littleEndian _ _),
      fromLittleEndian_littleEndian, length_encodeFields, Document.wireSize]
    exact UInt32.ofNat_mod_size
  rw [StatesItsLength, front, UInt32.toInt32_ofNat', Document.length_encode]
  constructor
  · intro stated
    have small := (Int32.ofNat d.wireSize).toInt_lt
    rw [stated] at small
    exact Int.ofNat_lt.mp small
  · exact Int32.toInt_ofNat_of_lt

/-! ## Regular expressions -/

def Value.isRegex : Value → Bool
  | .regex _ _ => true
  | _ => false

/-- There is no regular expression in the document, at any depth. -/
def Document.isFreeOfRegex (d : Document) : Bool :=
  (Value.document d).throughout fun part => !part.isRegex

theorem respellFields_eq_self {s : Spelling} {fields : List (String × Value)}
    (same : ∀ part ∈ fields.map Prod.snd, part.respell s = part) :
    respellFields s fields = fields := by
  induction fields with
  | nil => rfl
  | cons field rest inductionHypothesis =>
      obtain ⟨first, others⟩ := List.forall_mem_cons.mp same
      rw [respellFields, first, inductionHypothesis others]

theorem respellItems_eq_self {s : Spelling} {items : List Value}
    (same : ∀ item ∈ items, item.respell s = item) : respellItems s items = items := by
  induction items with
  | nil => rfl
  | cons item rest inductionHypothesis =>
      obtain ⟨first, others⟩ := List.forall_mem_cons.mp same
      rw [respellItems, first, inductionHypothesis others]

/-- Without regular expressions there are no option letters to be put in order. -/
theorem Value.ordered_eq_self {v : Value}
    (free : v.throughout (fun part => !part.isRegex) = true) : v.ordered = v := by
  induction v using induction_on_parts with
  | step v inductionHypothesis =>
      obtain ⟨here, below⟩ := throughout_iff.mp free
      have same : ∀ part ∈ v.parts, part.respell .ordered = part := fun part member =>
        inductionHypothesis part member (below part member)
      cases v with
      | document fields => exact congrArg document (respellFields_eq_self same)
      | array items => exact congrArg array (respellItems_eq_self same)
      | javaScriptWithScope code scope =>
          exact congrArg (javaScriptWithScope code) (respellFields_eq_self same)
      | regex => cases here
      | _ => rfl

theorem Document.ordered_eq_self {d : Document} (free : d.isFreeOfRegex = true) :
    Document.ordered d = d :=
  Value.document.inj (Value.ordered_eq_self free)

end LogReplay.Bson

namespace LogReplay.Transaction

open Bson

/-- A document that identities are made of: its names have no NUL, there is no regular
expression in it, and it has a form with a length. -/
structure IsSessionId (session : Document) : Prop where
  encodable : session.isEncodable = true
  regexFree : session.isFreeOfRegex = true
  measured : session.StatesItsLength

/-- Session ids with the same bytes are the same, in all kinds, names, bits and orders. -/
theorem IsSessionId.encode_inj {a b : Document} (first : IsSessionId a) (second : IsSessionId b) :
    a.encode = b.encode ↔ a = b := by
  constructor
  · intro same
    have ordered := Document.ordered_eq_of_encode_eq first.encodable
      (Document.statesItsLength_iff.mp first.measured) second.encodable
      (Document.statesItsLength_iff.mp second.measured) same
    rwa [Document.ordered_eq_self first.regexFree, Document.ordered_eq_self second.regexFree]
      at ordered
  · exact congrArg Document.encode

/-- A session id of a numbered transaction has an identity. -/
theorem IsSessionId.ofSession_eq {a : Document} (id : IsSessionId a) (n : Int64) :
    Identity.ofSession a n = .ok ⟨a.encode, n⟩ :=
  ofSession_of_encodable id.encodable

theorem ofSession_ne_none {session : Document} {number : Int64} {id : Identity}
    (made : Identity.ofSession session number = .ok id) : id ≠ .none := by
  rintro rfl
  exact nomatch Identity.isNone_eq_false_of_ofSession made

/-! ## Entries -/

/-- An entry of a transaction has a session id and a number, and these are its identity. -/
theorem exists_session_of_isTransactional {e : Entry} {p : Placement}
    (placed : Placement.ofEntry e = .ok p) (inside : p.isTransactional = true) :
    ∃ session number, e.session = some session ∧ e.transactionNumber = some number ∧
      p.identity = ⟨session.encode, number⟩ := by
  rcases takesPart_or_outside e with ⟨name, session, number, part⟩ | outside
  · exact ⟨session, number, part.session, part.number, (part.stands placed).identity⟩
  · rw [outside] at placed
    cases placed
    cases inside

/-- An accepted entry never leaves the record of its transaction as it was. -/
theorem Advances.ne {entry : Entry} {role : Role} {record : Option Progress}
    {progress : Progress} (advances : Advances entry role record progress) :
    some progress ≠ record := by
  cases advances <;> simp

theorem Ledger.progress?_add_ne_iff {l after : Ledger} {place : Placement} {entry : Entry}
    {id : Identity} (added : l.add place entry = .ok after) :
    after.progress? id ≠ l.progress? id ↔ place.identity = id := by
  constructor
  · intro changed
    exact Decidable.byContradiction fun different =>
      changed (progress?_add_of_ne (Ne.symm different) added)
  · rintro rfl
    obtain ⟨progress, advances, rfl⟩ := exists_advances_of_add added
    rw [progress?_put_self]
    exact advances.ne

/-- The session ids and the numbers of two entries are the same. -/
def SameSession (e f : Entry) : Prop :=
  e.session = f.session ∧ e.transactionNumber = f.transactionNumber

theorem identity_eq_iff {a b : Document} {e f : Entry} {p q : Placement} (first : IsSessionId a)
    (second : IsSessionId b) (ofFirst : e.session = some a) (ofSecond : f.session = some b)
    (placed : Placement.ofEntry e = .ok p) (placed' : Placement.ofEntry f = .ok q)
    (inside : p.isTransactional = true) (inside' : q.isTransactional = true) :
    p.identity = q.identity ↔ SameSession e f := by
  obtain ⟨_, n, known, numbered, own⟩ := exists_session_of_isTransactional placed inside
  obtain ⟨_, m, known', numbered', own'⟩ := exists_session_of_isTransactional placed' inside'
  rw [ofFirst] at known
  rw [ofSecond] at known'
  cases known
  cases known'
  rw [own, own', Identity.mk.injEq, first.encode_inj second, SameSession, ofFirst, ofSecond,
    numbered, numbered', Option.some.injEq, Option.some.injEq]

/-- Two session ids and numbers are told apart, and their transactions are. -/
structure TellsApart (a b : Document) (n m : Int64) : Prop where
  made : ∃ one two, Identity.ofSession a n = .ok one ∧ Identity.ofSession b m = .ok two ∧
    (one = two ↔ n = m ∧ a = b)
  nonzero : ∀ session number id, Identity.ofSession session number = .ok id →
    id ≠ .none ∧ id.isNone = false
  /-- An entry of a transaction that is taken in changes what is recorded for exactly those
  entries that have the same session id and number. -/
  shared : ∀ e f p q, e.session = some a → f.session = some b →
    Placement.ofEntry e = .ok p → Placement.ofEntry f = .ok q →
    p.isTransactional = true → q.isTransactional = true →
    (p.identity = q.identity ↔ SameSession e f) ∧
      ∀ l after, Ledger.add l p e = .ok after →
        (after.progress? q.identity ≠ l.progress? q.identity ↔ SameSession e f)

/-- Identities never merge two transactions, and never split one. -/
theorem ofSession_tells_apart {a b : Document} (n m : Int64) (first : IsSessionId a)
    (second : IsSessionId b) : TellsApart a b n m where
  made := by
    refine ⟨_, _, first.ofSession_eq n, second.ofSession_eq m, ?_⟩
    rw [Identity.mk.injEq, first.encode_inj second, and_comm]
  nonzero := fun _ _ _ made =>
    ⟨ofSession_ne_none made, Identity.isNone_eq_false_of_ofSession made⟩
  shared := by
    intro e f p q ofFirst ofSecond placed placed' inside inside'
    have same := identity_eq_iff first second ofFirst ofSecond placed placed' inside inside'
    refine ⟨same, fun l after added => ?_⟩
    rw [Ledger.progress?_add_ne_iff added, same]

/-- A transaction in one entry. -/
def loneEntry (session : Document) : Entry :=
  { Entry.noop "" with
    operation := "c"
    body := [("applyOps", .array [])]
    session := some session
    transactionNumber := some 1 }

/-- Two session ids that differ in the width of an integer and in the sign of a zero. -/
def narrowSession : Document :=
  [("id", .int32 1), ("w", .document [("z", .double .zero)])]

def wideSession : Document :=
  [("id", .int64 1), ("w", .document [("z", .double ⟨0x8000000000000000⟩)])]

theorem isSessionId_narrowSession : IsSessionId narrowSession where
  encodable := by decide
  regexFree := by decide
  measured := Document.statesItsLength_iff.mpr (by decide)

theorem isSessionId_wideSession : IsSessionId wideSession where
  encodable := by decide
  regexFree := by decide
  measured := Document.statesItsLength_iff.mpr (by decide)

theorem placed_loneEntry {session : Document} (id : IsSessionId session) :
    Placement.ofEntry (loneEntry session) = .ok ⟨⟨session.encode, 1⟩, .single, false⟩ := by
  have part : TakesPart (loneEntry session) "applyOps" session 1 :=
    ⟨rfl, rfl, List.mem_cons_self, rfl, rfl⟩
  rw [part.ofEntry_applyOps id.encodable]
  rfl

/-- The two have different identities, and a transaction of the one leaves what is recorded of
the other. -/
theorem narrow_and_wide_told_apart :
    Identity.ofSession narrowSession 1 ≠ Identity.ofSession wideSession 1 ∧
      ∃ after, Ledger.empty.add ⟨⟨narrowSession.encode, 1⟩, .single, false⟩
          (loneEntry narrowSession) = .ok after ∧
        after.progress? ⟨wideSession.encode, 1⟩ = none := by
  have different : narrowSession ≠ wideSession := by decide
  obtain ⟨⟨one, two, made, made', apart⟩, -, shared⟩ :=
    ofSession_tells_apart 1 1 isSessionId_narrowSession isSessionId_wideSession
  refine ⟨?_, _, rfl, ?_⟩
  · rw [made, made', ne_eq, Except.ok.injEq, apart]
    exact fun same => different same.2
  · have changes := (shared _ _ _ _ rfl rfl (placed_loneEntry isSessionId_narrowSession)
      (placed_loneEntry isSessionId_wideSession) rfl rfl).2 .empty _ rfl
    exact Decidable.byContradiction fun changed =>
      different (Option.some.inj (changes.mp changed).1)

end LogReplay.Transaction
