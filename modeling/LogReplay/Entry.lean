/-
Module: LogReplay.Entry
Purpose: One entry of the operation log, and its document form.
Main exports:
  Entry, Entry.ofDocument?, Entry.toDocument, Entry.encode, Entry.noop,
  Entry.encodedLength?
-/
import LogReplay.Bson.Extended
import LogReplay.Bson.Wire
import LogReplay.Namespace

/-!
An entry says what was done (`operation`: `i`, `u`, `d`, `c` for a command, or
`n` for nothing), where (`namespace`), and with which arguments (`body` and, for
updates, `target`).  Entries of a session carry the session's id and a
transaction number, and a link to the session's previous entry.

Reading is strict about types and lenient about everything else: unknown fields
are ignored, an optional field may be null, and a missing field has a default
unless it is the operation.  Integers are not mixed with doubles, but a 64-bit
field takes a 32-bit integer, and a 32-bit field takes a 64-bit integer that
fits.  A text field takes generic bytes that encode a text.  A back link is a
record: a document, an array of its parts in order, or a value that is noted as a
record under a tag, which has neither part.

Writing lists the fields in one fixed order and leaves out what is absent.  The
documents in an entry are read and written as values: those that stand for other values
are taken for these.  Literal ones are read as they are, up to the order of option
letters, and written in their canonical form; so decimals of different bits are told
apart in an entry, and need not be in what is written.  The byte form of an entry is
written without any of this.
-/

namespace LogReplay

open Bson

/-- A link to an earlier entry. -/
structure BackLink where
  timestamp : Timestamp
  term : Option Int64
deriving DecidableEq

/-- The link of an entry that names no earlier one. -/
def BackLink.empty : BackLink :=
  ⟨.zero, none⟩

/-- A zero timestamp says that there is no earlier entry, whatever the term. -/
def BackLink.isEmpty (link : BackLink) : Bool :=
  link.timestamp.isZero

structure Entry where
  timestamp : Timestamp
  term : Option Int64
  hash : Option Int64
  version : Option Int32
  operation : String
  namespaceText : String
  collectionId : Option Binary
  body : Document
  target : Option Document
  session : Option Document
  transactionNumber : Option Int64
  statement : Option Int32
  previous : Option BackLink
deriving DecidableEq

namespace Entry

/-! ## Reading fields -/

/-- A 64-bit integer, or a 32-bit integer taken as one. -/
def long? : Value → Option Int64
  | .int64 n => some n
  | .int32 n => some n.toInt64
  | _ => none

/-- A 32-bit integer, or a 64-bit integer of that range. -/
def int? : Value → Option Int32
  | .int32 n => some n
  | .int64 n => if n.toInt32.toInt64 = n then some n.toInt32 else none
  | _ => none

/-- What is read of a value, if it is of the kind that is asked for. -/
def reading {α : Type} (kind? : Value → Option α) (value : Value) : Option α :=
  match value.read with
  | .ok read => kind? read
  | .error _ => none

/-- A field that may be missing, but not null. -/
def defaulting {α : Type} (read : Value → Option α) (default : α) :
    Option Value → Option α
  | none => some default
  | some value => read value

/-- A field that may be missing or null. -/
def optional {α : Type} (read : Value → Option α) : Option Value → Option (Option α)
  | none => some none
  | some .null => some none
  | some value => (read value).map some

/-- A link from its parts; either may be missing. -/
def backLinkOfParts? (timestamp term : Option Value) : Option BackLink := do
  let timestamp ← defaulting (reading Value.timestamp?) .zero timestamp
  let term ← optional long? term
  some ⟨timestamp, term⟩

def backLink? : Value → Option BackLink
  | .document fields =>
      backLinkOfParts? (Document.field? fields "ts") (Document.field? fields "t")
  | .array items => backLinkOfParts? items[0]? items[1]?
  | other => if other.isTagged then some .empty else none

/-- Reads an entry; `none` if the operation is missing or a field has a wrong
type. -/
def ofDocument? (d : Document) : Option Entry := do
  let timestamp ← defaulting (reading Value.timestamp?) .zero (d.field? "ts")
  let term ← optional long? (d.field? "t")
  let hash ← optional long? (d.field? "h")
  let version ← optional int? (d.field? "v")
  let operation ← (d.field? "op").bind Value.characters?
  let namespaceText ← defaulting Value.characters? "" (d.field? "ns")
  let collectionId ← optional (reading Value.binary?) (d.field? "ui")
  let body ← defaulting (reading Value.document?) [] (d.field? "o")
  let target ← optional (reading Value.document?) (d.field? "o2")
  let session ← optional (reading Value.document?) (d.field? "lsid")
  let transactionNumber ← optional long? (d.field? "txnNumber")
  let statement ← optional int? (d.field? "stmtId")
  let previous ← optional backLink? (d.field? "prevOpTime")
  some
    { timestamp, term, hash, version, operation, namespaceText, collectionId, body,
      target, session, transactionNumber, statement, previous }

/-! ## Writing -/

/-- The field, if there is a value for it. -/
def present (name : String) (value : Option Value) : Document :=
  match value with
  | none => []
  | some value => [(name, value)]

def BackLink.toDocument (link : BackLink) : Document :=
  ("ts", .timestamp link.timestamp) :: present "t" (link.term.map .int64)

/-- The fields of an entry in their order, with each document in it as a value. -/
def fields (asValue : Document → Value) (e : Entry) : Document :=
  [("ts", .timestamp e.timestamp)] ++
  present "t" (e.term.map .int64) ++
  present "h" (e.hash.map .int64) ++
  present "v" (e.version.map .int32) ++
  [("op", .string e.operation), ("ns", .string e.namespaceText)] ++
  present "ui" (e.collectionId.map .binary) ++
  [("o", asValue e.body)] ++
  present "o2" (e.target.map asValue) ++
  present "lsid" (e.session.map asValue) ++
  present "txnNumber" (e.transactionNumber.map .int64) ++
  present "stmtId" (e.statement.map .int32) ++
  present "prevOpTime" (e.previous.map fun link => .document (BackLink.toDocument link))

/-- The document form of an entry. -/
def toDocument (e : Entry) : Document :=
  e.fields Document.written

/-- The byte form of an entry. -/
def encode (e : Entry) : List UInt8 :=
  Document.encode (e.fields .document)

/-- An entry that does nothing but carry a message. -/
def noop (message : String) : Entry where
  timestamp := .zero
  term := none
  hash := none
  version := none
  operation := "n"
  namespaceText := ""
  collectionId := none
  body := [("msg", .string message)]
  target := none
  session := none
  transactionNumber := none
  statement := none
  previous := none

/-! ## Questions -/

/-- The number of bytes of an entry, if it has a byte form. -/
def encodedLength? (e : Entry) : Option Nat :=
  if Document.isEncodable (e.fields .document) then some e.encode.length else none

def isCommand (e : Entry) : Bool :=
  e.operation == "c"

/-- The first name in the body, which for a command entry is the command. -/
def commandName? (e : Entry) : Option String :=
  e.body.firstName?

/-- The entry continues an earlier entry of its session. -/
def hasPrevious (e : Entry) : Bool :=
  match e.previous with
  | none => false
  | some link => !link.isEmpty

def address (e : Entry) : Namespace :=
  .ofText e.namespaceText

end Entry

/-- The largest document that a database accepts. -/
def maxDocumentSize : Nat :=
  16 * 1024 * 1024

end LogReplay
