/-
Module: LogReplay.Proofs.Entry.NormalForm
Purpose: Reading an entry and writing it are inverse on the normal form.
Main exports:
  Entry.rows, Entry.wireFields, Entry.normalForm, Entry.PassesThrough, Entry.canonical,
  Entry.RoundTrips, Entry.roundTrips
-/
import LogReplay.Proofs.Entry.Literal
import LogReplay.Proofs.Transaction.Placing

/-!
A document of an entry is laid out from rows: a name, and a value unless the field is left
out.  The rows of an entry have one fixed order and different names, so what was written can
be looked up by name, and reading finds every field again.

`wireFields` is the table of the fields: whether a field has to be there, stands for a default
or may be left out, and how its value is rewritten.  The normal form of a document keeps the
fields of the table, rewritten and in their order, and drops everything else.  A document that
was read as an entry is written in its normal form.

The documents within an entry that was read are literal, and are written in their canonical
form.  Where that leaves them unchanged they pass through, and reading gives the entry back as
it was.  An entry that was put together in another way may hold documents that stand for other
values; these are not written as documents, so the laws ask for literal ones.
-/

namespace LogReplay

open Bson

namespace Entry

/-! ## Rows -/

/-- The document with a field for each row that has a value. -/
def lay (rows : List (String × Option Value)) : Document :=
  rows.flatMap fun row => present row.1 row.2

theorem names_lay (rows : List (String × Option Value)) :
    (lay rows).names = (rows.filter fun row => row.2.isSome).map Prod.fst := by
  induction rows with
  | nil => rfl
  | cons row rest inductionHypothesis =>
      obtain ⟨name, value⟩ := row
      have step : (lay ((name, value) :: rest)).names =
          (present name value).names ++ (lay rest).names :=
        List.map_append
      rw [step, inductionHypothesis]
      cases value <;> rfl

/-- Where the names of rows differ, a field has the value of its row. -/
theorem field?_lay {rows : List (String × Option Value)} (distinct : (rows.map Prod.fst).Nodup)
    {name : String} {value : Option Value} (row : (name, value) ∈ rows) :
    (lay rows).field? name = value := by
  induction rows with
  | nil => cases row
  | cons first rest inductionHypothesis =>
      obtain ⟨key, found⟩ := first
      obtain ⟨fresh, later⟩ := List.nodup_cons.mp distinct
      have step : (lay ((key, found) :: rest)).field? name =
          (Document.field? (present key found) name).or ((lay rest).field? name) :=
        Document.field?_append _ _ name
      rw [step]
      rcases List.mem_cons.mp row with same | other
      · cases same
        have missing : (lay rest).field? name = none := by
          refine Document.field?_eq_none_of_not_mem fun there => fresh ?_
          rw [names_lay] at there
          exact (List.filter_sublist.map Prod.fst).subset there
        rw [missing]
        cases value <;> simp [present, Document.field?_cons]
      · have different : key ≠ name := by
          rintro rfl
          exact fresh (List.mem_map.mpr ⟨_, other, rfl⟩)
        rw [inductionHypothesis later other]
        cases found <;> simp [present, Document.field?_cons, different]

/-- The rows of an entry, with each document in it as a value. -/
def rows (asValue : Document → Value) (e : Entry) : List (String × Option Value) :=
  [("ts", some (.timestamp e.timestamp)),
   ("t", e.term.map .int64),
   ("h", e.hash.map .int64),
   ("v", e.version.map .int32),
   ("op", some (.string e.operation)),
   ("ns", some (.string e.namespaceText)),
   ("ui", e.collectionId.map .binary),
   ("o", some (asValue e.body)),
   ("o2", e.target.map asValue),
   ("lsid", e.session.map asValue),
   ("txnNumber", e.transactionNumber.map .int64),
   ("stmtId", e.statement.map .int32),
   ("prevOpTime", e.previous.map fun link => .document (BackLink.toDocument link))]

theorem fields_eq_lay (asValue : Document → Value) (e : Entry) :
    e.fields asValue = lay (e.rows asValue) := by
  simp only [fields, lay, rows, List.flatMap_cons, List.flatMap_nil, List.append_assoc,
    List.append_nil]
  rfl

theorem field?_fields {asValue : Document → Value} (e : Entry) {name : String}
    {value : Option Value} (row : (name, value) ∈ e.rows asValue) :
    Document.field? (e.fields asValue) name = value := by
  rw [fields_eq_lay]
  have names : (e.rows asValue).map Prod.fst = ["ts", "t", "h", "v", "op", "ns", "ui", "o", "o2",
    "lsid", "txnNumber", "stmtId", "prevOpTime"] := rfl
  exact field?_lay (by rw [names]; decide) row

/-- What an entry has depends on what its documents are taken for. -/
theorem fields_congr {e : Entry} {asValue other : Document → Value}
    (same : ∀ d ∈ e.documents, asValue d = other d) : e.fields asValue = e.fields other := by
  have body : asValue e.body = other e.body := same _ (mem_documents.mpr (.inl rfl))
  have target : e.target.map asValue = e.target.map other :=
    Option.map_congr fun d known => same d (mem_documents.mpr (.inr (.inl known)))
  have session : e.session.map asValue = e.session.map other :=
    Option.map_congr fun d known => same d (mem_documents.mpr (.inr (.inr known)))
  simp only [fields, body, target, session]

/-! ## Reading what was written -/

/-- Nothing is changed when the documents in the entry are written. -/
structure PassesThrough (e : Entry) : Prop where
  literal : e.IsLiteral
  body : Document.canonical e.body = e.body
  target : e.target.map Document.canonical = e.target
  session : e.session.map Document.canonical = e.session

/-- The entry with its documents in canonical form. -/
def canonical (e : Entry) : Entry :=
  { e with
    body := Document.canonical e.body
    target := e.target.map Document.canonical
    session := e.session.map Document.canonical }

theorem PassesThrough.canonical_eq {e : Entry} (passes : e.PassesThrough) : e.canonical = e := by
  rw [canonical, passes.body, passes.target, passes.session]

theorem canonical_canonical (e : Entry) : e.canonical.canonical = e.canonical := by
  simp [canonical, Document.canonical_canonical, Function.comp_def]

theorem documents_canonical (e : Entry) :
    e.canonical.documents = e.documents.map Document.canonical := by
  simp only [documents, canonical, List.map_cons, List.map_append, Option.toList_map]

/-- A literal entry is written with its documents in canonical form. -/
theorem IsLiteral.toDocument_eq {e : Entry} (literal : e.IsLiteral) :
    e.toDocument = e.canonical.fields .document := by
  have whole : e.canonical.fields .document =
      e.fields fun d => .document (Document.canonical d) := by
    simp only [fields, canonical, Option.map_map]
    rfl
  rw [whole]
  exact fields_congr fun d member => Document.written_of_isLiteral (literal d member)

theorem IsLiteral.canonical {e : Entry} (literal : e.IsLiteral) : e.canonical.IsLiteral := by
  intro d member
  rw [documents_canonical] at member
  obtain ⟨own, among, rfl⟩ := List.mem_map.mp member
  exact (Value.isSettled_canonical (v := .document own) (literal own among)).literal

theorem IsLiteral.toDocument_canonical {e : Entry} (literal : e.IsLiteral) :
    e.canonical.toDocument = e.toDocument := by
  rw [literal.canonical.toDocument_eq, canonical_canonical, literal.toDocument_eq]

/-- An optional field is read as it was written. -/
theorem optional_map {α : Type} (read : Value → Option α) (write : α → Value) {x : Option α}
    (reads : ∀ a, x = some a → read (write a) = some a) (notNull : ∀ a, write a ≠ .null) :
    optional read (x.map write) = some x := by
  cases x with
  | none => rfl
  | some a =>
      have value : optional read (some (write a)) = (read (write a)).map some := by
        rw [optional.eq_def]
        split
        · next absent => cases absent
        · next null => exact absurd (Option.some.inj null) (notNull a)
        · next other => cases other; rfl
      rw [Option.map_some, value, reads a rfl]
      rfl

theorem reading_document {d : Document} (settled : (Value.document d).IsSettled) :
    reading Value.document? (.document d) = some d := by
  rw [reading, settled.read]
  rfl

theorem backLink?_toDocument (link : BackLink) :
    backLink? (.document (BackLink.toDocument link)) = some link := by
  obtain ⟨timestamp, _ | term⟩ := link <;> rfl

/-- An entry whose documents are settled is read as it is. -/
theorem ofDocument?_fields {e : Entry}
    (settled : ∀ d ∈ e.documents, (Value.document d).IsSettled) :
    ofDocument? (e.fields .document) = some e := by
  have found : (e.rows .document).map (fun row => Document.field? (e.fields .document) row.1) =
      (e.rows .document).map Prod.snd :=
    List.map_congr_left fun row member => e.field?_fields member
  simp only [rows, List.map_cons, List.map_nil, List.cons.injEq, and_true] at found
  obtain ⟨ts, term, hash, version, operation, ns, identifier, body, target, session, number,
    statement, link⟩ := found
  have longs (x : Option Int64) := optional_map long? .int64 (x := x) (fun _ _ => rfl) (by simp)
  have ints (x : Option Int32) := optional_map int? .int32 (x := x) (fun _ _ => rfl) (by simp)
  have binaries (x : Option Binary) :=
    optional_map (reading Value.binary?) .binary (x := x) (fun _ _ => rfl) (by simp)
  have links (x : Option BackLink) :=
    optional_map backLink? (fun link => .document (BackLink.toDocument link)) (x := x)
      (fun link _ => backLink?_toDocument link) (by simp)
  have embedded {d : Document} (member : d ∈ e.documents) :
      reading Value.document? (.document d) = some d :=
    reading_document (settled d member)
  have targets := optional_map (reading Value.document?) .document (x := e.target)
    (fun d known => embedded (mem_documents.mpr (.inr (.inl known)))) (by simp)
  have sessions := optional_map (reading Value.document?) .document (x := e.session)
    (fun d known => embedded (mem_documents.mpr (.inr (.inr known)))) (by simp)
  have whole : defaulting (reading Value.document?) [] (some (.document e.body)) = some e.body :=
    embedded (mem_documents.mpr (.inl rfl))
  rw [ofDocument?, ts, term, hash, version, operation, ns, identifier, body, target, session,
    number, statement, link]
  simp only [longs, ints, binaries, targets, sessions, links, whole]
  rfl

/-- What was written is read again, with the documents in canonical form. -/
theorem IsLiteral.ofDocument?_toDocument {e : Entry} (literal : e.IsLiteral) :
    ofDocument? e.toDocument = some e.canonical := by
  rw [literal.toDocument_eq]
  refine ofDocument?_fields fun d member => ?_
  rw [documents_canonical] at member
  obtain ⟨own, among, rfl⟩ := List.mem_map.mp member
  exact Value.isSettled_canonical (v := .document own) (literal own among)

/-! ## The normal form of a document -/

/-- A 64-bit integer in place of a 32-bit one. -/
def widened : Value → Value
  | .int32 n => .int64 n.toInt64
  | other => other

/-- A 32-bit integer in place of a 64-bit one. -/
def narrowed : Value → Value
  | .int64 n => .int32 n.toInt32
  | other => other

/-- What a value is read as, if it can be read. -/
def reread (v : Value) : Value :=
  match v.read with
  | .ok read => read
  | .error _ => v

/-- What a document is read as, in canonical form. -/
def normalized (v : Value) : Value :=
  (reread v).canonical

/-- A string in place of bytes that encode it. -/
def plain (v : Value) : Value :=
  match v.characters? with
  | some text => .string text
  | none => v

/-- The value, unless it is null. -/
def nonNull : Option Value → Option Value
  | some .null => none
  | other => other

/-- The document of a link of these parts. -/
def linkDocument (timestamp term : Option Value) : Document :=
  lay [("ts", some (reread (timestamp.getD (.timestamp .zero)))),
    ("t", (nonNull term).map widened)]

/-- The document of a link, in place of an array of its parts or of a record without any. -/
def linked : Value → Value
  | .document fields =>
      .document (linkDocument (Document.field? fields "ts") (Document.field? fields "t"))
  | .array items => .document (linkDocument items[0]? items[1]?)
  | _ => .document (linkDocument none none)

/-- Whether a field has to be there. -/
inductive Presence where
  | required
  /-- A missing field stands for this value. -/
  | defaulting (value : Value)
  /-- The field may be missing or null, and is left out then. -/
  | optional
deriving DecidableEq

/-- A field that is read and written. -/
structure WireField where
  name : String
  presence : Presence
  /-- How a value is rewritten. -/
  rewrite : Value → Value

/-- The fields of an entry, in the order in which they are written. -/
def wireFields : List WireField :=
  [⟨"ts", .defaulting (.timestamp .zero), reread⟩,
   ⟨"t", .optional, widened⟩,
   ⟨"h", .optional, widened⟩,
   ⟨"v", .optional, narrowed⟩,
   ⟨"op", .required, plain⟩,
   ⟨"ns", .defaulting (.string ""), plain⟩,
   ⟨"ui", .optional, reread⟩,
   ⟨"o", .defaulting (.document []), normalized⟩,
   ⟨"o2", .optional, normalized⟩,
   ⟨"lsid", .optional, normalized⟩,
   ⟨"txnNumber", .optional, widened⟩,
   ⟨"stmtId", .optional, narrowed⟩,
   ⟨"prevOpTime", .optional, linked⟩]

namespace WireField

/-- What is written for the field of a document. -/
def value? (field : WireField) (d : Document) : Option Value :=
  let found := d.field? field.name
  match field.presence with
  | .required => found.map field.rewrite
  | .defaulting value => some (field.rewrite (found.getD value))
  | .optional => (nonNull found).map field.rewrite

/-- The field is among those that are written for the document. -/
def isKept (field : WireField) (d : Document) : Bool :=
  match field.presence with
  | .optional => (nonNull (d.field? field.name)).isSome
  | _ => true

end WireField

/-- The fields of a document that an entry has, rewritten and in their order. -/
def normalForm (d : Document) : Document :=
  lay (wireFields.map fun field => (field.name, field.value? d))

/-! ## Writing what was read -/

/-- What is read of a value is written as the rewritten value. -/
def RewritesTo {α : Type} (read : Value → Option α) (write : α → Value)
    (rewrite : Value → Value) : Prop :=
  ∀ v a, read v = some a → rewrite v = write a

theorem long?_rewritesTo : RewritesTo long? .int64 widened := by
  intro v n found
  cases v <;> cases found <;> rfl

theorem int?_rewritesTo : RewritesTo int? .int32 narrowed := by
  intro v n found
  cases v with
  | int32 => cases found; rfl
  | int64 long =>
      rw [int?] at found
      split at found
      · cases found; rfl
      · cases found
  | _ => cases found

theorem reread_eq_of_reading {α : Type} {kind? : Value → Option α} {v : Value} {a : α}
    (found : reading kind? v = some a) :
    v.read = .ok (reread v) ∧ kind? (reread v) = some a := by
  rw [reading] at found
  rw [reread]
  cases read : v.read with
  | ok w =>
      rw [read] at found
      exact ⟨rfl, found⟩
  | error problem =>
      rw [read] at found
      cases found

theorem timestamp?_rewritesTo : RewritesTo (reading Value.timestamp?) .timestamp reread := by
  intro v t found
  obtain ⟨_, kind⟩ := reread_eq_of_reading found
  cases w : reread v <;> rw [w] at kind <;> cases kind
  rfl

theorem binary?_rewritesTo : RewritesTo (reading Value.binary?) .binary reread := by
  intro v b found
  obtain ⟨_, kind⟩ := reread_eq_of_reading found
  cases w : reread v <;> rw [w] at kind <;> cases kind
  rfl

theorem characters?_rewritesTo : RewritesTo Value.characters? .string plain := by
  intro v text found
  rw [plain, found]

theorem document?_rewritesTo :
    RewritesTo (reading Value.document?) Document.written normalized := by
  intro v d found
  obtain ⟨read, kind⟩ := reread_eq_of_reading found
  cases w : reread v <;> rw [w] at kind <;> cases kind
  rw [w] at read
  rw [normalized, w, Document.written_of_isLiteral (v.isSettled_of_read read).literal]
  rfl

section

variable {α : Type} {read : Value → Option α} {write : α → Value} {rewrite : Value → Value}
  {found : Option Value}

theorem rewrite_of_defaulting (rewrites : RewritesTo read write rewrite) {missing : Value}
    {default a : α} (same : rewrite missing = write default)
    (known : defaulting read default found = some a) :
    rewrite (found.getD missing) = write a := by
  cases found with
  | none => cases known; exact same
  | some value => exact rewrites value a known

theorem rewrite_of_optional (rewrites : RewritesTo read write rewrite) {x : Option α}
    (known : optional read found = some x) : (nonNull found).map rewrite = x.map write := by
  rw [optional.eq_def] at known
  split at known
  · cases known; rfl
  · cases known; rfl
  · next value notNull =>
    obtain ⟨a, readAs, ⟨⟩⟩ := Option.map_eq_some_iff.mp known
    have kept : nonNull (some value) = some value := by
      rw [nonNull.eq_def]
      split
      · next null => cases null; exact absurd rfl notNull
      · rfl
    rw [kept, Option.map_some, rewrites value a readAs]
    rfl

end

theorem backLink?_rewritesTo :
    RewritesTo backLink? (fun link => .document (BackLink.toDocument link)) linked := by
  have parts {timestamp term : Option Value} {link : BackLink}
      (found : backLinkOfParts? timestamp term = some link) :
      linkDocument timestamp term = BackLink.toDocument link := by
    obtain ⟨t, known, found⟩ := Option.bind_eq_some_iff.mp found
    obtain ⟨n, knownTerm, ⟨⟩⟩ := Option.bind_eq_some_iff.mp found
    have stamp : reread (timestamp.getD (.timestamp .zero)) = .timestamp t :=
      rewrite_of_defaulting timestamp?_rewritesTo rfl known
    rw [linkDocument, stamp, rewrite_of_optional long?_rewritesTo knownTerm]
    cases n <;> rfl
  intro v link found
  cases v with
  | document fields => exact congrArg Value.document (parts found)
  | array items => exact congrArg Value.document (parts found)
  | binary data =>
      have tagged : (if (Value.binary data).isTagged then some BackLink.empty else none) =
          some link := found
      split at tagged
      · cases tagged
        rfl
      · cases tagged
  | _ => cases found <;> rfl

/-- A document that was read is written in its normal form. -/
theorem toDocument_of_ofDocument? {d : Document} {e : Entry} (read : ofDocument? d = some e) :
    e.toDocument = normalForm d := by
  rw [toDocument, fields_eq_lay, normalForm]
  obtain ⟨_, ts, read⟩ := Option.bind_eq_some_iff.mp read
  obtain ⟨_, term, read⟩ := Option.bind_eq_some_iff.mp read
  obtain ⟨_, hash, read⟩ := Option.bind_eq_some_iff.mp read
  obtain ⟨_, version, read⟩ := Option.bind_eq_some_iff.mp read
  obtain ⟨_, operation, read⟩ := Option.bind_eq_some_iff.mp read
  obtain ⟨_, place, read⟩ := Option.bind_eq_some_iff.mp read
  obtain ⟨_, identifier, read⟩ := Option.bind_eq_some_iff.mp read
  obtain ⟨_, body, read⟩ := Option.bind_eq_some_iff.mp read
  obtain ⟨_, target, read⟩ := Option.bind_eq_some_iff.mp read
  obtain ⟨_, session, read⟩ := Option.bind_eq_some_iff.mp read
  obtain ⟨_, number, read⟩ := Option.bind_eq_some_iff.mp read
  obtain ⟨_, statement, read⟩ := Option.bind_eq_some_iff.mp read
  obtain ⟨_, previous, ⟨⟩⟩ := Option.bind_eq_some_iff.mp read
  obtain ⟨_, found, operation⟩ := Option.bind_eq_some_iff.mp operation
  simp only [rows, wireFields, List.map_cons, List.map_nil, WireField.value?]
  rw [rewrite_of_defaulting timestamp?_rewritesTo rfl ts,
    rewrite_of_optional long?_rewritesTo term,
    rewrite_of_optional long?_rewritesTo hash,
    rewrite_of_optional int?_rewritesTo version,
    found, Option.map_some, characters?_rewritesTo _ _ operation,
    rewrite_of_defaulting characters?_rewritesTo rfl place,
    rewrite_of_optional binary?_rewritesTo identifier,
    rewrite_of_defaulting document?_rewritesTo rfl body,
    rewrite_of_optional document?_rewritesTo target,
    rewrite_of_optional document?_rewritesTo session,
    rewrite_of_optional long?_rewritesTo number,
    rewrite_of_optional int?_rewritesTo statement,
    rewrite_of_optional backLink?_rewritesTo previous]

/-- Fields come in order, a term is widened, and what is null or unknown is gone. -/
example :
    normalForm
        [("ns", .string "app.users"), ("t", .int32 7), ("h", .null), ("op", .string "i"),
         ("wall", .boolean true)] =
      [("ts", .timestamp .zero), ("t", .int64 7), ("op", .string "i"),
       ("ns", .string "app.users"), ("o", .document [])] := by
  decide

/-- The fields of the normal form are those that are kept, in their order. -/
theorem names_normalForm {d : Document} {e : Entry} (read : ofDocument? d = some e) :
    (normalForm d).names = (wireFields.filter fun field => field.isKept d).map WireField.name := by
  have operation : (d.field? "op").isSome = true := by
    iterate 4 obtain ⟨_, -, read⟩ := Option.bind_eq_some_iff.mp read
    obtain ⟨_, named, -⟩ := Option.bind_eq_some_iff.mp read
    obtain ⟨_, found, -⟩ := Option.bind_eq_some_iff.mp named
    rw [found]
    rfl
  have required : ∀ field ∈ wireFields, field.presence = .required → field.name = "op" := by
    decide
  have kept : ∀ field ∈ wireFields, (field.value? d).isSome = field.isKept d := by
    intro field member
    rw [WireField.value?, WireField.isKept]
    cases presence : field.presence with
    | required =>
        rw [required field member presence]
        simpa using operation
    | defaulting => rfl
    | optional => exact Option.isSome_map
  rw [normalForm, names_lay, List.filter_map, List.map_map]
  exact congrArg (List.map WireField.name) (List.filter_congr kept)

/-! ## The place of an entry -/

theorem field?_canonical (d : Document) (key : String) :
    (Document.canonical d).field? key = (d.field? key).map Value.canonical := by
  induction d with
  | nil => rfl
  | cons field rest inductionHypothesis =>
      obtain ⟨name, value⟩ := field
      have step : Document.canonical ((name, value) :: rest) =
          (name, value.canonical) :: Document.canonical rest := rfl
      rw [step, Document.field?_cons, Document.field?_cons, inductionHypothesis]
      split <;> rfl

theorem readFlag_canonical (d : Document) (key : String) :
    Transaction.readFlag (Document.canonical d) key = Transaction.readFlag d key := by
  rw [Transaction.readFlag, Transaction.readFlag, field?_canonical]
  cases d.field? key with
  | none => rfl
  | some value => cases value <;> rfl

theorem commandName?_canonical (e : Entry) : e.canonical.commandName? = e.commandName? := by
  obtain ⟨_, _, _, _, _, _, _, _ | ⟨field, rest⟩, _, _, _, _, _⟩ := e <;> rfl

/-- An entry whose session id passes through keeps its place, whatever is rewritten in its
body. -/
theorem ofEntry_canonical {e : Entry} (session : e.session.map Document.canonical = e.session) :
    Transaction.Placement.ofEntry e.canonical = Transaction.Placement.ofEntry e :=
  Transaction.Placement.ofEntry_congr
    { operation := rfl
      command := commandName?_canonical e
      partialFlag := readFlag_canonical e.body "partialTxn"
      preparedFlag := readFlag_canonical e.body "prepare"
      session := session
      number := rfl
      linked := Iff.rfl }

/-- The place of an entry that has not been read yet. -/
def placeOf (d : Document) : Except Fault Transaction.Placement :=
  match ofDocument? d with
  | none => .error (.malformed .entry)
  | some e => Transaction.Placement.ofEntry e

/-! ## Reading and writing -/

/-- Reading and writing are inverse at an entry. -/
structure RoundTrips (e : Entry) : Prop where
  /-- What was written is read as it was. -/
  readAgain : e.PassesThrough → ofDocument? e.toDocument = some e
  /-- What was read again is written in the same way, even where something was rewritten. -/
  writtenAgain : e.IsLiteral →
    ∃ again, ofDocument? e.toDocument = some again ∧ again.toDocument = e.toDocument
  /-- What was read is literal. -/
  literal : ∀ d, ofDocument? d = some e → e.IsLiteral
  /-- What was read is written in its normal form. -/
  normal : ∀ d, ofDocument? d = some e → e.toDocument = normalForm d
  /-- The normal form has these fields and no others. -/
  named : ∀ d, ofDocument? d = some e →
    e.toDocument.names = (wireFields.filter fun field => field.isKept d).map WireField.name
  placed : ∀ d, ofDocument? d = some e → e.session.map Document.canonical = e.session →
    placeOf e.toDocument = placeOf d
  sized : e.IsLiteral → ∀ size, e.encodedLength? = some size → e.toDocument.encode.length = size

/-- Reading and writing an entry are inverse, on the normal form of documents and up to what
their canonical form rewrites in the documents of the entry. -/
theorem roundTrips (e : Entry) : e.RoundTrips where
  readAgain := by
    intro passes
    rw [passes.literal.ofDocument?_toDocument, passes.canonical_eq]
  writtenAgain := by
    intro literal
    exact ⟨e.canonical, literal.ofDocument?_toDocument, literal.toDocument_canonical⟩
  literal := fun _ => isLiteral_of_ofDocument?
  normal := fun _ => toDocument_of_ofDocument?
  named := by
    intro d read
    rw [toDocument_of_ofDocument? read, names_normalForm read]
  placed := by
    intro d read session
    rw [placeOf, placeOf, read, (isLiteral_of_ofDocument? read).ofDocument?_toDocument]
    exact ofEntry_canonical session
  sized := by
    intro literal size known
    rw [literal.length_encode]
    exact (encodedLength?_eq_some_iff.mp known).2

end Entry

end LogReplay
