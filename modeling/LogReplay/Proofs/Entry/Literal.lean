/-
Module: LogReplay.Proofs.Entry.Literal
Purpose: The documents in an entry are literal if the entry was read, and then its byte form
  and its document form have the same size.
Main exports:
  Entry.documents, Entry.IsLiteral, Entry.isSettled_of_ofDocument?,
  Entry.isLiteral_of_ofDocument?, Entry.IsLiteral.length_encode, Entry.IsCompact,
  Entry.isCompact_of_hasLiteralScopes
-/
import LogReplay.Entry
import LogReplay.Proofs.Bson.Compact

/-!
An entry holds up to three documents.  The ones that were read are settled, since reading
has taken those that stand for other values for these.  An entry that was put together in
another way may hold any documents.

The byte form of an entry has its documents as they are, and the document form has what
they are written as.  Of literal documents that is the canonical form, which takes as many
bytes.  Of others it takes no more, unless they hold code with a scope that stands for
something else.
-/

namespace LogReplay

open Bson

namespace Bson

theorem fieldsWireSize_append (fields more : Document) :
    fieldsWireSize (fields ++ more) = fieldsWireSize fields + fieldsWireSize more := by
  induction fields with
  | nil => exact (Nat.zero_add _).symm
  | cons field rest inductionHypothesis =>
      rw [List.cons_append, fieldsWireSize, inductionHypothesis, fieldsWireSize]
      exact (Nat.add_assoc _ _ _).symm

theorem Document.written_of_isLiteral {d : Document} (literal : d.isLiteral = true) :
    d.written = .document (Document.canonical d) :=
  Value.written_of_isLiteral (.document d) literal

end Bson

namespace Entry

variable {e : Entry}

/-- The documents in an entry. -/
def documents (e : Entry) : List Document :=
  e.body :: (e.target.toList ++ e.session.toList)

theorem mem_documents {d : Document} :
    d ∈ e.documents ↔ d = e.body ∨ e.target = some d ∨ e.session = some d := by
  simp only [documents, List.mem_cons, List.mem_append, Option.mem_toList]

/-- No name in the documents of the entry is a tag. -/
def IsLiteral (e : Entry) : Prop :=
  ∀ d ∈ e.documents, d.isLiteral = true

/-! ## Entries that were read -/

theorem isSettled_of_reading {v : Value} {d : Document}
    (found : reading Value.document? v = some d) : (Value.document d).IsSettled := by
  unfold reading at found
  split at found
  · next w read =>
    have settled := v.isSettled_of_read read
    cases w <;> cases found
    exact settled
  · cases found

theorem isSettled_of_optional {v : Option Value} {read : Option Document} {d : Document}
    (found : optional (reading Value.document?) v = some read) (known : read = some d) :
    (Value.document d).IsSettled := by
  rw [optional.eq_def] at found
  split at found
  · cases found
    cases known
  · cases found
    cases known
  · obtain ⟨_, embedded, ⟨⟩⟩ := Option.map_eq_some_iff.mp found
    cases known
    exact isSettled_of_reading embedded

/-- The documents in an entry that was read are settled. -/
theorem isSettled_of_ofDocument? {document d : Document} (read : ofDocument? document = some e)
    (member : d ∈ e.documents) : (Value.document d).IsSettled := by
  -- The documents are the eighth, ninth and tenth of the fields, and three more follow.
  iterate 7 obtain ⟨_, -, read⟩ := Option.bind_eq_some_iff.mp read
  obtain ⟨_, body, read⟩ := Option.bind_eq_some_iff.mp read
  obtain ⟨_, target, read⟩ := Option.bind_eq_some_iff.mp read
  obtain ⟨_, session, read⟩ := Option.bind_eq_some_iff.mp read
  iterate 3 obtain ⟨_, -, read⟩ := Option.bind_eq_some_iff.mp read
  cases read
  rcases mem_documents.mp member with rfl | known | known
  · rw [defaulting.eq_def] at body
    split at body
    · cases body
      exact ⟨rfl, rfl⟩
    · exact isSettled_of_reading body
  · exact isSettled_of_optional target known
  · exact isSettled_of_optional session known

theorem isLiteral_of_ofDocument? {document : Document} (read : ofDocument? document = some e) :
    e.IsLiteral :=
  fun _ member => (isSettled_of_ofDocument? read member).literal

/-! ## Sizes -/

theorem encodedLength?_eq_some_iff {bytes : Nat} :
    e.encodedLength? = some bytes ↔
      Document.isEncodable (e.fields .document) = true ∧ e.encode.length = bytes := by
  rw [encodedLength?]
  split <;> simp_all

theorem length_encode_of_encodedLength? {bytes : Nat} (measured : e.encodedLength? = some bytes) :
    e.encode.length = bytes :=
  (encodedLength?_eq_some_iff.mp measured).2

/-- An entry that can be measured has the length of its byte form. -/
theorem encodedLength?_eq_length_encode {bytes : Nat}
    (measured : e.encodedLength? = some bytes) :
    e.encodedLength? = some e.encode.length := by
  rw [length_encode_of_encodedLength? measured, measured]

/-- An entry whose documents take fewer bytes takes fewer bytes. -/
theorem wireSize_fields_le {asValue other : Document → Value}
    (smaller : ∀ d ∈ e.documents, (asValue d).wireSize ≤ (other d).wireSize) :
    Document.wireSize (e.fields asValue) ≤ Document.wireSize (e.fields other) := by
  have optionally (name : String) (x : Option Document)
      (among : ∀ d, x = some d → d ∈ e.documents) :
      fieldsWireSize (present name (x.map asValue)) ≤
        fieldsWireSize (present name (x.map other)) := by
    cases x with
    | none => exact Nat.le_refl 0
    | some d =>
        have own := smaller d (among d rfl)
        simp only [Option.map_some, present, fieldsWireSize]
        omega
  have body := smaller e.body (mem_documents.mpr (.inl rfl))
  have target := optionally "o2" e.target fun d known => mem_documents.mpr (.inr (.inl known))
  have session := optionally "lsid" e.session fun d known =>
    mem_documents.mpr (.inr (.inr known))
  simp only [Document.wireSize, fields, fieldsWireSize_append, fieldsWireSize]
  omega

/-- A literal entry takes as many bytes as its document form. -/
theorem IsLiteral.length_encode (literal : e.IsLiteral) :
    e.toDocument.encode.length = e.encode.length := by
  have same (d : Document) (member : d ∈ e.documents) :
      d.written.wireSize = (Value.document d).wireSize := by
    rw [Document.written_of_isLiteral (literal d member)]
    exact Value.wireSize_canonical (.document d)
  rw [toDocument, encode, Document.length_encode, Document.length_encode]
  exact Nat.le_antisymm (wireSize_fields_le fun d member => Nat.le_of_eq (same d member))
    (wireSize_fields_le fun d member => Nat.le_of_eq (same d member).symm)

/-- The document form of the entry takes no more bytes than its byte form. -/
def IsCompact (e : Entry) : Prop :=
  e.toDocument.encode.length ≤ e.encode.length

instance : Decidable e.IsCompact :=
  inferInstanceAs (Decidable (_ ≤ _))

theorem IsLiteral.isCompact (literal : e.IsLiteral) : e.IsCompact :=
  Nat.le_of_eq literal.length_encode

/-- Only the scope of some code can keep an entry from being compact. -/
theorem isCompact_of_hasLiteralScopes
    (literal : ∀ d ∈ e.documents, (Value.document d).hasLiteralScopes = true) :
    e.IsCompact := by
  rw [IsCompact, toDocument, encode, Document.length_encode, Document.length_encode]
  exact wireSize_fields_le fun d member => Value.wireSize_written_le _ (literal d member)

example :
    ¬ IsCompact
      { noop "" with body := [("f", .javaScriptWithScope "" [("$symbol", .string "")])] } := by
  decide

end Entry

end LogReplay
