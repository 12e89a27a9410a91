/-
Module: LogReplay.Proofs.Bson.Extended
Purpose: What reading and writing make of the documents that stand for other values, and
  that they leave literal values alone.
Main exports:
  Value.IsSettled, Value.isSettled_of_read, Value.read_of_isLiteral,
  Value.ofRecord_of_untagged, Value.written_of_isLiteral, Value.isSettled_canonical,
  Value.wireSize_canonical
-/
import LogReplay.Bson.Extended
import LogReplay.Bson.Wire

/-!
What has been read is settled: no name in it is a tag, and its option letters are in
order.  So reading is done once, whatever the values were noted as.

A literal value has no documents that stand for anything.  Reading puts its option letters
in order, and writing gives it its canonical form, and neither changes its size.
-/

namespace LogReplay.Bson

/-- Where a step succeeds, so have the steps before it. -/
theorem bind_eq_ok {ε α β : Type} {x : Except ε α} {f : α → Except ε β} {b : β}
    (success : x >>= f = .ok b) : ∃ a, x = .ok a ∧ f a = .ok b := by
  cases x with
  | error e => cases success
  | ok a => exact ⟨a, rfl, success⟩

/-! ## What is read from a tag -/

/-- Reading would find nothing to do. -/
structure Value.IsSettled (v : Value) : Prop where
  literal : v.isLiteral = true
  ordered : v.ordered = v

/-- What is found, if anything, has the property. -/
def Yields (P : Value → Prop) (found : Option Value) : Prop :=
  ∀ v, found = some v → P v

namespace Yields

variable {P : Value → Prop} {α : Type}

theorem none : Yields P none :=
  nofun

theorem some {v : Value} (holds : P v) : Yields P (some v) := by
  rintro _ ⟨⟩
  exact holds

theorem map {x : Option α} {f : α → Value} (each : ∀ a, P (f a)) : Yields P (x.map f) := by
  cases x with
  | none => exact .none
  | some a => exact .some (each a)

theorem bind {x : Option α} {f : α → Option Value} (each : ∀ a, x = .some a → Yields P (f a)) :
    Yields P (x.bind f) := by
  cases x with
  | none => exact .none
  | some a => exact each a rfl

theorem or {x y : Option Value} (first : Yields P x) (second : Yields P y) :
    Yields P (x.or y) := by
  cases x with
  | none => exact second
  | some a => exact first

end Yields

namespace Tag

theorem settles_ofText? (tag : Tag) (text : String) :
    Yields Value.IsSettled (tag.ofText? text) := by
  cases tag with
  | symbol | code => exact .some ⟨rfl, rfl⟩
  | objectId | int32 | int64 | double | decimal | date => exact .map fun _ => ⟨rfl, rfl⟩
  | _ => exact .none

theorem settles_binaryOfTexts? (letters subtype : String) :
    Yields Value.IsSettled (binaryOfTexts? letters subtype) := by
  unfold binaryOfTexts?
  split
  · exact .some ⟨rfl, rfl⟩
  · exact .none

/-- A value that was noted under a tag has no documents in it. -/
theorem settles_read? (tag : Tag) (content : Value) :
    Yields Value.IsSettled (tag.read? content) := by
  have ofText (tag : Tag) : Yields Value.IsSettled (content.characters?.bind tag.ofText?) :=
    .bind fun text _ => tag.settles_ofText? text
  cases tag with
  | symbol | int32 | int64 | decimal => exact ofText _
  | double => exact .bind fun text _ => .or (settles_ofText? _ text) (settles_ofText? _ text)
  | decimalBytes | uuid => exact .map fun _ => ⟨rfl, rfl⟩
  | objectId =>
      rw [read?]
      split
      · exact .map fun _ => ⟨rfl, rfl⟩
      · exact .bind fun text _ => settles_ofText? _ text
  | binary =>
      rw [read?]
      split
      · exact settles_binaryOfTexts? _ _
      · exact .none
  | regex =>
      rw [read?]
      split
      · exact .some ⟨rfl, congrArg (Value.regex _) (sortLetters_sortLetters _)⟩
      · exact .none
  | timestamp =>
      rw [read?]
      split
      · exact .some ⟨rfl, rfl⟩
      · exact .none
  | dbPointer =>
      rw [read?]
      split
      · split
        · exact .some ⟨rfl, rfl⟩
        · exact .none
      · exact .none
  | date =>
      rw [read?.eq_def]
      dsimp only
      split
      · exact .some ⟨rfl, rfl⟩
      · exact .some ⟨rfl, rfl⟩
      · split
        · exact .map fun _ => ⟨rfl, rfl⟩
        · exact ofText _
  | minKey | maxKey | undefined =>
      rw [read?]
      split
      · exact .some ⟨rfl, rfl⟩
      · exact .none
  | code | scope => exact .none

theorem isSettled_of_read {tag : Tag} {content v : Value} (read : tag.read content = .ok v) :
    v.IsSettled := by
  unfold Tag.read at read
  split at read
  · next value found =>
    cases read
    exact settles_read? tag content _ found
  · cases read

end Tag

/-! ## What is read -/

theorem eq_document_of_asDocument {v : Value} {d : Document} (read : asDocument v = .ok d) :
    v = .document d := by
  cases v <;> cases read
  rfl

/-- A document that was read is a settled scope of some code. -/
theorem isSettled_scope {v : Value} {scope : Document} (code : String) (settled : v.IsSettled)
    (read : asDocument v = .ok scope) : (Value.javaScriptWithScope code scope).IsSettled := by
  obtain rfl := eq_document_of_asDocument read
  have ordered := Value.document.inj settled.ordered
  exact ⟨settled.literal, congrArg (Value.javaScriptWithScope code) ordered⟩

theorem Value.IsSettled.withField {record value : Value} {name : String}
    (rest : record.IsSettled) (first : value.IsSettled) (untagged : Tag.ofName? name = none) :
    (record.withField name value).IsSettled := by
  cases record with
  | document fields =>
      have literal : areLiteral fields = true := rest.literal
      have ordered : respellFields .ordered fields = fields := document.inj rest.ordered
      have same : value.respell .ordered = value := first.ordered
      constructor
      · simp only [Value.withField, isLiteral, areLiteral, untagged, first.literal, literal]
        rfl
      · simp only [Value.withField, Value.ordered, respell, respellFields, same, ordered]
  | _ => exact rest

mutual

/-- What has been read is settled. -/
theorem Value.isSettled_of_read :
    ∀ (v : Value) {w : Value}, v.read = .ok w → w.IsSettled
  | .document fields, w, read => isSettled_of_readFields fields read
  | .array items, w, read => by
      obtain ⟨settled, found, ⟨⟩⟩ := bind_eq_ok read
      obtain ⟨literal, ordered⟩ := isSettled_of_readItems items found
      exact ⟨literal, congrArg Value.array ordered⟩
  | .javaScriptWithScope code scope, w, read => by
      obtain ⟨record, found, read⟩ := bind_eq_ok read
      obtain ⟨document, same, ⟨⟩⟩ := bind_eq_ok read
      exact isSettled_scope code (isSettled_of_readFields scope found) same
  | .regex _ _, w, read => by
      cases read
      exact ⟨rfl, congrArg (Value.regex _) (sortLetters_sortLetters _)⟩
  | .double _, w, read | .string _, w, read | .binary _, w, read | .undefined, w, read
  | .objectId _, w, read | .boolean _, w, read | .dateTime _, w, read | .null, w, read
  | .dbPointer _ _, w, read | .javaScript _, w, read | .symbol _, w, read
  | .int32 _, w, read | .timestamp _, w, read | .int64 _, w, read | .decimal128 _, w, read
  | .minKey, w, read | .maxKey, w, read => by
      cases read
      exact ⟨rfl, rfl⟩

theorem isSettled_of_readFields :
    ∀ (fs : List (String × Value)) {w : Value}, readFields fs = .ok w → w.IsSettled
  | [], w, read => by
      cases read
      exact ⟨rfl, rfl⟩
  | (name, value) :: rest, w, read => by
      rw [readFields.eq_def] at read
      dsimp only at read
      split at read
      · next untagged =>
        obtain ⟨first, found, read⟩ := bind_eq_ok read
        obtain ⟨record, later, ⟨⟩⟩ := bind_eq_ok read
        exact (isSettled_of_readFields rest later).withField (value.isSettled_of_read found)
          untagged
      · obtain ⟨code, _, read⟩ := bind_eq_ok read
        split at read
        · cases read
          exact ⟨rfl, rfl⟩
        · next scope others =>
          split at read
          · obtain ⟨record, found, read⟩ := bind_eq_ok read
            obtain ⟨document, same, ⟨⟩⟩ := bind_eq_ok read
            exact isSettled_scope code (Value.isSettled_of_read _ found) same
          · cases read
      · obtain ⟨record, found, read⟩ := bind_eq_ok read
        obtain ⟨document, same, read⟩ := bind_eq_ok read
        split at read
        · cases read
        · split at read
          · obtain ⟨code, _, ⟨⟩⟩ := bind_eq_ok read
            exact isSettled_scope code (value.isSettled_of_read found) same
          · cases read
      · exact Tag.isSettled_of_read read

theorem isSettled_of_readItems :
    ∀ (xs : List Value) {ys : List Value}, readItems xs = .ok ys →
      areLiteralItems ys = true ∧ respellItems .ordered ys = ys
  | [], ys, read => by
      cases read
      exact ⟨rfl, rfl⟩
  | item :: rest, ys, read => by
      obtain ⟨first, found, read⟩ := bind_eq_ok read
      obtain ⟨others, later, ⟨⟩⟩ := bind_eq_ok read
      have settled := item.isSettled_of_read found
      obtain ⟨literal, ordered⟩ := isSettled_of_readItems rest later
      have same : first.respell .ordered = first := settled.ordered
      constructor
      · rw [areLiteralItems, settled.literal, literal]
        rfl
      · rw [respellItems, same, ordered]

end

/-! ## Literal values -/

theorem areLiteral_cons {name : String} {value : Value} {rest : Document} :
    areLiteral ((name, value) :: rest) = true ↔
      Tag.ofName? name = none ∧ value.isLiteral = true ∧ areLiteral rest = true := by
  rw [areLiteral, Bool.and_eq_true, Bool.and_eq_true, Option.isNone_iff_eq_none, and_assoc]

theorem areLiteralItems_cons {item : Value} {rest : List Value} :
    areLiteralItems (item :: rest) = true ↔
      item.isLiteral = true ∧ areLiteralItems rest = true := by
  rw [areLiteralItems, Bool.and_eq_true]

theorem readFields_cons_of_untagged {name : String} {value first record : Value}
    {rest : Document} (untagged : Tag.ofName? name = none) (read : value.read = .ok first)
    (later : readFields rest = .ok record) :
    readFields ((name, value) :: rest) = .ok (record.withField name first) := by
  rw [readFields.eq_def]
  dsimp only
  rw [untagged, read, later]
  rfl

mutual

/-- Of a literal value, reading changes the order of option letters alone. -/
theorem Value.read_of_isLiteral : ∀ v : Value, v.isLiteral = true → v.read = .ok v.ordered
  | .document fields, literal => readFields_of_areLiteral fields literal
  | .array items, literal => by
      have read := readItems_of_areLiteralItems items literal
      rw [Value.read, read]
      rfl
  | .javaScriptWithScope code scope, literal => by
      have read := readFields_of_areLiteral scope literal
      rw [Value.read, read]
      rfl
  | .double _, _ | .string _, _ | .binary _, _ | .undefined, _ | .objectId _, _
  | .boolean _, _ | .dateTime _, _ | .null, _ | .regex _ _, _ | .dbPointer _ _, _
  | .javaScript _, _ | .symbol _, _ | .int32 _, _ | .timestamp _, _ | .int64 _, _
  | .decimal128 _, _ | .minKey, _ | .maxKey, _ => rfl

theorem readFields_of_areLiteral :
    ∀ fs : List (String × Value), areLiteral fs = true →
      readFields fs = .ok (.document (respellFields .ordered fs))
  | [], _ => rfl
  | (name, value) :: rest, literal => by
      obtain ⟨untagged, first, later⟩ := areLiteral_cons.mp literal
      exact readFields_cons_of_untagged untagged (value.read_of_isLiteral first)
        (readFields_of_areLiteral rest later)

theorem readItems_of_areLiteralItems :
    ∀ xs : List Value, areLiteralItems xs = true →
      readItems xs = .ok (respellItems .ordered xs)
  | [], _ => rfl
  | item :: rest, literal => by
      obtain ⟨first, later⟩ := areLiteralItems_cons.mp literal
      rw [readItems, item.read_of_isLiteral first, readItems_of_areLiteralItems rest later]
      rfl

end

theorem Value.IsSettled.read {v : Value} (settled : v.IsSettled) : v.read = .ok v := by
  rw [v.read_of_isLiteral settled.literal, settled.ordered]

theorem mem_names_of_codeWithScope? {fields : Document} {v : Value}
    (found : codeWithScope? fields = some v) :
    "$code" ∈ fields.names ∧ "$scope" ∈ fields.names := by
  have named {name : String} (there : fields.field? name ≠ none) : name ∈ fields.names :=
    Decidable.byContradiction fun missing =>
      there (Document.field?_eq_none_of_not_mem missing)
  unfold codeWithScope? at found
  split at found
  · next code scope text record =>
    refine ⟨named fun none => ?_, named fun none => ?_⟩
    · rw [Document.text?, none] at text
      cases text
    · rw [none] at record
      cases record
  · cases found

/-- A document with a name that is no tag stands for nothing else. -/
theorem Value.ofRecord_of_untagged {fields : Document} {name : String}
    (member : name ∈ fields.names) (untagged : Tag.ofName? name = none) :
    Value.ofRecord fields = .document fields := by
  match fields, member with
  | [(first, content)], member =>
      cases List.mem_singleton.mp member
      rw [ofRecord, untagged]
      rfl
  | [(first, x), (second, y)], member =>
      -- Neither of two names can be this one if one is `$code` and the other one `$scope`.
      have unlike : codeWithScope? [(first, x), (second, y)] = none := by
        refine Option.eq_none_iff_forall_ne_some.mpr fun v found => ?_
        obtain ⟨code, scope⟩ := mem_names_of_codeWithScope? found
        have notCode : name ≠ "$code" := by
          rintro rfl
          cases untagged
        have notScope : name ≠ "$scope" := by
          rintro rfl
          cases untagged
        have differ : "$code" ≠ "$scope" := by decide
        simp only [Document.names, List.map_cons, List.map_nil, List.mem_cons, List.not_mem_nil,
          or_false] at member code scope
        grind
      rw [ofRecord, unlike]
      rfl
  | _ :: _ :: _ :: _, _ => rfl

theorem names_writtenFields (fields : Document) :
    Document.names (writtenFields fields) = fields.names := by
  induction fields with
  | nil => rfl
  | cons field rest inductionHypothesis =>
      exact congrArg (List.cons field.1) inductionHypothesis

theorem Value.ofRecord_of_areLiteral {fields : Document} (literal : areLiteral fields = true) :
    Value.ofRecord (writtenFields fields) = .document (writtenFields fields) := by
  cases fields with
  | nil => rfl
  | cons field rest =>
      have named : field.1 ∈ Document.names (writtenFields (field :: rest)) := by
        rw [names_writtenFields]
        exact List.mem_cons_self
      exact ofRecord_of_untagged named (areLiteral_cons.mp literal).1

mutual

/-- A literal value is written in its canonical form. -/
theorem Value.written_of_isLiteral : ∀ v : Value, v.isLiteral = true → v.written = v.canonical
  | .document fields, literal => by
      have fieldwise := writtenFields_of_areLiteral fields literal
      rw [Value.written, Value.ofRecord_of_areLiteral literal, fieldwise]
      rfl
  | .array items, literal => by
      rw [Value.written, writtenItems_of_areLiteralItems items literal]
      rfl
  | .javaScriptWithScope code scope, literal => by
      have fieldwise := writtenFields_of_areLiteral scope literal
      rw [Value.written, Value.ofRecord_of_areLiteral literal, fieldwise]
      rfl
  | .double _, _ | .string _, _ | .binary _, _ | .undefined, _ | .objectId _, _
  | .boolean _, _ | .dateTime _, _ | .null, _ | .regex _ _, _ | .dbPointer _ _, _
  | .javaScript _, _ | .symbol _, _ | .int32 _, _ | .timestamp _, _ | .int64 _, _
  | .decimal128 _, _ | .minKey, _ | .maxKey, _ => rfl

theorem writtenFields_of_areLiteral :
    ∀ fs : List (String × Value), areLiteral fs = true →
      writtenFields fs = respellFields .canonical fs
  | [], _ => rfl
  | (name, value) :: rest, literal => by
      obtain ⟨untagged, first, later⟩ := areLiteral_cons.mp literal
      rw [writtenFields, value.written_of_isLiteral first, writtenFields_of_areLiteral rest later]
      rfl

theorem writtenItems_of_areLiteralItems :
    ∀ xs : List Value, areLiteralItems xs = true →
      writtenItems xs = respellItems .canonical xs
  | [], _ => rfl
  | item :: rest, literal => by
      obtain ⟨first, later⟩ := areLiteralItems_cons.mp literal
      rw [writtenItems, item.written_of_isLiteral first, writtenItems_of_areLiteralItems rest later]
      rfl

end

/-! ## Literal values in canonical form -/

mutual

/-- Another spelling changes no names. -/
theorem Value.isLiteral_respell (s : Spelling) : ∀ v : Value, (v.respell s).isLiteral = v.isLiteral
  | .document fields => areLiteral_respellFields s fields
  | .array items => areLiteralItems_respellItems s items
  | .javaScriptWithScope _ scope => areLiteral_respellFields s scope
  | .double _ | .string _ | .binary _ | .undefined | .objectId _ | .boolean _ | .dateTime _
  | .null | .regex _ _ | .dbPointer _ _ | .javaScript _ | .symbol _ | .int32 _
  | .timestamp _ | .int64 _ | .decimal128 _ | .minKey | .maxKey => rfl

theorem areLiteral_respellFields (s : Spelling) :
    ∀ fs : List (String × Value), areLiteral (respellFields s fs) = areLiteral fs
  | [] => rfl
  | (name, value) :: rest => by
      rw [respellFields, areLiteral, areLiteral, value.isLiteral_respell s,
        areLiteral_respellFields s rest]

theorem areLiteralItems_respellItems (s : Spelling) :
    ∀ xs : List Value, areLiteralItems (respellItems s xs) = areLiteralItems xs
  | [] => rfl
  | item :: rest => by
      rw [respellItems, areLiteralItems, areLiteralItems, item.isLiteral_respell s,
        areLiteralItems_respellItems s rest]

end

theorem Value.isSettled_canonical {v : Value} (literal : v.isLiteral = true) :
    v.canonical.IsSettled where
  literal := by rw [canonical, isLiteral_respell, literal]
  ordered := by rw [canonical, ordered, respell_respell, Spelling.ordered_after_canonical]

mutual

/-- The size does not depend on the order of option letters and the bits of decimals. -/
theorem Value.wireSize_canonical : ∀ v : Value, v.canonical.wireSize = v.wireSize
  | .document fields => congrArg (· + 5) (fieldsWireSize_canonical fields)
  | .array items => congrArg (· + 5) (itemsWireSize_canonical 0 items)
  | .javaScriptWithScope code scope =>
      congrArg (code.utf8ByteSize + · + 14) (fieldsWireSize_canonical scope)
  | .regex pattern options =>
      congrArg (fun letters => pattern.utf8ByteSize + 1 + (letters.utf8ByteSize + 1))
        (sortLetters_sortLetters options)
  | .double _ | .string _ | .binary _ | .undefined | .objectId _ | .boolean _ | .dateTime _
  | .null | .dbPointer _ _ | .javaScript _ | .symbol _ | .int32 _ | .timestamp _
  | .int64 _ | .decimal128 _ | .minKey | .maxKey => rfl

theorem fieldsWireSize_canonical :
    ∀ fs : List (String × Value), fieldsWireSize (respellFields .canonical fs) = fieldsWireSize fs
  | [] => rfl
  | (name, value) :: rest => by
      have first : (value.respell .canonical).wireSize = value.wireSize :=
        value.wireSize_canonical
      rw [respellFields, fieldsWireSize, fieldsWireSize, first, fieldsWireSize_canonical rest]

theorem itemsWireSize_canonical (index : Nat) :
    ∀ xs : List Value, itemsWireSize index (respellItems .canonical xs) = itemsWireSize index xs
  | [] => rfl
  | item :: rest => by
      have first : (item.respell .canonical).wireSize = item.wireSize := item.wireSize_canonical
      rw [respellItems, itemsWireSize, itemsWireSize, first,
        itemsWireSize_canonical (index + 1) rest]

end

end LogReplay.Bson
