/-
Module: LogReplay.Proofs.Bson.Compact
Purpose: What a document stands for takes no more bytes than the document.
Main exports:
  Tag.fits_written?, Value.wireSize_ofRecord_le, Value.hasLiteralScopes,
  Value.wireSize_written_le
-/
import LogReplay.Proofs.Bson.Extended
import LogReplay.Proofs.Bson.Size

/-!
A tag takes four bytes at least, and a document takes seven more around the tag and its
content.  No value takes more than these eleven bytes and the content that it is noted as.

So writing makes no value larger, with one exception.  Code whose scope stands for something
else is written as a mere document of the two, and that may take more than the code did.
-/

namespace LogReplay.Bson

open Text (Base64.bytesOfDigits? Base64.decode? Base64.value?)

/-! ## Contents -/

/-- Each byte is noted in one letter at least. -/
theorem length_bytesOfDigits?_le : ∀ {digits : List Nat} {bytes : List UInt8},
    Base64.bytesOfDigits? digits = some bytes → bytes.length ≤ digits.length := by
  intro digits
  fun_induction Base64.bytesOfDigits? digits with
  | case1 =>
      rintro _ ⟨⟩
      exact Nat.le_refl 0
  | case2 => nofun
  | case3 | case5 =>
      rintro _ ⟨⟩
      exact Nat.le_add_right _ _
  | case4 | case6 => nofun
  | case7 a b c d rest inductionHypothesis =>
      intro bytes read
      obtain ⟨later, found, ⟨⟩⟩ := Option.bind_eq_some_iff.mp read
      have fewer := inductionHypothesis found
      simp only [List.length_cons]
      omega

theorem length_of_mapM {α β : Type} {f : α → Option β} {xs : List α} :
    ∀ {ys : List β}, xs.mapM f = some ys → ys.length = xs.length := by
  induction xs with
  | nil =>
      rintro _ ⟨⟩
      rfl
  | cons x rest inductionHypothesis =>
      intro ys read
      simp only [List.mapM_cons, Option.bind_eq_bind, Option.bind_eq_some_iff] at read
      obtain ⟨y, _, later, found, ⟨⟩⟩ := read
      rw [List.length_cons, List.length_cons, inductionHypothesis found]

theorem length_decode?_le {text : String} {bytes : List UInt8}
    (read : Base64.decode? text = some bytes) : bytes.length ≤ text.utf8ByteSize := by
  simp only [Base64.decode?] at read
  split at read
  · obtain ⟨digits, found, read⟩ := Option.bind_eq_some_iff.mp read
    calc bytes.length
      _ ≤ digits.length := length_bytesOfDigits?_le read
      _ = (text.toList.takeWhile (· ≠ '=')).length := length_of_mapM found
      _ ≤ text.toList.length := (List.takeWhile_sublist _).length_le
      _ ≤ text.utf8ByteSize := length_toList_le text
  · cases read

theorem eq_string_of_text? {v : Value} {text : String} (read : v.text? = some text) :
    v = .string text := by
  cases v <;> cases read
  rfl

theorem eq_document_of_document? {v : Value} {d : Document} (read : v.document? = some d) :
    v = .document d := by
  cases v <;> cases read
  rfl

theorem wireSize_binary_le (subtype : UInt8) (bytes : List UInt8) :
    (Value.binary ⟨subtype, bytes⟩).wireSize ≤ bytes.length + 9 := by
  rw [Value.wireSize]
  dsimp only
  split <;> omega

theorem le_wireSize_of_genericBytes? {v : Value} {bytes : List UInt8}
    (read : Tag.genericBytes? v = some bytes) : bytes.length + 5 ≤ v.wireSize := by
  cases v with
  | binary data =>
      rw [Tag.genericBytes?] at read
      split at read
      · cases read
        rw [Value.wireSize]
        split <;> omega
      · cases read
  | _ => cases read

theorem wireSize_field_le {d : Document} {name : String} {value : Value}
    (member : (name, value) ∈ d) :
    name.utf8ByteSize + 2 + value.wireSize ≤ fieldsWireSize d := by
  induction d with
  | nil => cases member
  | cons field rest inductionHypothesis =>
      rcases List.mem_cons.mp member with rfl | later
      · exact Nat.le_add_right _ _
      · exact Nat.le_add_left_of_le (inductionHypothesis later)

theorem wireSize_two_fields_le {d : Document} {name other : String} {value content : Value}
    (differ : name ≠ other) (first : (name, value) ∈ d) (second : (other, content) ∈ d) :
    (name.utf8ByteSize + 2 + value.wireSize) + (other.utf8ByteSize + 2 + content.wireSize) ≤
      fieldsWireSize d := by
  induction d with
  | nil => cases first
  | cons field rest inductionHypothesis =>
      rw [fieldsWireSize]
      rcases List.mem_cons.mp first with rfl | later <;>
        rcases List.mem_cons.mp second with same | after
      · exact absurd (congrArg Prod.fst same).symm differ
      · exact Nat.add_le_add_left (wireSize_field_le after) _
      · cases same
        exact Nat.add_comm _ _ ▸ Nat.add_le_add_left (wireSize_field_le later) _
      · exact Nat.le_add_left_of_le (inductionHypothesis later after)

theorem mem_of_text? {d : Document} {name text : String} (read : d.text? name = some text) :
    (name, .string text) ∈ d := by
  obtain ⟨value, found, same⟩ := Option.bind_eq_some_iff.mp read
  exact eq_string_of_text? same ▸ Document.mem_of_field? found

/-! ## Values that are noted under a tag -/

namespace Tag

theorem fits_ofText? (tag : Tag) (text : String) :
    Yields (·.wireSize ≤ text.utf8ByteSize + 16) (tag.ofText? text) := by
  cases tag with
  | symbol | code => exact .some (Nat.add_le_add_left (by decide) _)
  | objectId | int32 | int64 | double | decimal | date =>
      refine .map fun _ => ?_
      simp only [Value.wireSize]
      omega
  | _ => exact .none

theorem fits_binaryOfTexts? (letters subtype : String) :
    Yields (·.wireSize ≤ letters.utf8ByteSize + 9) (binaryOfTexts? letters subtype) := by
  unfold binaryOfTexts?
  split
  · next bytes subtype read _ =>
    have size := wireSize_binary_le subtype bytes
    exact .some (Nat.le_trans size (Nat.add_le_add_right (length_decode?_le read) 9))
  · exact .none

theorem fits_writtenBinary? (fields : Document) :
    Yields (·.wireSize ≤ fieldsWireSize fields + 16) (writtenBinary? fields) := by
  unfold writtenBinary?
  split
  · next letters found =>
    have own := wireSize_field_le (mem_of_text? found)
    refine .bind fun subtype _ v read => ?_
    have fits := fits_binaryOfTexts? letters subtype v read
    rw [Value.wireSize] at own
    omega
  · split
    · next bytes n found _ =>
      obtain ⟨value, there, generic⟩ := Option.bind_eq_some_iff.mp found
      have own := wireSize_field_le (Document.mem_of_field? there)
      have least := le_wireSize_of_genericBytes? generic
      split
      · have size := wireSize_binary_le n.toUInt32.toUInt8 bytes
        exact .some (by omega)
      · exact .none
    · exact .none

/-- A value takes at most eleven bytes more than the content that it is written as. -/
theorem fits_written? (tag : Tag) (content : Value) :
    Yields (·.wireSize ≤ content.wireSize + 11) (tag.written? content) := by
  have ofText {text : String} (found : content.text? = some text) :
      text.utf8ByteSize + 16 = content.wireSize + 11 := by
    rw [eq_string_of_text? found, Value.wireSize]
  have ofTag (tag : Tag) : Yields (·.wireSize ≤ content.wireSize + 11)
      (content.text?.bind tag.ofText?) :=
    .bind fun text found => ofText found ▸ tag.fits_ofText? text
  have ofFields {fields : Document} (found : content.document? = some fields) :
      fieldsWireSize fields + 16 = content.wireSize + 11 := by
    rw [eq_document_of_document? found, Value.wireSize]
  have constant (size : Nat) (small : size ≤ 11) {found : Option Value}
      (sized : Yields (·.wireSize = size) found) :
      Yields (·.wireSize ≤ content.wireSize + 11) found :=
    fun v known => Nat.le_add_left_of_le (sized v known ▸ small)
  cases tag with
  | objectId | symbol | int32 | int64 | decimal | code => exact ofTag _
  | double =>
      refine .bind fun text found => .or (ofText found ▸ fits_ofText? _ text) ?_
      exact constant 8 (by decide) (.map fun _ => rfl)
  | decimalBytes =>
      rw [written?]
      cases generic : genericBytes? content with
      | none => exact .none
      | some bytes =>
          have least := le_wireSize_of_genericBytes? generic
          refine .map fun _ => ?_
          rw [Value.wireSize]
          omega
  | binary => exact .bind fun fields found => ofFields found ▸ fits_writtenBinary? fields
  | timestamp =>
      refine .bind fun fields _ => constant 8 (by decide) ?_
      unfold writtenTimestamp?
      split
      · exact .some rfl
      · split
        · exact .some rfl
        · exact .none
      · exact .none
  | regex =>
      refine .bind fun fields found => ?_
      split
      · next pattern options first second =>
        have both := wireSize_two_fields_le (by decide) (mem_of_text? first) (mem_of_text? second)
        have total := ofFields found
        refine .some ?_
        simp only [Value.wireSize, utf8ByteSize_sortLetters] at both ⊢
        omega
      · exact .none
  | dbPointer =>
      refine .bind fun fields found => ?_
      split
      · next collection id first _ =>
        have own := wireSize_field_le (mem_of_text? first)
        have name : "$ref".utf8ByteSize = 4 := by decide
        have total := ofFields found
        refine .some ?_
        simp only [Value.wireSize] at own ⊢
        omega
      · exact .none
  | date =>
      rw [written?.eq_def]
      dsimp only
      split
      · exact constant 8 (by decide) (.some rfl)
      · exact ofTag _
  | minKey | maxKey | undefined =>
      rw [written?]
      split
      · exact .some (Nat.zero_le _)
      · exact .none
  | uuid | scope => exact .none

theorem four_le_of_ofName? {name : String} {tag : Tag} (known : ofName? name = some tag) :
    4 ≤ name.utf8ByteSize := by
  unfold ofName? at known
  split at known <;> first | decide | cases known

end Tag

/-- What a document is taken for takes no more bytes than the document. -/
theorem Value.wireSize_ofRecord_le (fields : Document) :
    (Value.ofRecord fields).wireSize ≤ fieldsWireSize fields + 5 := by
  have itself : (Value.document fields).wireSize = fieldsWireSize fields + 5 := by
    rw [wireSize]
  unfold ofRecord
  split
  · next name content =>
    cases found : (Tag.ofName? name).bind fun tag => tag.written? content with
    | none => exact Nat.le_of_eq itself
    | some v =>
        obtain ⟨tag, known, written⟩ := Option.bind_eq_some_iff.mp found
        have least := Tag.four_le_of_ofName? known
        have fits := tag.fits_written? content v written
        simp only [Option.getD_some, fieldsWireSize]
        omega
  · next first second =>
    cases found : codeWithScope? [first, second] with
    | none => exact Nat.le_of_eq itself
    | some v =>
        rw [Option.getD_some]
        unfold codeWithScope? at found
        split at found
        · next code scope text record =>
          cases found
          obtain ⟨value, there, same⟩ := Option.bind_eq_some_iff.mp record
          rw [eq_document_of_document? same] at there
          have both := wireSize_two_fields_le (by decide) (mem_of_text? text)
            (Document.mem_of_field? there)
          simp only [wireSize] at both ⊢
          omega
        · cases found
  · exact Nat.le_of_eq itself

/-! ## Written values -/

mutual

/-- No scope of code has a tag for a name. -/
def Value.hasLiteralScopes : Value → Bool
  | .document fields => haveLiteralScopes fields
  | .array items => itemsHaveLiteralScopes items
  | .javaScriptWithScope _ scope => areLiteral scope
  | _ => true

def haveLiteralScopes : List (String × Value) → Bool
  | [] => true
  | (_, value) :: rest => value.hasLiteralScopes && haveLiteralScopes rest

def itemsHaveLiteralScopes : List Value → Bool
  | [] => true
  | item :: rest => item.hasLiteralScopes && itemsHaveLiteralScopes rest

end

mutual

/-- Without such scopes, writing makes no value larger. -/
theorem Value.wireSize_written_le :
    ∀ v : Value, v.hasLiteralScopes = true → v.written.wireSize ≤ v.wireSize
  | .document fields, literal => by
      have fieldwise := fieldsWireSize_written_le fields literal
      rw [Value.written, Value.wireSize]
      exact Nat.le_trans (Value.wireSize_ofRecord_le _) (Nat.add_le_add_right fieldwise 5)
  | .array items, literal => by
      have itemwise := itemsWireSize_written_le 0 items literal
      rw [Value.written, Value.wireSize, Value.wireSize]
      exact Nat.add_le_add_right itemwise 5
  | .javaScriptWithScope code scope, literal => by
      rw [Value.written_of_isLiteral (.javaScriptWithScope code scope) literal]
      exact Nat.le_of_eq (Value.wireSize_canonical _)
  | .regex pattern options, _ => Nat.le_of_eq (Value.wireSize_canonical (.regex pattern options))
  | .double _, _ | .string _, _ | .binary _, _ | .undefined, _ | .objectId _, _
  | .boolean _, _ | .dateTime _, _ | .null, _ | .dbPointer _ _, _ | .javaScript _, _
  | .symbol _, _ | .int32 _, _ | .timestamp _, _ | .int64 _, _ | .decimal128 _, _
  | .minKey, _ | .maxKey, _ => Nat.le_refl _

theorem fieldsWireSize_written_le :
    ∀ fs : List (String × Value), haveLiteralScopes fs = true →
      fieldsWireSize (writtenFields fs) ≤ fieldsWireSize fs
  | [], _ => Nat.le_refl _
  | (name, value) :: rest, literal => by
      obtain ⟨first, later⟩ := Bool.and_eq_true_iff.mp literal
      have own := value.wireSize_written_le first
      have others := fieldsWireSize_written_le rest later
      rw [writtenFields, fieldsWireSize, fieldsWireSize]
      omega

theorem itemsWireSize_written_le (index : Nat) :
    ∀ xs : List Value, itemsHaveLiteralScopes xs = true →
      itemsWireSize index (writtenItems xs) ≤ itemsWireSize index xs
  | [], _ => Nat.le_refl _
  | item :: rest, literal => by
      obtain ⟨first, later⟩ := Bool.and_eq_true_iff.mp literal
      have own := item.wireSize_written_le first
      have others := itemsWireSize_written_le (index + 1) rest later
      rw [writtenItems, itemsWireSize, itemsWireSize]
      omega

end

end LogReplay.Bson
