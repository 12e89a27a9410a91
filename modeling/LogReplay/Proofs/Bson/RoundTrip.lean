/-
Module: LogReplay.Proofs.Bson.RoundTrip
Purpose: Reading the byte form of a document gives the document back.
Main exports:
  maxWireSize, Document.decode?_encode, Document.ordered_eq_of_encode_eq
-/
import LogReplay.Bson.Reading

/-!
A length is a signed number of four bytes, so only documents below `maxWireSize` have a
form that can be read.  Below it, reading what was written gives back the document, with its
option letters in order, and leaves what comes after it.  This is proved for a value, for
fields and for the items of an array at once, where the bound on the recursion is above the
number of bytes.
-/

namespace LogReplay.Bson

open Number (littleEndian fromLittleEndian fromLittleEndian_littleEndian length_littleEndian)

/-- The lengths that four bytes hold are below this one. -/
def maxWireSize : Nat :=
  2 ^ 31

/-! ## Texts -/

theorem ofUtf8?_utf8 (text : String) : ofUtf8? (utf8 text) = some text := by
  have same : (⟨(utf8 text).toArray⟩ : ByteArray) = text.toByteArray := by
    rw [utf8, Array.toArray_toList]
  rw [ofUtf8?, same, String.fromUTF8?, dif_pos text.isValidUTF8]
  rfl

theorem zero_mem_utf8EncodeChar_iff (c : Char) :
    0 ∈ String.utf8EncodeChar c ↔ c = Char.ofNat 0 := by
  have isNul : c.val.toNat = 0 ↔ c = Char.ofNat 0 := by
    rw [← Char.toNat_inj]
    exact Iff.rfl
  -- Beyond ASCII every byte has its highest bit set.
  simp only [← isNul, String.utf8EncodeChar]
  generalize c.val.toNat = v
  split
  · simp [← UInt8.toNat_inj]
    omega
  · split
    · simp [← UInt8.toNat_inj]
      omega
    · split
      · simp [← UInt8.toNat_inj]
        omega
      · simp [← UInt8.toNat_inj]
        omega

theorem isTerminable_iff {text : String} :
    isTerminable text = true ↔ Char.ofNat 0 ∉ text.toList := by
  have bytes : utf8 text = text.toList.flatMap String.utf8EncodeChar := by
    rw [utf8, ← String.utf8Encode_toList]
    simp [List.utf8Encode]
  rw [isTerminable, Bool.not_eq_true', ← Bool.not_eq_true, List.contains_iff_mem, bytes,
    List.mem_flatMap]
  simp only [zero_mem_utf8EncodeChar_iff, exists_eq_right]

theorem isTerminable_sortLetters {options : String} (terminable : isTerminable options = true) :
    isTerminable (sortLetters options) = true := by
  rw [isTerminable_iff] at terminable ⊢
  rw [sortLetters, String.toList_ofList, List.mem_mergeSort]
  exact terminable

theorem isTerminable_toString (index : Nat) : isTerminable (toString index) = true := by
  rw [isTerminable_iff]
  intro nul
  have digits : Char.ofNat 0 ∈ Nat.toDigits 10 index := by
    rw [← Nat.toList_repr]
    exact nul
  exact absurd (Nat.isDigit_of_mem_toDigits (by decide) (by decide) digits) (by decide)

/-! ## What comes first in some bytes -/

theorem takeBytes_append {count : Nat} {front : List UInt8} (size : front.length = count)
    (rest : List UInt8) : takeBytes count (front ++ rest) = some (front, rest) := by
  subst size
  rw [takeBytes, if_pos (by simp), List.splitAt_eq, List.take_left, List.drop_left]

theorem takeNumber_littleEndian {width n : Nat} (small : n < 256 ^ width) (rest : List UInt8) :
    takeNumber width (littleEndian width n ++ rest) = some (n, rest) := by
  simp only [takeNumber, takeBytes_append (length_littleEndian width n), Option.map_some,
    fromLittleEndian_littleEndian, Nat.mod_eq_of_lt small]

theorem takeNumber_byte (b : UInt8) (rest : List UInt8) :
    takeNumber 1 (b :: rest) = some (b.toNat, rest) := by
  rw [takeNumber, ← List.singleton_append, takeBytes_append List.length_singleton]
  rfl

theorem takeNumber_word (n : UInt32) (rest : List UInt8) :
    takeNumber 4 (littleEndian 4 n.toNat ++ rest) = some (n.toNat, rest) :=
  takeNumber_littleEndian n.toNat_lt rest

theorem takeNumber_longWord (n : UInt64) (rest : List UInt8) :
    takeNumber 8 (littleEndian 8 n.toNat ++ rest) = some (n.toNat, rest) :=
  takeNumber_littleEndian n.toNat_lt rest

theorem takeTerminated_terminated {text : String} (terminable : isTerminable text = true)
    (rest : List UInt8) : takeTerminated (terminated text ++ rest) = some (text, rest) := by
  have noZero : ∀ b ∈ utf8 text, decide (b ≠ 0) = true := by
    intro b member
    rw [isTerminable, Bool.not_eq_true', ← Bool.not_eq_true, List.contains_iff_mem] at terminable
    exact decide_eq_true fun zero => terminable (zero ▸ member)
  have bytes : terminated text ++ rest = utf8 text ++ 0 :: rest := by simp [terminated]
  rw [takeTerminated, bytes, List.takeWhile_append_of_pos noZero,
    List.dropWhile_append_of_pos noZero]
  simp [ofUtf8?_utf8]

theorem takeMeasured_measured {text : String} (small : text.utf8ByteSize + 5 < maxWireSize)
    (rest : List UInt8) : takeMeasured (measured text ++ rest) = some (text, rest) := by
  have size : (utf8 text).length + 1 < 256 ^ 4 := by
    rw [length_utf8]
    simp only [maxWireSize] at small
    omega
  simp only [measured, terminated, List.append_assoc, takeMeasured,
    takeNumber_littleEndian size, Option.bind_eq_bind, Option.bind_some, Nat.add_sub_cancel,
    takeBytes_append rfl, ofUtf8?_utf8, takeBytes_append (List.length_singleton)]

theorem takeVector_toList {count : Nat} (bytes : Vector UInt8 count) (rest : List UInt8) :
    takeVector count (bytes.toList ++ rest) = some (bytes, rest) := by
  have size : bytes.toList.length = count := Vector.length_toList
  rw [takeVector, dif_pos (by simp)]
  simp only [List.take_left' size, List.drop_left' size]
  rfl

theorem takeBinary_encode {b : Binary} (small : b.bytes.length + 5 ≤ maxWireSize)
    (rest : List UInt8) : takeBinary (b.encode ++ rest) = some (b, rest) := by
  have outer : b.bytes.length + 4 < 256 ^ 4 := Nat.lt_trans small (by decide)
  have size : b.bytes.length < 256 ^ 4 := by omega
  by_cases inner : b.subtype = innerLengthSubtype
  · simp only [takeBinary, Binary.encode, if_pos inner, List.append_assoc, List.cons_append,
      takeNumber_littleEndian outer, takeNumber_littleEndian size, takeNumber_byte,
      takeBytes_append rfl, Option.bind_eq_bind, Option.bind_some, UInt8.ofNat_toNat]
  · simp only [takeBinary, Binary.encode, if_neg inner, List.append_assoc, List.cons_append,
      takeNumber_littleEndian size, takeNumber_byte, takeBytes_append rfl, Option.bind_eq_bind,
      Option.bind_some, UInt8.ofNat_toNat]

theorem Kind.tag_ne_zero (kind : Kind) : kind.tag ≠ 0 := by
  cases kind <;> decide

/-! ## Values, fields and items -/

/-- The length in front of some fields is skipped. -/
theorem takeNumber_framed {body : List UInt8} (small : body.length + 5 < maxWireSize)
    (rest : List UInt8) :
    takeNumber 4 (framed body ++ rest) = some (body.length + 5, body ++ 0 :: rest) := by
  have size : body.length + 5 < 256 ^ 4 := Nat.lt_trans small (by decide)
  simp only [framed, List.append_assoc, takeNumber_littleEndian size, List.singleton_append]

mutual

/-- Reading takes the bytes of the value, and leaves what comes after them. -/
theorem Value.takeValue_encode :
    ∀ (v : Value) (fuel : Nat) (rest : List UInt8), v.isEncodable = true →
      v.wireSize < maxWireSize → v.wireSize < fuel →
        takeValue fuel v.kind.tag (v.encode ++ rest) = some (v.ordered, rest)
  | v, 0, rest, encodable, small, enough => absurd enough (Nat.not_lt_zero _)
  | .document fields, fuel + 1, rest, encodable, small, enough => by
      rw [Value.wireSize] at small enough
      have inner := takeFields_encodeFields fields fuel rest
        (by simpa only [Value.isEncodable] using encodable) (by omega) (by omega)
      rw [← length_encodeFields] at small
      simp only [Value.kind, Kind.tag, Value.encode, takeValue, takeNumber_framed small,
        Option.bind_eq_bind, Option.bind_some, inner]
      rfl
  | .array items, fuel + 1, rest, encodable, small, enough => by
      rw [Value.wireSize] at small enough
      obtain ⟨fields, inner, same⟩ := takeFields_encodeItems items 0 fuel rest
        (by simpa only [Value.isEncodable] using encodable) (by omega) (by omega)
      rw [← length_encodeItems] at small
      simp only [Value.kind, Kind.tag, Value.encode, takeValue, takeNumber_framed small,
        Option.bind_eq_bind, Option.bind_some, inner, same]
      rfl
  | .javaScriptWithScope code scope, fuel + 1, rest, encodable, small, enough => by
      rw [Value.wireSize] at small enough
      have inner := takeFields_encodeFields scope fuel rest
        (by simpa only [Value.isEncodable] using encodable) (by omega) (by omega)
      rw [← length_encodeFields] at small
      have text : code.utf8ByteSize + 5 < maxWireSize := by omega
      have body : (encodeFields scope).length + 5 < maxWireSize := by omega
      have whole : (measured code ++ framed (encodeFields scope)).length + 4 < 256 ^ 4 := by
        rw [List.length_append, length_measured, length_framed]
        exact Nat.lt_trans (by omega) (show maxWireSize < 256 ^ 4 by decide)
      simp only [Value.kind, Kind.tag, Value.encode, takeValue, List.append_assoc,
        takeNumber_littleEndian whole, takeMeasured_measured text, takeNumber_framed body,
        Option.bind_eq_bind, Option.bind_some, inner]
      rfl
  | .regex pattern options, fuel + 1, rest, encodable, small, enough => by
      rw [Value.isEncodable, Bool.and_eq_true] at encodable
      simp only [Value.kind, Kind.tag, Value.encode, takeValue, List.append_assoc,
        takeTerminated_terminated encodable.1,
        takeTerminated_terminated (isTerminable_sortLetters encodable.2), Option.bind_eq_bind,
        Option.bind_some]
      rfl
  | .dbPointer collection id, fuel + 1, rest, encodable, small, enough => by
      have text : collection.utf8ByteSize + 5 < maxWireSize := by
        rw [Value.wireSize] at small
        omega
      simp only [Value.kind, Kind.tag, Value.encode, takeValue, List.append_assoc,
        takeMeasured_measured text, takeVector_toList, Option.bind_eq_bind, Option.bind_some]
      rfl
  | .string text, fuel + 1, rest, encodable, small, enough
  | .javaScript text, fuel + 1, rest, encodable, small, enough
  | .symbol text, fuel + 1, rest, encodable, small, enough => by
      simp only [Value.kind, Kind.tag, Value.encode, takeValue, takeMeasured_measured small,
        Option.map_some]
      rfl
  | .binary b, fuel + 1, rest, encodable, small, enough => by
      have bounded : b.bytes.length + 5 ≤ maxWireSize := by
        rw [Value.wireSize] at small
        split at small <;> omega
      simp only [Value.kind, Kind.tag, Value.encode, takeValue, takeBinary_encode bounded,
        Option.map_some]
      rfl
  | .objectId bytes, fuel + 1, rest, encodable, small, enough
  | .decimal128 bytes, fuel + 1, rest, encodable, small, enough => by
      simp only [Value.kind, Kind.tag, Value.encode, takeValue, takeVector_toList,
        Option.map_some]
      rfl
  | .double x, fuel + 1, rest, encodable, small, enough => by
      simp only [Value.kind, Kind.tag, Value.encode, takeValue, takeNumber_longWord,
        Option.map_some, UInt64.ofNat_toNat]
      rfl
  | .dateTime n, fuel + 1, rest, encodable, small, enough
  | .int64 n, fuel + 1, rest, encodable, small, enough => by
      simp only [Value.kind, Kind.tag, Value.encode, takeValue, takeNumber_longWord,
        Option.map_some, UInt64.ofNat_toNat, Int64.toInt64_toUInt64]
      rfl
  | .int32 n, fuel + 1, rest, encodable, small, enough => by
      simp only [Value.kind, Kind.tag, Value.encode, takeValue, takeNumber_word,
        Option.map_some, UInt32.ofNat_toNat, Int32.toInt32_toUInt32]
      rfl
  | .timestamp t, fuel + 1, rest, encodable, small, enough => by
      simp only [Value.kind, Kind.tag, Value.encode, Timestamp.encode, takeValue,
        List.append_assoc, takeNumber_word, Option.bind_eq_bind, Option.bind_some,
        UInt32.ofNat_toNat]
      rfl
  | .boolean flag, fuel + 1, rest, encodable, small, enough => by
      simp only [Value.kind, Kind.tag, Value.encode, takeValue, List.singleton_append,
        takeNumber_byte, Option.map_some]
      cases flag <;> rfl
  | .undefined, fuel + 1, rest, encodable, small, enough
  | .null, fuel + 1, rest, encodable, small, enough
  | .minKey, fuel + 1, rest, encodable, small, enough
  | .maxKey, fuel + 1, rest, encodable, small, enough => by
      simp only [Value.kind, Kind.tag, Value.encode, takeValue, List.nil_append]
      rfl

theorem takeFields_encodeFields :
    ∀ (fs : List (String × Value)) (fuel : Nat) (rest : List UInt8), areEncodable fs = true →
      fieldsWireSize fs < maxWireSize → fieldsWireSize fs < fuel →
        takeFields fuel (encodeFields fs ++ 0 :: rest) = some (respellFields .ordered fs, rest)
  | fs, 0, rest, encodable, small, enough => absurd enough (Nat.not_lt_zero _)
  | [], fuel + 1, rest, encodable, small, enough => rfl
  | (name, value) :: fs, fuel + 1, rest, encodable, small, enough => by
      rw [fieldsWireSize] at small enough
      rw [areEncodable, Bool.and_eq_true, Bool.and_eq_true] at encodable
      have first := value.takeValue_encode fuel (encodeFields fs ++ 0 :: rest)
        encodable.1.2 (by omega) (by omega)
      have others := takeFields_encodeFields fs fuel rest encodable.2 (by omega) (by omega)
      simp only [encodeFields, List.cons_append, List.append_assoc, takeFields,
        if_neg value.kind.tag_ne_zero, takeTerminated_terminated encodable.1.1,
        Option.bind_eq_bind, Option.bind_some, first, others]
      rfl

/-- The names of the items are read as well, but an array does not keep them. -/
theorem takeFields_encodeItems :
    ∀ (xs : List Value) (index : Nat) (fuel : Nat) (rest : List UInt8),
      areEncodableItems xs = true → itemsWireSize index xs < maxWireSize →
        itemsWireSize index xs < fuel →
          ∃ fields, takeFields fuel (encodeItems index xs ++ 0 :: rest) = some (fields, rest) ∧
            fields.map Prod.snd = respellItems .ordered xs
  | xs, index, 0, rest, encodable, small, enough => absurd enough (Nat.not_lt_zero _)
  | [], index, fuel + 1, rest, encodable, small, enough => ⟨[], rfl, rfl⟩
  | item :: xs, index, fuel + 1, rest, encodable, small, enough => by
      rw [itemsWireSize] at small enough
      rw [areEncodableItems, Bool.and_eq_true] at encodable
      have first := item.takeValue_encode fuel (encodeItems (index + 1) xs ++ 0 :: rest)
        encodable.1 (by omega) (by omega)
      obtain ⟨fields, others, same⟩ := takeFields_encodeItems xs (index + 1) fuel rest
        encodable.2 (by omega) (by omega)
      refine ⟨(toString index, item.ordered) :: fields, ?_, ?_⟩
      · simp only [encodeItems, List.cons_append, List.append_assoc, takeFields,
          if_neg item.kind.tag_ne_zero, takeTerminated_terminated (isTerminable_toString index),
          Option.bind_eq_bind, Option.bind_some, first, others]
      · rw [List.map_cons, same]
        rfl

end

/-- Reading what was written gives the document, with its option letters in order. -/
theorem Document.decode?_encode {d : Document} (encodable : d.isEncodable = true)
    (small : d.wireSize < maxWireSize) : Document.decode? d.encode = some d.ordered := by
  have size : d.encode.length = fieldsWireSize d + 5 := d.length_encode
  have body : (encodeFields d).length + 5 < maxWireSize := by
    rw [length_encodeFields]
    exact small
  have fields := takeFields_encodeFields d d.encode.length [] encodable
    (Nat.lt_of_le_of_lt (Nat.le_add_right _ 5) small) (by omega)
  have front : takeNumber 4 d.encode =
      some ((encodeFields d).length + 5, encodeFields d ++ [0]) := by
    rw [Document.encode, ← takeNumber_framed body [], List.append_nil]
  simp only [Document.decode?, front, fields, Option.bind_eq_bind, Option.bind_some]
  rfl

/-- Documents with the same bytes differ in the order of option letters at the most. -/
theorem Document.ordered_eq_of_encode_eq {d other : Document}
    (encodable : d.isEncodable = true) (small : d.wireSize < maxWireSize)
    (otherEncodable : other.isEncodable = true) (otherSmall : other.wireSize < maxWireSize)
    (same : d.encode = other.encode) : d.ordered = other.ordered := by
  have read := Document.decode?_encode encodable small
  rw [same, Document.decode?_encode otherEncodable otherSmall] at read
  exact (Option.some.inj read).symm

end LogReplay.Bson
