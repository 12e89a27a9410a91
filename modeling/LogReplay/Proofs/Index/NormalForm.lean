/-
Module: LogReplay.Proofs.Index.NormalForm
Purpose: Index specifications are sent out in a normal form, which one pass reaches.
Main exports:
  HasMeaning, Modernized, IsNormal, isNormal_outgoing, outgoing_of_isNormal,
  NormalizesKey, Normalizes, outgoing_normalizes
-/
import LogReplay.Index.Specification
import Mathlib.Data.List.Forall2

/-!
A specification is in normal form if it does not ask for a build in the background, has a
version, and has only meaningful values in its key.  A specification that is sent out is in
normal form, and one in normal form is sent out as it is; so sending out twice is sending out
once.

The values that have a meaning are listed by type.  They are kept, and every other value is
replaced by the ascending order.  A key that is no document is not looked at.
-/

namespace LogReplay.Index

open Bson
open Number (Double)

/-! ## Keys -/

/-- A value of a key that has a meaning of its own: a number other than zero, or a text with
letters in it.  NaN and the infinities are numbers, and of all decimals only the bytes of the
plain zero are taken for zero. -/
inductive HasMeaning : Value → Prop where
  | int32 {n : Int32} (nonzero : n ≠ 0) : HasMeaning (.int32 n)
  | int64 {n : Int64} (nonzero : n ≠ 0) : HasMeaning (.int64 n)
  | double {x : Double} (positive : x.bits ≠ 0) (negative : x.bits ≠ 0x8000000000000000) :
      HasMeaning (.double x)
  | decimal128 {bytes : Vector UInt8 16} (nonzero : bytes.toList ≠ decimalZero) :
      HasMeaning (.decimal128 bytes)
  | string {text : String} (nonempty : text ≠ "") : HasMeaning (.string text)

theorem isLegacyValue_eq_false_iff {v : Value} : isLegacyValue v = false ↔ HasMeaning v := by
  constructor
  · intro meaningful
    cases v with
    | int32 n => exact .int32 (beq_eq_false_iff_ne.mp meaningful)
    | int64 n => exact .int64 (beq_eq_false_iff_ne.mp meaningful)
    | double x =>
        have nonzero := mt (Double.isZero_iff x).mpr (Bool.eq_false_iff.mp meaningful)
        exact .double (fun zero => nonzero (.inl zero)) (fun zero => nonzero (.inr zero))
    | decimal128 bytes => exact .decimal128 (beq_eq_false_iff_ne.mp meaningful)
    | string text => exact .string fun empty => by simp [isLegacyValue, empty] at meaningful
    | _ => cases meaningful
  · rintro (nonzero | nonzero | ⟨positive, negative⟩ | nonzero | nonempty)
    · exact beq_eq_false_iff_ne.mpr nonzero
    · exact beq_eq_false_iff_ne.mpr nonzero
    · exact Bool.eq_false_iff.mpr fun zero => ((Double.isZero_iff _).mp zero).elim positive negative
    · exact beq_eq_false_iff_ne.mpr nonzero
    · simpa [isLegacyValue] using nonempty

theorem isLegacyValue_iff {v : Value} : isLegacyValue v = true ↔ ¬ HasMeaning v := by
  rw [← isLegacyValue_eq_false_iff, Bool.not_eq_false]

/-- What becomes of a field of a key. -/
structure Modernized (field result : String × Value) : Prop where
  name : result.1 = field.1
  kept : HasMeaning field.2 → result.2 = field.2
  replaced : ¬ HasMeaning field.2 → result.2 = .int32 1

theorem modernValue_of_hasMeaning {v : Value} (meaning : HasMeaning v) : modernValue v = v := by
  rw [modernValue, isLegacyValue_eq_false_iff.mpr meaning]
  rfl

theorem modernized_modernValue (name : String) (v : Value) :
    Modernized (name, v) (name, modernValue v) where
  name := rfl
  kept := modernValue_of_hasMeaning
  replaced := by
    intro meaningless
    exact if_pos (isLegacyValue_iff.mpr meaningless)

/-- All values of the key have a meaning. -/
def IsModern (key : Document) : Prop :=
  ∀ field ∈ key, HasMeaning field.2

theorem hasLegacyValue_eq_false_iff {key : Document} :
    hasLegacyValue key = false ↔ IsModern key := by
  simp only [hasLegacyValue, List.any_eq_false, Bool.not_eq_true, isLegacyValue_eq_false_iff]
  rfl

theorem isModern_modernKey (key : Document) : IsModern (modernKey key) := by
  intro field member
  obtain ⟨old, -, rfl⟩ := List.mem_map.mp member
  exact isLegacyValue_eq_false_iff.mp (isLegacyValue_modernValue old.2)

theorem modernKey_of_isModern {key : Document} (modern : IsModern key) : modernKey key = key := by
  rw [modernKey]
  conv => rhs; rw [← List.map_id key]
  refine List.map_congr_left fun field member => ?_
  exact congrArg (Prod.mk field.1) (modernValue_of_hasMeaning (modern field member))

/-! ## Specifications -/

section

variable {spec : Document}

theorem field?_withModernKey_of_ne {name : String} (different : name ≠ "key") :
    (withModernKey spec).field? name = spec.field? name := by
  rw [withModernKey]
  split
  · exact Document.field?_put_of_ne _ different
  · rfl

theorem field?_withModernKey_of_document {key : Document}
    (found : spec.field? "key" = some (.document key)) :
    (withModernKey spec).field? "key" = some (.document (modernKey key)) := by
  rw [withModernKey, Document.fields?_eq_ok_iff.mpr found]
  exact Document.field?_put_self _ _ _

/-- A key that is missing, or no document, is left alone. -/
theorem withModernKey_of_no_document
    (other : ∀ key, spec.field? "key" ≠ some (.document key)) : withModernKey spec = spec := by
  rw [withModernKey]
  split
  · next key read => exact absurd (Document.fields?_eq_ok_iff.mp read) (other key)
  · rfl

theorem field?_withVersion_of_ne {name : String} (different : name ≠ "v") :
    (withVersion spec).field? name = spec.field? name := by
  rw [withVersion]
  split
  · rfl
  · exact Document.field?_put_of_ne _ different

/-- A version is kept, and the missing one is 1. -/
theorem field?_withVersion_self (spec : Document) :
    (withVersion spec).field? "v" = some ((spec.field? "v").getD (.int32 1)) := by
  rw [withVersion, Document.contains]
  cases found : spec.field? "v" with
  | none => exact Document.field?_put_self _ _ _
  | some version => exact found

/-! ## The normal form -/

/-- The form in which specifications are sent out. -/
structure IsNormal (spec : Document) : Prop where
  notInBackground : "background" ∉ spec.names
  versioned : "v" ∈ spec.names
  modern : ∀ key, spec.field? "key" = some (.document key) → IsModern key

theorem field?_outgoing_of_ne {name : String}
    (different : name ∉ ["background", "v", "key"]) :
    (outgoing spec).field? name = spec.field? name := by
  simp only [List.mem_cons, List.not_mem_nil, or_false, not_or] at different
  rw [outgoing, field?_withVersion_of_ne different.2.1, field?_withModernKey_of_ne different.2.2,
    Document.field?_remove_of_ne different.1]

theorem field?_version_outgoing (spec : Document) :
    (outgoing spec).field? "v" = some ((spec.field? "v").getD (.int32 1)) := by
  rw [outgoing, field?_withVersion_self, field?_withModernKey_of_ne (by decide),
    Document.field?_remove_of_ne (by decide)]

theorem field?_key_outgoing_of_document {key : Document}
    (found : spec.field? "key" = some (.document key)) :
    (outgoing spec).field? "key" = some (.document (modernKey key)) := by
  rw [outgoing, field?_withVersion_of_ne (by decide)]
  refine field?_withModernKey_of_document ?_
  rw [Document.field?_remove_of_ne (by decide), found]

theorem field?_key_outgoing_of_no_document
    (other : ∀ key, spec.field? "key" ≠ some (.document key)) :
    (outgoing spec).field? "key" = spec.field? "key" := by
  have same : (spec.remove "background").field? "key" = spec.field? "key" :=
    Document.field?_remove_of_ne (by decide)
  rw [outgoing, field?_withVersion_of_ne (by decide),
    withModernKey_of_no_document (same ▸ other), same]

theorem isNormal_outgoing (spec : Document) : IsNormal (outgoing spec) where
  notInBackground := by
    rw [names_outgoing]
    split <;> simp
  versioned := by
    refine Document.contains_iff_mem_names.mp ?_
    rw [Document.contains, field?_version_outgoing]
    rfl
  modern := by
    intro result found
    by_cases document : ∃ key, spec.field? "key" = some (.document key)
    · obtain ⟨key, original⟩ := document
      rw [field?_key_outgoing_of_document original] at found
      cases found
      exact isModern_modernKey key
    · have other := not_exists.mp document
      rw [field?_key_outgoing_of_no_document other] at found
      exact absurd found (other result)

/-- What is in normal form is sent out as it is. -/
theorem outgoing_of_isNormal (normal : IsNormal spec) : outgoing spec = spec := by
  have removed : spec.remove "background" = spec := by
    refine List.filter_eq_self.mpr fun field member => decide_eq_true ?_
    rintro same
    exact normal.notInBackground (List.mem_map.mpr ⟨field, member, same⟩)
  have modern : withModernKey spec = spec := by
    rw [withModernKey]
    split
    · next key read =>
      rw [Document.fields?_eq_ok_iff] at read
      rw [modernKey_of_isModern (normal.modern key read), Document.put_of_field? read]
    · rfl
  rw [outgoing, removed, modern, withVersion,
    if_pos (Document.contains_iff_mem_names.mpr normal.versioned)]

end

/-- One pass over a key replaces what has no meaning, and says whether it did. -/
structure NormalizesKey (key : Document) : Prop where
  /-- The names and their order are those of the key. -/
  values : List.Forall₂ Modernized key (modernKey key)
  reported : hasLegacyValue key = true ↔ ∃ field ∈ key, ¬ HasMeaning field.2
  unreported : hasLegacyValue (modernKey key) = false
  unchanged : modernKey (modernKey key) = modernKey key

theorem modernKey_normalizes (key : Document) : NormalizesKey key where
  values := by
    refine List.forall₂_map_right_iff.mpr (List.forall₂_same.mpr ?_)
    rintro ⟨name, v⟩ -
    exact modernized_modernValue name v
  reported := by
    rw [← Bool.not_eq_false, hasLegacyValue_eq_false_iff, IsModern]
    simp only [not_forall, exists_prop]
  unreported := hasLegacyValue_eq_false_iff.mpr (isModern_modernKey key)
  unchanged := modernKey_of_isModern (isModern_modernKey key)

/-- One pass over a specification brings it into normal form, and changes nothing that the
normal form does not ask for. -/
structure Normalizes (spec : Document) : Prop where
  normal : IsNormal (outgoing spec)
  idempotent : outgoing (outgoing spec) = outgoing spec
  names : (outgoing spec).names =
    spec.names.filter (· ≠ "background") ++ if "v" ∈ spec.names then [] else ["v"]
  version : (outgoing spec).field? "v" = some ((spec.field? "v").getD (.int32 1))
  others : ∀ name, name ∉ ["background", "v", "key"] →
    (outgoing spec).field? name = spec.field? name
  key : ∀ key, spec.field? "key" = some (.document key) →
    (outgoing spec).field? "key" = some (.document (modernKey key)) ∧ NormalizesKey key
  otherKey : (∀ key, spec.field? "key" ≠ some (.document key)) →
    (outgoing spec).field? "key" = spec.field? "key"

/-- Specifications are sent out in a normal form that one pass reaches. -/
theorem outgoing_normalizes (spec : Document) : Normalizes spec where
  normal := isNormal_outgoing spec
  idempotent := outgoing_of_isNormal (isNormal_outgoing spec)
  names := names_outgoing spec
  version := field?_version_outgoing spec
  others := fun _ => field?_outgoing_of_ne
  key := fun key found => ⟨field?_key_outgoing_of_document found, modernKey_normalizes key⟩
  otherKey := field?_key_outgoing_of_no_document

example :
    outgoing
        [("background", .boolean true),
         ("key", .document [("a", .int32 0), ("b", .string "2dsphere"), ("c", .double .nan)])] =
      [("key", .document [("a", .int32 1), ("b", .string "2dsphere"), ("c", .double .nan)]),
       ("v", .int32 1)] := by
  decide

end LogReplay.Index
