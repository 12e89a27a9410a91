/-
Module: LogReplay.Proofs.Index.Equivalence
Purpose: Comparing index keys is symmetric and transitive, and reflexive but for NaN.
Main exports:
  comparesNaN, KeyValue.equals_self_iff, KeyValue.equals_symm, KeyValue.equals_trans,
  sameKey_iff, sameKey_partial_equivalence
-/
import LogReplay.Index.Comparison
import LogReplay.Proofs.Bson.Equality
import LogReplay.Proofs.Number.NotANumber

/-!
Values are compared by what counts in them: a number, a text, or the value itself.  What
counts is a function of the value alone, so it does not matter that large integers lose
digits on the way, or that some texts become numbers: numbers are compared with numbers,
texts with texts, and other values with other values.

Each of these comparisons is symmetric and transitive.  A NaN differs from itself, and so does
a text that spells it and a value that holds it; every other value counts the same as itself.
-/

namespace LogReplay.Index

open Bson
open Number (Double)

/-- What is compared is a NaN, or holds one.  A text inside of another value is compared as a
text, whatever it spells. -/
def comparesNaN : Value → Bool
  | .string words => Double.spellsNaN words
  | value => !value.isFreeOfNaN

namespace KeyValue

theorem eq_of_ofValue_eq_other {v w : Value} (other : ofValue v = .other w) : w = v := by
  cases v with
  | string words =>
      rw [ofValue] at other
      split at other <;> cases other
  | int32 | int64 | double => cases other
  | _ => exact (KeyValue.other.inj other).symm

theorem equals_self_iff {v : Value} (distinct : v.throughout Value.namesFieldsOnce = true) :
    (ofValue v).equals (ofValue v) = true ↔ comparesNaN v = false := by
  cases v with
  | int32 n | int64 n =>
      exact iff_of_true (by simp [ofValue, equals, Double.equals_self, Double.isNaN_ofInt]) rfl
  | string words =>
      rw [ofValue, comparesNaN]
      cases read : Double.ofText? words with
      | some x => simp [equals, Double.equals_self, Double.isNaN_of_ofText? read]
      | none =>
          refine iff_of_true (beq_self_eq_true words) (Bool.eq_false_iff.mpr fun spelt => ?_)
          rw [Double.ofText?_of_spellsNaN spelt] at read
          cases read
  | _ =>
      rw [comparesNaN, Bool.not_eq_false', ← Value.equals_self_iff distinct]
      · rfl
      · intro words same
        cases same

theorem equals_symm {v w : Value} (distinct : v.throughout Value.namesFieldsOnce = true)
    (distinct' : w.throughout Value.namesFieldsOnce = true)
    (equal : (ofValue v).equals (ofValue w) = true) : (ofValue w).equals (ofValue v) = true := by
  cases one : ofValue v <;> cases two : ofValue w <;> rw [one, two] at equal
  case number.number x y => exact (Double.equals_comm y x).trans equal
  case text.text s t => exact beq_iff_eq.mpr (beq_iff_eq.mp equal).symm
  case other.other x y =>
    obtain rfl := eq_of_ofValue_eq_other one
    obtain rfl := eq_of_ofValue_eq_other two
    exact Value.equals_symm distinct distinct' equal
  all_goals cases equal

theorem equals_trans {k l m : KeyValue} (first : k.equals l = true)
    (second : l.equals m = true) : k.equals m = true := by
  cases k <;> cases l <;> first | cases first | skip
  all_goals cases m <;> first | cases second | skip
  case number.number.number => exact Double.equals_trans first second
  case text.text.text =>
    exact beq_iff_eq.mpr ((beq_iff_eq.mp first).trans (beq_iff_eq.mp second))
  case other.other.other => exact Value.equals_trans first second

end KeyValue

/-- Two fields have the same name, and values that count the same. -/
def SameField (field other : String × Value) : Prop :=
  field.1 = other.1 ∧ (KeyValue.ofValue field.2).equals (KeyValue.ofValue other.2) = true

theorem sameKey_iff : ∀ {a b : Document}, sameKey a b = true ↔ List.Forall₂ SameField a b
  | [], [] => by simp [sameKey]
  | [], _ :: _ | _ :: _, [] => by simp [sameKey]
  | (name, x) :: rest, (other, y) :: others => by
      rw [sameKey, Bool.and_eq_true, Bool.and_eq_true, beq_iff_eq, sameKey_iff,
        List.forall₂_cons, SameField]

section

variable {a b c : Document}

theorem throughout_of_hasDistinctNames {key : Document} (distinct : key.hasDistinctNames = true)
    {field : String × Value} (member : field ∈ key) :
    field.2.throughout Value.namesFieldsOnce = true :=
  (Value.throughout_iff.mp distinct).2 field.2 (List.mem_map.mpr ⟨field, member, rfl⟩)

theorem sameKey_self_iff (distinct : a.hasDistinctNames = true) :
    sameKey a a = true ↔ ∀ field ∈ a, comparesNaN field.2 = false := by
  rw [sameKey_iff, List.forall₂_same]
  refine forall₂_congr fun field member => ?_
  rw [SameField, and_iff_right rfl]
  exact KeyValue.equals_self_iff (throughout_of_hasDistinctNames distinct member)

theorem sameKey_symm (distinct : a.hasDistinctNames = true)
    (distinct' : b.hasDistinctNames = true) (same : sameKey a b = true) :
    sameKey b a = true := by
  rw [sameKey_iff] at same ⊢
  refine forall₂_symm_of_mem same fun field member other member' alike => ⟨alike.1.symm, ?_⟩
  exact KeyValue.equals_symm (throughout_of_hasDistinctNames distinct member)
    (throughout_of_hasDistinctNames distinct' member') alike.2

theorem sameKey_trans (first : sameKey a b = true) (second : sameKey b c = true) :
    sameKey a c = true := by
  rw [sameKey_iff] at first second ⊢
  refine forall₂_trans_of_mem first second fun field _ other another alike alike' => ?_
  exact ⟨alike.1.trans alike'.1, KeyValue.equals_trans alike.2 alike'.2⟩

end

/-- On keys that name their fields once, at every depth, the comparison is symmetric and
transitive, and a key is the same as itself exactly if no NaN is compared. -/
theorem sameKey_partial_equivalence {a b c : Document} (distinct : a.hasDistinctNames = true)
    (distinct' : b.hasDistinctNames = true) :
    (sameKey a a = true ↔ ∀ field ∈ a, comparesNaN field.2 = false) ∧
      (sameKey a b = true → sameKey b a = true) ∧
        (sameKey a b = true → sameKey b c = true → sameKey a c = true) :=
  ⟨sameKey_self_iff distinct, sameKey_symm distinct distinct', sameKey_trans⟩

/-- A key with a whole number and a document in it. -/
def integerKey : Document :=
  [("n", .int32 1), ("d", .document [("p", .null), ("q", .double .zero)])]

/-- The same with a text for the number, and with the fields in another order and a zero of
another sign. -/
def spelledKey : Document :=
  [("n", .string "1e0"), ("d", .document [("q", .double ⟨0x8000000000000000⟩), ("p", .null)])]

def roundedKey : Document :=
  [("n", .double .one), ("d", .document [("p", .null), ("q", .double .zero)])]

theorem mixed_keys_same :
    sameKey integerKey integerKey = true ∧ sameKey spelledKey integerKey = true ∧
      sameKey integerKey roundedKey = true := by
  have read : sameKey integerKey spelledKey = true := by decide +kernel
  have rounded : sameKey spelledKey roundedKey = true := by decide +kernel
  have compared := sameKey_partial_equivalence (a := integerKey) (b := spelledKey)
    (c := roundedKey) (by decide) (by decide)
  exact ⟨compared.1.mpr (by decide), compared.2.1 read, compared.2.2 read rounded⟩

/-- A key with a NaN is not the same as itself. -/
theorem key_with_NaN_differs_from_itself :
    Document.hasDistinctNames [("a", .double .nan)] = true ∧
      sameKey [("a", .double .nan)] [("a", .double .nan)] = false := by
  decide

end LogReplay.Index
