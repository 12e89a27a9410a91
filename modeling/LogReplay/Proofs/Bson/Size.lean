/-
Module: LogReplay.Proofs.Bson.Size
Purpose: How many bytes texts take, and an array of documents besides the documents.
Main exports:
  Bson.utf8ByteSize_ofList, Bson.utf8ByteSize_sortLetters, Bson.utf8ByteSize_toString_le,
  Bson.totalSize, Bson.totalSize_le_itemsWireSize, Bson.itemsWireSize_le
-/
import LogReplay.Bson.Wire

/-!
An array is written with the decimal index of each item.  An index has as many bytes as
digits, so what the indices take depends on how many items there are, and on nothing else.
-/

namespace LogReplay.Bson

theorem utf8ByteSize_cons (c : Char) (rest : List Char) :
    (String.ofList (c :: rest)).utf8ByteSize = c.utf8Size + (String.ofList rest).utf8ByteSize := by
  have split : String.ofList (c :: rest) = String.singleton c ++ String.ofList rest := by
    rw [String.singleton_eq_ofList, ← String.ofList_append, List.singleton_append]
  rw [split, String.utf8ByteSize_append, String.utf8ByteSize_singleton]

/-- A text of letters that take one byte each. -/
theorem utf8ByteSize_ofList {letters : List Char} (single : ∀ c ∈ letters, c.utf8Size = 1) :
    (String.ofList letters).utf8ByteSize = letters.length := by
  induction letters with
  | nil => rfl
  | cons c rest inductionHypothesis =>
      obtain ⟨one, later⟩ := List.forall_mem_cons.mp single
      rw [utf8ByteSize_cons, one, inductionHypothesis later, List.length_cons, Nat.add_comm]

/-- Each letter takes a byte at least. -/
theorem length_toList_le (text : String) : text.toList.length ≤ text.utf8ByteSize := by
  have letterwise (letters : List Char) :
      letters.length ≤ (String.ofList letters).utf8ByteSize := by
    induction letters with
    | nil => exact Nat.le_refl 0
    | cons c rest inductionHypothesis =>
        rw [List.length_cons, utf8ByteSize_cons, Nat.add_comm]
        exact Nat.add_le_add c.utf8Size_pos inductionHypothesis
  have own := letterwise text.toList
  rwa [String.ofList_toList] at own

theorem utf8ByteSize_of_perm {letters others : List Char} (same : letters.Perm others) :
    (String.ofList letters).utf8ByteSize = (String.ofList others).utf8ByteSize := by
  induction same with
  | nil => rfl
  | cons c _ inductionHypothesis => rw [utf8ByteSize_cons, utf8ByteSize_cons, inductionHypothesis]
  | swap c d rest =>
      simp only [utf8ByteSize_cons]
      omega
  | trans _ _ first second => rw [first, second]

theorem utf8ByteSize_sortLetters (text : String) :
    (sortLetters text).utf8ByteSize = text.utf8ByteSize := by
  rw [sortLetters, utf8ByteSize_of_perm (List.mergeSort_perm _ _), String.ofList_toList]

theorem utf8ByteSize_replicate {c : Char} (single : c.utf8Size = 1) (letters : Nat) :
    (String.ofList (List.replicate letters c)).utf8ByteSize = letters := by
  rw [utf8ByteSize_ofList, List.length_replicate]
  intro _ member
  rw [List.eq_of_mem_replicate member, single]

theorem utf8Size_of_isDigit {c : Char} (digit : c.isDigit = true) : c.utf8Size = 1 := by
  rw [Char.isDigit, Bool.and_eq_true, decide_eq_true_iff, decide_eq_true_iff] at digit
  exact Char.utf8Size_eq_one_iff.mpr (UInt32.le_trans digit.2 (by decide))

theorem utf8ByteSize_toString_le {n digits : Nat} (positive : 0 < digits)
    (small : n < 10 ^ digits) : (toString n).utf8ByteSize ≤ digits := by
  have measured : (toString n).utf8ByteSize = (Nat.toDigits 10 n).length :=
    utf8ByteSize_ofList fun c member =>
      utf8Size_of_isDigit (Nat.isDigit_of_mem_toDigits (by decide) (by decide) member)
  rw [measured]
  exact (Nat.length_toDigits_le_iff (by decide) positive).mpr small

theorem itemsWireSize_append (items more : List Value) : ∀ index : Nat,
    itemsWireSize index (items ++ more) =
      itemsWireSize index items + itemsWireSize (index + items.length) more := by
  induction items with
  | nil =>
      intro index
      rw [List.nil_append, itemsWireSize, Nat.zero_add]
      rfl
  | cons item rest inductionHypothesis =>
      intro index
      rw [List.cons_append, itemsWireSize, inductionHypothesis, itemsWireSize, List.length_cons,
        Nat.add_assoc index 1, Nat.add_comm 1]
      omega

/-- The number of bytes of several documents. -/
def totalSize : List Document → Nat
  | [] => 0
  | d :: rest => d.wireSize + totalSize rest

theorem totalSize_concat (documents : List Document) (d : Document) :
    totalSize (documents ++ [d]) = totalSize documents + d.wireSize := by
  induction documents with
  | nil => exact Nat.add_comm _ _
  | cons first rest inductionHypothesis =>
      rw [List.cons_append, totalSize, inductionHypothesis, totalSize, Nat.add_assoc]

theorem totalSize_le_itemsWireSize (documents : List Document) : ∀ index : Nat,
    totalSize documents ≤ itemsWireSize index (documents.map .document) := by
  induction documents with
  | nil => exact fun _ => Nat.le_refl 0
  | cons d rest inductionHypothesis =>
      intro index
      have later := inductionHypothesis (index + 1)
      rw [totalSize, List.map_cons, itemsWireSize, Value.wireSize, Document.wireSize]
      omega

/-- Besides the documents themselves, each takes the digits of its index and two bytes. -/
theorem itemsWireSize_le {digits : Nat} (positive : 0 < digits) (documents : List Document) :
    ∀ {index : Nat}, index + documents.length ≤ 10 ^ digits →
      itemsWireSize index (documents.map .document) ≤
        totalSize documents + (digits + 2) * documents.length := by
  induction documents with
  | nil =>
      intro index _
      exact Nat.zero_le _
  | cons d rest inductionHypothesis =>
      intro index few
      rw [List.length_cons] at few ⊢
      have own : (toString index).utf8ByteSize ≤ digits :=
        utf8ByteSize_toString_le positive (by omega)
      have fewer : index + 1 + rest.length ≤ 10 ^ digits := by omega
      have later := inductionHypothesis fewer
      rw [totalSize, List.map_cons, itemsWireSize, Value.wireSize, Document.wireSize, Nat.mul_add]
      omega

end LogReplay.Bson
