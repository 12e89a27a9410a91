/-
Module: LogReplay.Bson.Canonical
Purpose: The normal forms of values that can be written in several ways: option
  letters of regular expressions, and decimals.
Main exports:
  Value.respell, Value.ordered, Value.canonical, Document.ordered,
  Document.canonical
-/
import LogReplay.Bson.Value
import LogReplay.Number.Decimal

/-!
The option letters of a regular expression are a set, and the normal form lists
them in code point order.  A decimal has one normal pattern among the many bit
patterns that stand for it.

A document that is decoded has its option letters in order, and keeps the bits of
its decimals: it is `ordered`.  A document that an entry is turned into has normal
decimals as well: it is `canonical`.  Both hold at every depth, and nothing else
about a document changes.  The two are one operation, `respell`, and
`respell_respell` says that doing it twice is doing it once; so a canonical
document is its own canonical form, and it is in order.
-/

namespace LogReplay.Bson

open Number (Decimal)

/-- The letters of a text in code point order. -/
def sortLetters (text : String) : String :=
  String.ofList (text.toList.mergeSort fun a b => a.val ≤ b.val)

/-- A new way to write the options of regular expressions, and decimals. -/
structure Spelling where
  options : String → String
  decimal : Vector UInt8 16 → Vector UInt8 16

namespace Spelling

/-- Options in order; decimals as they are. -/
def ordered : Spelling :=
  ⟨sortLetters, id⟩

/-- Options in order, and normal decimals. -/
def canonical : Spelling :=
  ⟨sortLetters, fun bytes => (Decimal.ofBytes bytes).toBytes⟩

/-- One spelling on top of another. -/
def after (outer inner : Spelling) : Spelling :=
  ⟨outer.options ∘ inner.options, outer.decimal ∘ inner.decimal⟩

end Spelling

mutual

/-- Writes the options and decimals at every depth in the given way. -/
def Value.respell (s : Spelling) : Value → Value
  | .regex pattern options => .regex pattern (s.options options)
  | .decimal128 bytes => .decimal128 (s.decimal bytes)
  | .document fields => .document (respellFields s fields)
  | .array items => .array (respellItems s items)
  | .javaScriptWithScope code scope => .javaScriptWithScope code (respellFields s scope)
  | value => value

def respellFields (s : Spelling) : List (String × Value) → List (String × Value)
  | [] => []
  | (name, value) :: rest => (name, value.respell s) :: respellFields s rest

def respellItems (s : Spelling) : List Value → List Value
  | [] => []
  | item :: rest => item.respell s :: respellItems s rest

end

def Value.ordered (v : Value) : Value :=
  v.respell .ordered

def Value.canonical (v : Value) : Value :=
  v.respell .canonical

def Document.ordered (d : Document) : Document :=
  respellFields .ordered d

def Document.canonical (d : Document) : Document :=
  respellFields .canonical d

mutual

theorem Value.respell_respell (outer inner : Spelling) :
    ∀ v : Value, (v.respell inner).respell outer = v.respell (outer.after inner)
  | .regex _ _ => rfl
  | .decimal128 _ => rfl
  | .document fields => by
      simp only [Value.respell]
      rw [respellFields_respellFields outer inner fields]
  | .array items => by
      simp only [Value.respell]
      rw [respellItems_respellItems outer inner items]
  | .javaScriptWithScope _ scope => by
      simp only [Value.respell]
      rw [respellFields_respellFields outer inner scope]
  | .double _ | .string _ | .binary _ | .undefined | .objectId _ | .boolean _
  | .dateTime _ | .null | .dbPointer _ _ | .javaScript _ | .symbol _ | .int32 _
  | .timestamp _ | .int64 _ | .minKey | .maxKey => rfl

theorem respellFields_respellFields (outer inner : Spelling) :
    ∀ fs : List (String × Value),
      respellFields outer (respellFields inner fs) = respellFields (outer.after inner) fs
  | [] => rfl
  | (_, value) :: rest => by
      simp only [respellFields]
      rw [Value.respell_respell outer inner value, respellFields_respellFields outer inner rest]

theorem respellItems_respellItems (outer inner : Spelling) :
    ∀ xs : List Value,
      respellItems outer (respellItems inner xs) = respellItems (outer.after inner) xs
  | [] => rfl
  | item :: rest => by
      simp only [respellItems]
      rw [Value.respell_respell outer inner item, respellItems_respellItems outer inner rest]

end

theorem sortLetters_sortLetters (text : String) :
    sortLetters (sortLetters text) = sortLetters text := by
  have sorted :
      (text.toList.mergeSort fun a b => decide (a.val ≤ b.val)).Pairwise
        fun a b => decide (a.val ≤ b.val) = true :=
    List.pairwise_mergeSort
      (fun a b c h k => by
        simp only [decide_eq_true_eq] at h k ⊢
        exact UInt32.le_trans h k)
      (fun a b => by simpa using UInt32.le_total a.val b.val) text.toList
  simp only [sortLetters, String.toList_ofList]
  rw [List.mergeSort_of_pairwise sorted]

namespace Spelling

theorem canonical_after_canonical : canonical.after canonical = canonical := by
  simp only [after, canonical, Spelling.mk.injEq]
  refine ⟨funext sortLetters_sortLetters, funext fun bytes => ?_⟩
  simp only [Function.comp_apply, Decimal.ofBytes_toBytes]

theorem ordered_after_canonical : ordered.after canonical = canonical := by
  simp only [after, ordered, canonical, Spelling.mk.injEq]
  exact ⟨funext sortLetters_sortLetters, rfl⟩

end Spelling

theorem Document.canonical_canonical (d : Document) :
    Document.canonical (Document.canonical d) = Document.canonical d := by
  simp only [Document.canonical, respellFields_respellFields,
    Spelling.canonical_after_canonical]

end LogReplay.Bson
