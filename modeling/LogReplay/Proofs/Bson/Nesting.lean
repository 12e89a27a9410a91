/-
Module: LogReplay.Proofs.Bson.Nesting
Purpose: Values inside of values, at any depth.
Main exports:
  Value.parts, Value.induction_on_parts, Value.throughout, Value.throughout_iff,
  Document.hasDistinctNames
-/
import LogReplay.Bson.Document

/-!
A document, an array and the scope of some code are put together from values; all other
values have no parts.  What holds of a value whenever it holds of its parts holds of all
values.

A condition that is to hold at every depth is given as a condition on one value: a value
satisfies it `throughout` if the value does and all its parts do throughout.
-/

namespace LogReplay.Bson

/-- The values that a value is put together from. -/
def Value.parts : Value → List Value
  | .document fields => fields.map Prod.snd
  | .array items => items
  | .javaScriptWithScope _ scope => scope.map Prod.snd
  | _ => []

theorem sizeOf_lt_of_mem_map_snd {fields : List (String × Value)} {part : Value}
    (member : part ∈ fields.map Prod.snd) : sizeOf part < sizeOf fields := by
  obtain ⟨⟨name, value⟩, field, rfl⟩ := List.mem_map.mp member
  have smaller := List.sizeOf_lt_of_mem field
  rw [Prod.mk.sizeOf_spec] at smaller
  show sizeOf value < sizeOf fields
  omega

theorem Value.sizeOf_lt_of_mem_parts {v part : Value} (member : part ∈ v.parts) :
    sizeOf part < sizeOf v := by
  cases v with
  | document fields =>
      have smaller := sizeOf_lt_of_mem_map_snd member
      simp only [document.sizeOf_spec]
      omega
  | array items =>
      have smaller : sizeOf part < sizeOf items := List.sizeOf_lt_of_mem member
      simp only [array.sizeOf_spec]
      omega
  | javaScriptWithScope code scope =>
      have smaller := sizeOf_lt_of_mem_map_snd member
      simp only [javaScriptWithScope.sizeOf_spec]
      omega
  | _ => cases member

/-- What holds of a value whenever it holds of its parts holds of all values. -/
theorem Value.induction_on_parts {motive : Value → Prop}
    (step : ∀ v : Value, (∀ part ∈ v.parts, motive part) → motive v) (v : Value) : motive v :=
  step v fun part member =>
    have : sizeOf part < sizeOf v := sizeOf_lt_of_mem_parts member
    induction_on_parts step part
termination_by sizeOf v

mutual

/-- The condition holds of the value and of all values in it, at every depth. -/
def Value.throughout (condition : Value → Bool) : Value → Bool
  | .document fields => condition (.document fields) && fieldsThroughout condition fields
  | .array items => condition (.array items) && itemsThroughout condition items
  | .javaScriptWithScope code scope =>
      condition (.javaScriptWithScope code scope) && fieldsThroughout condition scope
  | value => condition value

def fieldsThroughout (condition : Value → Bool) : List (String × Value) → Bool
  | [] => true
  | (_, value) :: rest => value.throughout condition && fieldsThroughout condition rest

def itemsThroughout (condition : Value → Bool) : List Value → Bool
  | [] => true
  | item :: rest => item.throughout condition && itemsThroughout condition rest

end

section

variable {condition : Value → Bool}

theorem itemsThroughout_iff {items : List Value} :
    itemsThroughout condition items = true ↔
      ∀ item ∈ items, item.throughout condition = true := by
  induction items with
  | nil => simp [itemsThroughout]
  | cons item rest inductionHypothesis => simp [itemsThroughout, inductionHypothesis]

theorem fieldsThroughout_iff {fields : List (String × Value)} :
    fieldsThroughout condition fields = true ↔
      ∀ part ∈ fields.map Prod.snd, part.throughout condition = true := by
  induction fields with
  | nil => simp [fieldsThroughout]
  | cons field rest inductionHypothesis =>
      rw [fieldsThroughout, Bool.and_eq_true, inductionHypothesis, List.map_cons,
        List.forall_mem_cons]

theorem Value.throughout_iff {v : Value} :
    v.throughout condition = true ↔
      condition v = true ∧ ∀ part ∈ v.parts, part.throughout condition = true := by
  cases v with
  | document fields => rw [throughout, Bool.and_eq_true, fieldsThroughout_iff]; rfl
  | array items => rw [throughout, Bool.and_eq_true, itemsThroughout_iff]; rfl
  | javaScriptWithScope code scope =>
      rw [throughout, Bool.and_eq_true, fieldsThroughout_iff]; rfl
  | _ => simp [throughout, parts]

end

/-- A document, or the scope of some code, names each of its fields once. -/
def Value.namesFieldsOnce : Value → Bool
  | .document fields => decide (Document.names fields).Nodup
  | .javaScriptWithScope _ scope => decide (Document.names scope).Nodup
  | _ => true

/-- The document names each field once, and so do all documents in it. -/
def Document.hasDistinctNames (d : Document) : Bool :=
  (Value.document d).throughout Value.namesFieldsOnce

end LogReplay.Bson
