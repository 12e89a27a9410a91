/-
Module: LogReplay.Index.Specification
Purpose: Index specifications in the form that a recent database accepts.
Main exports:
  Index.isLegacyValue, Index.modernKey, Index.withVersion, Index.outgoing
-/
import LogReplay.Bson.Document

/-!
Old databases were generous about index specifications.  They built indexes in
the background on request, went without a version, and took any value in a key
for an ascending one unless it was a number or a text with a meaning.  Outgoing
specifications have no such request, always a version, and `1` for every value
that was only ever taken for it.
-/

namespace LogReplay.Index

open Bson

/-- The decimal number `0` with exponent zero. -/
def decimalZero : List UInt8 :=
  [0, 0, 0, 0, 0, 0, 0, 0, 0, 0, 0, 0, 0, 0, 0x40, 0x30]

/-- A value of a key without a meaning of its own: neither a number other than
zero nor a text other than the empty one.  Decimals are compared by their bytes,
so that `0.00` and `-0` do have a meaning. -/
def isLegacyValue : Value → Bool
  | .int32 n => n == 0
  | .int64 n => n == 0
  | .double x => x.isZero
  | .decimal128 bytes => bytes.toList == decimalZero
  | .string text => text.isEmpty
  | _ => true

/-- The value that stands for an ascending order. -/
def ascending : Value :=
  .int32 1

def modernValue (v : Value) : Value :=
  if isLegacyValue v then ascending else v

/-- The key with a meaningful value under each name. -/
def modernKey (key : Document) : Document :=
  key.map fun (name, value) => (name, modernValue value)

/-- The key holds a value without a meaning. -/
def hasLegacyValue (key : Document) : Bool :=
  key.any fun field => isLegacyValue field.2

/-- The specification with version 1, unless it has a version. -/
def withVersion (spec : Document) : Document :=
  if spec.contains "v" then spec else spec.put "v" (.int32 1)

/-- The specification with a modern key, if its key is a document. -/
def withModernKey (spec : Document) : Document :=
  match spec.fields? "key" with
  | .ok key => spec.put "key" (.document (modernKey key))
  | .error _ => spec

/-- A specification as it is sent out. -/
def outgoing (spec : Document) : Document :=
  withVersion (withModernKey (spec.remove "background"))

theorem isLegacyValue_modernValue (v : Value) : isLegacyValue (modernValue v) = false := by
  cases legacy : isLegacyValue v
  · simp [modernValue, legacy]
  · rw [modernValue, if_pos legacy]
    rfl

theorem names_withModernKey (spec : Document) : (withModernKey spec).names = spec.names := by
  rw [withModernKey]
  split
  · next key read =>
    have present := Document.mem_of_field? (Document.fields?_eq_ok_iff.mp read)
    exact Document.names_put_of_contains _ (List.mem_map.mpr ⟨_, present, rfl⟩)
  · rfl

theorem names_withVersion (spec : Document) :
    (withVersion spec).names = spec.names ++ if "v" ∈ spec.names then [] else ["v"] := by
  rw [withVersion]
  by_cases versioned : "v" ∈ spec.names
  · rw [if_pos (Document.contains_iff_mem_names.mpr versioned), if_pos versioned,
      List.append_nil]
  · rw [if_neg (mt Document.contains_iff_mem_names.mp versioned), if_neg versioned,
      Document.put_of_not_contains _ versioned]
    exact List.map_append

/-- The names of a specification stay as they are, in their order.  The request to build in
the background is left out, and a missing version comes last. -/
theorem names_outgoing (spec : Document) :
    (outgoing spec).names =
      spec.names.filter (· ≠ "background") ++ if "v" ∈ spec.names then [] else ["v"] := by
  have kept : "v" ∈ spec.names.filter (· ≠ "background") ↔ "v" ∈ spec.names := by
    simp
  rw [outgoing, names_withVersion, names_withModernKey, Document.names_remove]
  simp only [kept]

theorem version_mem_names_outgoing (spec : Document) : "v" ∈ (outgoing spec).names := by
  rw [names_outgoing, List.mem_append]
  by_cases versioned : "v" ∈ spec.names
  · exact .inl (List.mem_filter.mpr ⟨versioned, rfl⟩)
  · rw [if_neg versioned]
    exact .inr (List.mem_singleton_self "v")

/-- No name is added but the version. -/
theorem mem_names_outgoing {spec : Document} {name : String}
    (member : name ∈ (outgoing spec).names) : name = "v" ∨ name ∈ spec.names := by
  rw [names_outgoing, List.mem_append] at member
  rcases member with old | new
  · exact .inr (List.mem_filter.mp old).1
  · split at new
    · cases new
    · exact .inl (List.mem_singleton.mp new)

/-- A specification that names each field once is sent out as one that does. -/
theorem nodup_names_outgoing {spec : Document} (distinct : spec.names.Nodup) :
    (outgoing spec).names.Nodup := by
  have kept : (spec.names.filter (· ≠ "background")).Nodup := distinct.sublist List.filter_sublist
  rw [names_outgoing]
  split
  · rwa [List.append_nil]
  · next unversioned =>
    refine List.nodup_append.mpr ⟨kept, List.pairwise_singleton _ _, ?_⟩
    rintro name old _ new rfl
    have same : name = "v" := List.mem_singleton.mp new
    exact unversioned (same ▸ (List.mem_filter.mp old).1)

end LogReplay.Index
