/-
Module: LogReplay.Proofs.Bson.Equality
Purpose: Comparing values is symmetric and transitive, and reflexive where there is no NaN.
Main exports:
  Value.Matches, Value.equals_iff, Value.equals_self_iff, Value.equals_symm,
  Value.equals_trans
-/
import LogReplay.Bson.Equality
import LogReplay.Proofs.Bson.Nesting
import Mathlib.Data.List.Forall2
import Mathlib.Data.List.Perm.Subperm

/-!
`Value.Matches` is one step of the comparison: what has to hold of two values besides the
comparison of their parts.  All that is proved here follows from it by induction on the parts
of one of the values.

Documents are compared as sets of fields, which is symmetric only because a document names
each field once.  A NaN differs from itself, so a value equals itself exactly if there is no
NaN in it, at any depth.
-/

namespace LogReplay.Bson

open Number (Double)

/-! ## Lists that are related item by item -/

section

variable {α : Type} {R : α → α → Prop} {xs ys : List α}

theorem forall₂_symm_of_mem (related : List.Forall₂ R xs ys) :
    (∀ x ∈ xs, ∀ y ∈ ys, R x y → R y x) → List.Forall₂ R ys xs := by
  induction related with
  | nil => exact fun _ => .nil
  | cons first rest inductionHypothesis =>
      intro back
      refine .cons (back _ List.mem_cons_self _ List.mem_cons_self first)
        (inductionHypothesis fun x member y member' => ?_)
      exact back x (List.mem_cons_of_mem _ member) y (List.mem_cons_of_mem _ member')

theorem forall₂_trans_of_mem (related : List.Forall₂ R xs ys) :
    ∀ {zs : List α}, List.Forall₂ R ys zs → (∀ x ∈ xs, ∀ y z, R x y → R y z → R x z) →
      List.Forall₂ R xs zs := by
  induction related with
  | nil => exact fun second _ => second
  | cons first rest inductionHypothesis =>
      intro zs second onward
      cases second with
      | cons first' rest' =>
          exact .cons (onward _ List.mem_cons_self _ _ first first')
            (inductionHypothesis rest' fun x member => onward x (List.mem_cons_of_mem _ member))

end

/-! ## One step of the comparison -/

def Value.isNaN : Value → Bool
  | .double x => x.isNaN
  | _ => false

/-- There is no NaN in the value, at any depth. -/
def Value.isFreeOfNaN (v : Value) : Bool :=
  v.throughout fun part => !part.isNaN

/-- The value has no parts, and is compared by what it is. -/
def Value.isPlain : Value → Bool
  | .double _ | .document _ | .array _ | .javaScriptWithScope _ _ => false
  | _ => true

/-- As many fields, and each of the first in the second document with an equal value. -/
def MatchFields (fs gs : Document) : Prop :=
  fs.length = gs.length ∧
    ∀ name x, (name, x) ∈ fs → ∃ y, gs.field? name = some y ∧ x.equals y = true

/-- As many items, which are equal one by one. -/
abbrev MatchItems : List Value → List Value → Prop :=
  List.Forall₂ fun x y => x.equals y = true

/-- One step of the comparison. -/
inductive Value.Matches : Value → Value → Prop where
  | double {x y : Double} (equal : x.equals y = true) : Matches (.double x) (.double y)
  | document {fs gs : Document} (fields : MatchFields fs gs) :
      Matches (.document fs) (.document gs)
  | array {xs ys : List Value} (items : MatchItems xs ys) : Matches (.array xs) (.array ys)
  | scope (code : String) {fs gs : Document} (fields : MatchFields fs gs) :
      Matches (.javaScriptWithScope code fs) (.javaScriptWithScope code gs)
  | plain {v : Value} (plain : v.isPlain = true) : Matches v v

theorem fieldsWithin_iff {fs : List (String × Value)} {other : Document} :
    fieldsWithin fs other = true ↔
      ∀ name x, (name, x) ∈ fs → ∃ y, other.field? name = some y ∧ x.equals y = true := by
  induction fs with
  | nil => simp [fieldsWithin]
  | cons field rest inductionHypothesis =>
      obtain ⟨name, x⟩ := field
      rw [fieldsWithin, Bool.and_eq_true, inductionHypothesis]
      cases found : other.field? name <;> grind

theorem matchFields_iff {fs gs : Document} :
    (List.length fs == List.length gs && fieldsWithin fs gs) = true ↔ MatchFields fs gs := by
  rw [Bool.and_eq_true, beq_iff_eq, fieldsWithin_iff]
  rfl

theorem matchItems_iff : ∀ {xs ys : List Value}, itemsEqual xs ys = true ↔ MatchItems xs ys
  | [], [] => by simp [itemsEqual]
  | x :: xs, y :: ys => by
      rw [itemsEqual, Bool.and_eq_true, matchItems_iff]
      exact ⟨fun both => .cons both.1 both.2, fun | .cons first rest => ⟨first, rest⟩⟩
  | [], _ :: _ | _ :: _, [] => by simp [itemsEqual]

namespace Value

theorem equals_document_iff {fs gs : Document} :
    (document fs).equals (document gs) = true ↔ MatchFields fs gs := by
  rw [equals]
  exact matchFields_iff

theorem equals_scope_iff {code : String} {fs gs : Document} :
    (javaScriptWithScope code fs).equals (javaScriptWithScope code gs) = true ↔
      MatchFields fs gs := by
  rw [equals, beq_self_eq_true, Bool.true_and]
  exact matchFields_iff

theorem equals_self_of_isPlain {v : Value} (plain : v.isPlain = true) : v.equals v = true := by
  cases v with
  | double | document | array | javaScriptWithScope => cases plain
  | _ => exact beq_self_eq_true _

theorem equals_iff {x y : Value} : x.equals y = true ↔ Matches x y := by
  constructor
  · intro equal
    rw [equals.eq_def] at equal
    split at equal
    · exact .double equal
    · exact .document (matchFields_iff.mp equal)
    · exact .array (matchItems_iff.mp equal)
    · rw [Bool.and_eq_true, beq_iff_eq] at equal
      obtain ⟨rfl, fields⟩ := equal
      exact .scope _ (matchFields_iff.mp fields)
    · next noDouble noDocument noArray noScope =>
      obtain rfl := eq_of_beq equal
      refine .plain ?_
      cases x with
      | double x => exact absurd rfl (noDouble x x rfl)
      | document fs => exact absurd rfl (noDocument fs fs rfl)
      | array xs => exact absurd rfl (noArray xs xs rfl)
      | javaScriptWithScope code scope => exact absurd rfl (noScope code scope code scope rfl)
      | _ => rfl
  · intro fits
    cases fits with
    | double equal => exact equal
    | document fields => exact equals_document_iff.mpr fields
    | array items => exact matchItems_iff.mpr items
    | scope code fields => exact equals_scope_iff.mpr fields
    | plain plain => exact equals_self_of_isPlain plain

end Value

/-! ## Reflexivity -/

section

variable {fs gs hs : Document}

theorem mem_parts_of_mem {name : String} {x : Value} (member : (name, x) ∈ fs) :
    x ∈ fs.map Prod.snd :=
  List.mem_map.mpr ⟨_, member, rfl⟩

theorem matchFields_self_iff (distinct : fs.names.Nodup) :
    MatchFields fs fs ↔ ∀ part ∈ fs.map Prod.snd, part.equals part = true := by
  constructor
  · rintro ⟨-, within⟩ part member
    obtain ⟨⟨name, x⟩, field, rfl⟩ := List.mem_map.mp member
    obtain ⟨y, found, equal⟩ := within name x field
    rw [Document.field?_of_mem distinct field] at found
    cases found
    exact equal
  · intro equal
    refine ⟨rfl, fun name x field => ?_⟩
    exact ⟨x, Document.field?_of_mem distinct field, equal x (mem_parts_of_mem field)⟩

/-- A value equals itself exactly if there is no NaN in it. -/
theorem Value.equals_self_iff {v : Value} (distinct : v.throughout namesFieldsOnce = true) :
    v.equals v = true ↔ v.isFreeOfNaN = true := by
  induction v using induction_on_parts with
  | step v inductionHypothesis =>
      obtain ⟨once, below⟩ := throughout_iff.mp distinct
      have parts : (∀ part ∈ v.parts, part.equals part = true) ↔
          ∀ part ∈ v.parts, part.isFreeOfNaN = true :=
        forall₂_congr fun part member => inductionHypothesis part member (below part member)
      rw [isFreeOfNaN, throughout_iff]
      cases v with
      | double x => simp [equals, Double.equals_self, Value.isNaN, Value.parts]
      | document fs =>
          rw [equals_document_iff, matchFields_self_iff (of_decide_eq_true once)]
          exact parts.trans (and_iff_right rfl).symm
      | javaScriptWithScope code scope =>
          rw [equals_scope_iff, matchFields_self_iff (of_decide_eq_true once)]
          exact parts.trans (and_iff_right rfl).symm
      | array xs =>
          rw [equals, matchItems_iff]
          exact List.forall₂_same.trans (parts.trans (and_iff_right rfl).symm)
      | _ =>
          exact iff_of_true (equals_self_of_isPlain rfl)
            ⟨rfl, fun _ member => absurd member List.not_mem_nil⟩

/-! ## Symmetry -/

/-- Names that are all among as many other names are all of them. -/
theorem names_subset_of_matchFields (distinct : fs.names.Nodup) (fits : MatchFields fs gs) :
    gs.names ⊆ fs.names := by
  have within : fs.names ⊆ gs.names := by
    intro name member
    obtain ⟨⟨_, x⟩, field, rfl⟩ := List.mem_map.mp member
    obtain ⟨y, found, -⟩ := fits.2 _ x field
    exact List.mem_map.mpr ⟨_, Document.mem_of_field? found, rfl⟩
  have few : gs.names.length ≤ fs.names.length := by
    simp only [Document.names, List.length_map, fits.1, Nat.le_refl]
  exact ((distinct.subperm within).perm_of_length_le few).symm.subset

theorem MatchFields.symm (fsDistinct : fs.names.Nodup) (gsDistinct : gs.names.Nodup)
    (back : ∀ x ∈ fs.map Prod.snd, ∀ y ∈ gs.map Prod.snd, x.equals y = true → y.equals x = true)
    (fits : MatchFields fs gs) : MatchFields gs fs := by
  refine ⟨fits.1.symm, fun name y field => ?_⟩
  obtain ⟨⟨_, x⟩, own, rfl⟩ := List.mem_map.mp
    (names_subset_of_matchFields fsDistinct fits (List.mem_map.mpr ⟨_, field, rfl⟩))
  obtain ⟨_, found, equal⟩ := fits.2 _ x own
  rw [Document.field?_of_mem gsDistinct field] at found
  cases found
  exact ⟨x, Document.field?_of_mem fsDistinct own,
    back x (mem_parts_of_mem own) y (mem_parts_of_mem field) equal⟩

/-- Where documents name their fields once, it does not matter which value comes first. -/
theorem Value.equals_symm {x : Value} :
    ∀ {y : Value}, x.throughout namesFieldsOnce = true → y.throughout namesFieldsOnce = true →
      x.equals y = true → y.equals x = true := by
  induction x using induction_on_parts with
  | step x inductionHypothesis =>
      intro y distinct distinct' equal
      obtain ⟨once, below⟩ := throughout_iff.mp distinct
      obtain ⟨once', below'⟩ := throughout_iff.mp distinct'
      have back : ∀ part ∈ x.parts, ∀ other ∈ y.parts,
          part.equals other = true → other.equals part = true := fun part member other member' =>
        inductionHypothesis part member (below part member) (below' other member')
      rw [equals_iff] at equal ⊢
      cases equal with
      | double equal => exact .double (by rwa [Double.equals_comm])
      | document fields =>
          exact .document (fields.symm (of_decide_eq_true once) (of_decide_eq_true once') back)
      | scope code fields =>
          exact .scope code (fields.symm (of_decide_eq_true once) (of_decide_eq_true once') back)
      | array items => exact .array (forall₂_symm_of_mem items back)
      | plain plain => exact .plain plain

/-! ## Transitivity -/

theorem MatchFields.trans
    (onward : ∀ x ∈ fs.map Prod.snd, ∀ y z, x.equals y = true → y.equals z = true →
      x.equals z = true)
    (first : MatchFields fs gs) (second : MatchFields gs hs) : MatchFields fs hs := by
  refine ⟨first.1.trans second.1, fun name x field => ?_⟩
  obtain ⟨y, found, equal⟩ := first.2 name x field
  obtain ⟨z, found', equal'⟩ := second.2 name y (Document.mem_of_field? found)
  exact ⟨z, found', onward x (mem_parts_of_mem field) y z equal equal'⟩

theorem Value.equals_trans {x : Value} :
    ∀ {y z : Value}, x.equals y = true → y.equals z = true → x.equals z = true := by
  induction x using induction_on_parts with
  | step x inductionHypothesis =>
      intro y z first second
      have onward : ∀ part ∈ x.parts, ∀ other another, part.equals other = true →
          other.equals another = true → part.equals another = true :=
        fun part member _ _ => inductionHypothesis part member
      rw [equals_iff] at first second ⊢
      cases first with
      | double equal =>
          cases second with
          | double equal' => exact .double (Double.equals_trans equal equal')
          | plain plain => cases plain
      | document fields =>
          cases second with
          | document fields' => exact .document (fields.trans onward fields')
          | plain plain => cases plain
      | scope code fields =>
          cases second with
          | scope _ fields' => exact .scope code (fields.trans onward fields')
          | plain plain => cases plain
      | array items =>
          cases second with
          | array items' => exact .array (forall₂_trans_of_mem items items' onward)
          | plain plain => cases plain
      | plain plain => exact second

end

end LogReplay.Bson
