/-
Module: LogReplay.Proofs.Namespace.RoundTrip
Purpose: Namespaces are read back from the texts that are written for them.
Main exports:
  Namespace.Names, Namespace.ofText_eq_iff, Namespace.ofText_text_iff,
  Namespace.text_ofText_iff, Namespace.RoundTrips, Namespace.reading_and_writing_inverse
-/
import LogReplay.Session.Indexing
import Mathlib.Data.List.TakeWhile

/-!
What a text names is a relation between the text and a namespace whose database holds no
dot: the database alone, or the database, a dot, and any collection.  Reading is the function
that belongs to this relation, so each text names exactly one namespace.

The two directions fail on different sides.  Writing before reading loses a namespace only if
its database holds a dot, and no text is read as such a namespace.  Reading before writing
loses one thing, a dot with nothing behind it: a text that ends at its first dot names a
database with an empty collection, and that is written without the dot.  What is read from
the shorter text is still the same.
-/

namespace LogReplay

open Bson (Document)

namespace Namespace

/-- The database stands in front of the first dot. -/
def HasDotlessDatabase (ns : Namespace) : Prop :=
  '.' ∉ ns.database.toList

/-- The first dot is the last character. -/
def EndsAtFirstDot (text : String) : Prop :=
  ∃ before : String, '.' ∉ before.toList ∧ text = before ++ "."

/-- A text names a namespace. -/
inductive Names : String → Namespace → Prop where
  | database {database : String} (dotless : '.' ∉ database.toList) :
      Names database ⟨database, ""⟩
  | collection {database : String} (dotless : '.' ∉ database.toList) (collection : String) :
      Names (database ++ "." ++ collection) ⟨database, collection⟩

/-! ## Reading -/

theorem toList_append_dot_append (before after : String) :
    (before ++ "." ++ after).toList = before.toList ++ '.' :: after.toList := by
  rw [String.toList_append, String.toList_append, List.append_assoc]
  rfl

/-- No character of a dotless text is a border. -/
theorem ne_dot_of_mem {text : String} (dotless : '.' ∉ text.toList) {c : Char}
    (member : c ∈ text.toList) : decide (c ≠ '.') = true :=
  decide_eq_true fun dot => dotless (dot ▸ member)

theorem ofText_of_dotless {text : String} (dotless : '.' ∉ text.toList) :
    ofText text = ⟨text, ""⟩ := by
  have passed : text.toList.dropWhile (· ≠ '.') = [] :=
    List.dropWhile_eq_nil_iff.mpr fun _ member => ne_dot_of_mem dotless member
  rw [ofText, passed]

theorem ofText_append_dot_append {before : String} (dotless : '.' ∉ before.toList)
    (after : String) : ofText (before ++ "." ++ after) = ⟨before, after⟩ := by
  have passed : (before ++ "." ++ after).toList.dropWhile (· ≠ '.') = '.' :: after.toList := by
    rw [toList_append_dot_append,
      List.dropWhile_append_of_pos fun _ member => ne_dot_of_mem dotless member]
    rfl
  have taken : (before ++ "." ++ after).toList.takeWhile (· ≠ '.') = before.toList := by
    rw [toList_append_dot_append,
      List.takeWhile_append_of_pos fun _ member => ne_dot_of_mem dotless member]
    exact List.append_nil _
  simp only [ofText, passed, taken, String.ofList_toList]

theorem Names.ofText_eq {text : String} {ns : Namespace} (names : Names text ns) :
    ofText text = ns := by
  cases names with
  | database dotless => exact ofText_of_dotless dotless
  | collection dotless after => exact ofText_append_dot_append dotless after

theorem exists_names (text : String) : ∃ ns, Names text ns := by
  by_cases dotted : '.' ∈ text.toList
  · obtain ⟨before, after, split, dotless⟩ := List.eq_append_cons_of_mem dotted
    have joined : text = String.ofList before ++ "." ++ String.ofList after := by
      rw [← String.toList_inj, toList_append_dot_append, String.toList_ofList,
        String.toList_ofList, split]
    rw [joined]
    rw [← String.toList_ofList (l := before)] at dotless
    exact ⟨_, .collection dotless _⟩
  · exact ⟨_, .database dotted⟩

/-- Each text names exactly what is read from it. -/
theorem ofText_eq_iff {text : String} {ns : Namespace} : ofText text = ns ↔ Names text ns := by
  refine ⟨fun same => ?_, Names.ofText_eq⟩
  obtain ⟨named, names⟩ := exists_names text
  rwa [← same, names.ofText_eq]

theorem names_ofText (text : String) : Names text (ofText text) :=
  ofText_eq_iff.mp rfl

theorem Names.hasDotlessDatabase {text : String} {ns : Namespace} (names : Names text ns) :
    ns.HasDotlessDatabase := by
  cases names with
  | database dotless => exact dotless
  | collection dotless => exact dotless

/-! ## Writing -/

theorem text_of_collection_empty (database : String) :
    (⟨database, ""⟩ : Namespace).text = database :=
  rfl

theorem text_of_collection_ne {ns : Namespace} (filled : ns.collection ≠ "") :
    ns.text = ns.database ++ "." ++ ns.collection := by
  have nonempty : ¬ns.collection.isEmpty = true := fun empty =>
    filled (String.isEmpty_iff.mp empty)
  rw [text, if_neg nonempty]

/-- A namespace is named by the text that is written for it. -/
theorem HasDotlessDatabase.names_text {ns : Namespace} (dotless : ns.HasDotlessDatabase) :
    Names ns.text ns := by
  obtain ⟨database, collection⟩ := ns
  by_cases empty : collection = ""
  · -- written without the dot, so by the other form
    subst empty
    exact .database dotless
  · rw [text_of_collection_ne empty]
    exact .collection dotless collection

/-- What is written for a namespace is the text that names it, but for a dot at the end. -/
theorem Names.text_eq_or {text : String} {ns : Namespace} (names : Names text ns) :
    ns.text = text ∨ ns.text ++ "." = text ∧ EndsAtFirstDot text := by
  cases names with
  | database dotless => exact .inl (text_of_collection_empty text)
  | @collection database dotless after =>
      by_cases empty : after = ""
      · subst empty
        rw [text_of_collection_empty, String.append_empty]
        exact .inr ⟨rfl, database, dotless, rfl⟩
      · exact .inl (text_of_collection_ne empty)

/-! ## Both ways -/

theorem HasDotlessDatabase.ofText_text {ns : Namespace} (dotless : ns.HasDotlessDatabase) :
    ofText ns.text = ns :=
  dotless.names_text.ofText_eq

theorem ofText_text_iff {ns : Namespace} : ofText ns.text = ns ↔ ns.HasDotlessDatabase :=
  ⟨fun same => (ofText_eq_iff.mp same).hasDotlessDatabase, HasDotlessDatabase.ofText_text⟩

theorem append_dot_ne (text : String) : text ++ "." ≠ text := by
  intro same
  have longer : text.toList ++ ['.'] = text.toList := by
    rw [← String.toList_inj, String.toList_append] at same
    exact same
  exact List.cons_ne_nil _ _ (List.append_right_eq_self.mp longer)

/-- The dot at the end is lost exactly if it is the first one. -/
theorem text_ofText_append_dot_iff {text : String} :
    (ofText text).text ++ "." = text ↔ EndsAtFirstDot text := by
  constructor
  · intro lost
    obtain same | ⟨-, ends⟩ := (names_ofText text).text_eq_or
    · rw [same] at lost
      exact absurd lost (append_dot_ne text)
    · exact ends
  · rintro ⟨before, dotless, rfl⟩
    have read : ofText (before ++ "." ++ "") = ⟨before, ""⟩ :=
      ofText_append_dot_append dotless ""
    rw [String.append_empty] at read
    rw [read, text_of_collection_empty]

theorem text_ofText_iff {text : String} :
    (ofText text).text = text ↔ ¬EndsAtFirstDot text := by
  constructor
  · intro same ends
    rw [← text_ofText_append_dot_iff, same] at ends
    exact append_dot_ne text ends
  · intro beyond
    obtain same | ⟨-, ends⟩ := (names_ofText text).text_eq_or
    · exact same
    · exact absurd ends beyond

theorem ofText_text_ofText (text : String) : ofText (ofText text).text = ofText text :=
  (names_ofText text).hasDotlessDatabase.ofText_text

end Namespace

/-! ## Texts in commands and entries -/

namespace Session

variable {σ : Type} (s : Session σ) {ns : Namespace}

/-- The name under which a collection waits to be dropped is in its own database. -/
theorem hasDotlessDatabase_dropPending (dotless : ns.HasDotlessDatabase) :
    (s.dropPending ns).HasDotlessDatabase :=
  dotless

/-- An entry that builds an index is addressed to the database of the index. -/
theorem address_indexEntry (dotless : ns.HasDotlessDatabase) (spec : Document)
    (identifier : Option Bson.Binary) :
    (indexEntry ns spec identifier).address =
      if identifier.isSome then .command ns.database else .systemIndexes ns.database := by
  cases identifier with
  | some identifier =>
      have same : (Namespace.command ns.database).HasDotlessDatabase := dotless
      exact same.ofText_text
  | none =>
      have same : (Namespace.systemIndexes ns.database).HasDotlessDatabase := dotless
      exact same.ofText_text

/-- A collection is renamed from its own name, and to the one that is dropped afterwards. -/
theorem ofText_renameCommand (dotless : ns.HasDotlessDatabase) :
    ∃ source target : String,
      (renameCommand ns (s.dropPending ns)).field? "renameCollection" = some (.string source) ∧
        (renameCommand ns (s.dropPending ns)).field? "to" = some (.string target) ∧
          .ofText source = ns ∧ .ofText target = s.dropPending ns :=
  ⟨ns.text, (s.dropPending ns).text, rfl, rfl, dotless.ofText_text,
    (s.hasDotlessDatabase_dropPending dotless).ofText_text⟩

end Session

namespace Namespace

/-- Reading and writing are inverse, but for namespaces with a dot in the database and for
texts that end at their first dot. -/
structure RoundTrips : Prop where
  read_written : ∀ ns : Namespace, ofText ns.text = ns ↔ ns.HasDotlessDatabase
  written_read : ∀ text : String, (ofText text).text = text ↔ ¬EndsAtFirstDot text
  /-- Where the text is not written again, it is written without its last dot. -/
  written_cut : ∀ text : String, (ofText text).text ++ "." = text ↔ EndsAtFirstDot text
  /-- A text that has lost its dot is still read alike. -/
  read_again : ∀ text : String, ofText (ofText text).text = ofText text
  renamed : ∀ {σ : Type} (s : Session σ) (ns : Namespace), ns.HasDotlessDatabase →
    ∃ source target : String,
      (Session.renameCommand ns (s.dropPending ns)).field? "renameCollection" =
          some (.string source) ∧
        (Session.renameCommand ns (s.dropPending ns)).field? "to" = some (.string target) ∧
          ofText source = ns ∧ ofText target = s.dropPending ns
  addressed : ∀ (ns : Namespace) (spec : Document) (identifier : Option Bson.Binary),
    ns.HasDotlessDatabase → (Session.indexEntry ns spec identifier).address =
      if identifier.isSome then command ns.database else systemIndexes ns.database

theorem reading_and_writing_inverse : RoundTrips where
  read_written := fun _ => ofText_text_iff
  written_read := fun _ => text_ofText_iff
  written_cut := fun _ => text_ofText_append_dot_iff
  read_again := ofText_text_ofText
  renamed := fun s _ dotless => s.ofText_renameCommand dotless
  addressed := fun _ spec identifier dotless =>
    Session.address_indexEntry dotless spec identifier

example : (ofText "shop.").text = "shop" := by decide

example : ofText (text ⟨"shop.orders", "old"⟩) = ⟨"shop", "orders.old"⟩ := by decide

end Namespace

end LogReplay
