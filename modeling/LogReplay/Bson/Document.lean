/-
Module: LogReplay.Bson.Document
Purpose: Looking up, setting and removing the fields of a document.
Main exports:
  Document.field?, Document.put, Document.remove, Document.append,
  Document.fields?, Document.items, Document.firstName?
-/
import LogReplay.Bson.Value

/-!
Setting a field keeps its place if the name is there already, and appends it
otherwise; so a document extended field by field has its names in the order in
which they were first set.  The laws below say what each operation does to the
lookup and to the list of names.
-/

namespace LogReplay.Bson

/-- Why a field could not be read as the type that was asked for. -/
inductive FieldProblem where
  | absent
  | mistyped
deriving DecidableEq, Repr

def FieldProblem.message : FieldProblem → String
  | .absent => "field is not present"
  | .mistyped => "field does not have the expected type"

namespace Document

/-- The value of the first field of that name. -/
def field? : Document → String → Option Value
  | [], _ => none
  | (name, value) :: rest, key => if name = key then some value else field? rest key

def contains (d : Document) (key : String) : Bool :=
  (d.field? key).isSome

/-- The names in order. -/
def names (d : Document) : List String :=
  d.map Prod.fst

/-- The first name, by which a command is recognised. -/
def firstName? (d : Document) : Option String :=
  d.head?.map Prod.fst

/-- Sets a field: in its place if there is one of that name, else at the end. -/
def put : Document → String → Value → Document
  | [], key, value => [(key, value)]
  | (name, old) :: rest, key, value =>
      if name = key then (name, value) :: rest else (name, old) :: put rest key value

/-- Leaves out every field of that name. -/
def remove (d : Document) (key : String) : Document :=
  d.filter fun field => field.1 ≠ key

/-- Sets all the fields of `more`, one after the other. -/
def extend (d more : Document) : Document :=
  more.foldl (fun d field => d.put field.1 field.2) d

/-- The named field as text, if it is one. -/
def text? (d : Document) (key : String) : Option String :=
  (d.field? key).bind Value.text?

/-- The named field as a document, if it is one. -/
def fields? (d : Document) (key : String) : Except FieldProblem Document :=
  match d.field? key with
  | none => .error .absent
  | some (.document fields) => .ok fields
  | some _ => .error .mistyped

/-- The named field as an array, if it is one. -/
def items (d : Document) (key : String) : Except FieldProblem (List Value) :=
  match d.field? key with
  | none => .error .absent
  | some (.array items) => .ok items
  | some _ => .error .mistyped

theorem fields?_eq_ok_iff {d fields : Document} {key : String} :
    d.fields? key = .ok fields ↔ d.field? key = some (.document fields) := by
  rw [fields?]
  split <;> simp_all

@[simp] theorem field?_nil (key : String) : field? [] key = none :=
  rfl

theorem field?_cons (name key : String) (value : Value) (rest : Document) :
    field? ((name, value) :: rest) key = if name = key then some value else field? rest key :=
  rfl

/-- Of two documents, the first one counts. -/
theorem field?_append (d more : Document) (key : String) :
    field? (d ++ more) key = (d.field? key).or (more.field? key) := by
  induction d with
  | nil => rfl
  | cons field rest ih =>
      obtain ⟨name, value⟩ := field
      rw [List.cons_append, field?_cons, field?_cons]
      split
      · rfl
      · exact ih

/-- A name that does not occur has no value. -/
theorem field?_eq_none_of_not_mem {d : Document} {key : String} (missing : key ∉ d.names) :
    d.field? key = none := by
  induction d with
  | nil => rfl
  | cons field rest ih =>
      obtain ⟨name, old⟩ := field
      have parts : ¬ key = name ∧ key ∉ names rest := by
        simpa [names] using missing
      rw [field?_cons, if_neg (Ne.symm parts.1)]
      exact ih parts.2

/-- What is found under a name is a field of the document. -/
theorem mem_of_field? {d : Document} {key : String} {value : Value}
    (found : d.field? key = some value) : (key, value) ∈ d := by
  induction d with
  | nil => cases found
  | cons field rest ih =>
      obtain ⟨name, old⟩ := field
      rw [field?_cons] at found
      split at found
      · next same =>
        cases same
        cases found
        exact List.mem_cons_self
      · exact List.mem_cons_of_mem _ (ih found)

/-- Where names differ, every field is found under its name. -/
theorem field?_of_mem {d : Document} {key : String} {value : Value} (distinct : d.names.Nodup)
    (member : (key, value) ∈ d) : d.field? key = some value := by
  induction d with
  | nil => cases member
  | cons field rest ih =>
      obtain ⟨name, old⟩ := field
      obtain ⟨fresh, later⟩ := List.nodup_cons.mp distinct
      rw [field?_cons]
      rcases List.mem_cons.mp member with first | other
      · cases first
        rw [if_pos rfl]
      · rw [if_neg, ih later other]
        rintro rfl
        exact fresh (List.mem_map.mpr ⟨_, other, rfl⟩)

theorem contains_iff_mem_names {d : Document} {key : String} :
    d.contains key = true ↔ key ∈ d.names := by
  induction d with
  | nil => simp [contains, names]
  | cons field rest ih =>
      obtain ⟨name, old⟩ := field
      simp only [contains, names] at ih
      simp only [contains, names, field?_cons, List.map_cons, List.mem_cons, ← ih]
      by_cases same : name = key
      · simp [same]
      · simp [same, Ne.symm same]

@[simp] theorem field?_put_self (d : Document) (key : String) (value : Value) :
    (d.put key value).field? key = some value := by
  induction d with
  | nil => simp [put, field?]
  | cons field rest ih =>
      obtain ⟨name, old⟩ := field
      by_cases h : name = key
      · simp [put, field?, h]
      · simp [put, field?, h, ih]

/-- Setting a field to the value it has changes nothing. -/
theorem put_of_field? {d : Document} {key : String} {value : Value}
    (found : d.field? key = some value) : d.put key value = d := by
  induction d with
  | nil => cases found
  | cons field rest ih =>
      obtain ⟨name, old⟩ := field
      rw [field?_cons] at found
      by_cases same : name = key
      · rw [if_pos same] at found
        cases found
        rw [put, if_pos same]
      · rw [if_neg same] at found
        rw [put, if_neg same, ih found]

theorem field?_put_of_ne {d : Document} {key other : String} (value : Value)
    (different : other ≠ key) : (d.put key value).field? other = d.field? other := by
  induction d with
  | nil => simp [put, field?, different.symm]
  | cons field rest ih =>
      obtain ⟨name, old⟩ := field
      by_cases h : name = key
      · subst h
        simp [put, field?, different.symm]
      · by_cases g : name = other
        · subst g
          simp [put, field?, h]
        · simp [put, field?, h, g, ih]

/-- Setting a field changes no other field, nor their order. -/
theorem remove_put_self (d : Document) (key : String) (value : Value) :
    (d.put key value).remove key = d.remove key := by
  induction d with
  | nil => simp [put, remove]
  | cons field rest ih =>
      obtain ⟨name, old⟩ := field
      by_cases h : name = key
      · simp [put, remove, h]
      · simpa [put, remove, h] using ih

/-- Where names differ, a field that has been set is the only one of its name. -/
theorem filter_put_self {d : Document} {key : String} (value : Value)
    (distinct : d.names.Nodup) :
    (d.put key value).filter (fun field => field.1 = key) = [(key, value)] := by
  induction d with
  | nil => simp [put]
  | cons field rest ih =>
      obtain ⟨name, old⟩ := field
      obtain ⟨fresh, later⟩ := List.nodup_cons.mp distinct
      by_cases h : name = key
      · subst h
        have others : rest.filter (fun field => field.1 = name) = [] := by
          rw [List.filter_eq_nil_iff]
          intro field member same
          exact fresh (List.mem_map.mpr ⟨field, member, of_decide_eq_true same⟩)
        simp [put, others]
      · simpa [put, h] using ih later

/-- Setting a field that is there leaves the names as they are. -/
theorem names_put_of_contains {d : Document} {key : String} (value : Value)
    (present : key ∈ d.names) : (d.put key value).names = d.names := by
  induction d with
  | nil => simp [names] at present
  | cons field rest ih =>
      obtain ⟨name, old⟩ := field
      by_cases h : name = key
      · simp [put, names, h]
      · have later : key ∈ names rest := by
          simpa [names, h, Ne.symm h] using present
        have tail := ih later
        simp only [names] at tail ⊢
        simp [put, h, tail]

/-- Setting a field that is not there appends it. -/
theorem put_of_not_contains {d : Document} {key : String} (value : Value)
    (missing : key ∉ d.names) : d.put key value = d ++ [(key, value)] := by
  induction d with
  | nil => rfl
  | cons field rest ih =>
      obtain ⟨name, old⟩ := field
      have parts : ¬ key = name ∧ key ∉ names rest := by
        simpa [names] using missing
      simp [put, Ne.symm parts.1, ih parts.2]

/-- Setting fields of distinct names that are not there appends them all. -/
theorem extend_of_fresh {d more : Document} (distinct : more.names.Nodup)
    (fresh : ∀ name ∈ more.names, name ∉ d.names) : d.extend more = d ++ more := by
  induction more generalizing d with
  | nil => exact (List.append_nil d).symm
  | cons field rest ih =>
      obtain ⟨unrepeated, later⟩ := List.nodup_cons.mp distinct
      have missing : field.1 ∉ d.names := fresh field.1 List.mem_cons_self
      have still : ∀ name ∈ names rest, name ∉ names (d ++ [(field.1, field.2)]) := by
        intro name member there
        rw [names, List.map_append] at there
        rcases List.mem_append.mp there with old | new
        · exact fresh name (List.mem_cons_of_mem _ member) old
        · exact unrepeated (List.mem_singleton.mp new ▸ member)
      rw [extend, List.foldl_cons, put_of_not_contains _ missing]
      exact (ih later still).trans (List.append_assoc d [field] rest)

theorem names_remove (d : Document) (key : String) :
    (d.remove key).names = d.names.filter (· ≠ key) := by
  rw [names, names, remove, List.filter_map]
  rfl

theorem field?_remove_of_ne {d : Document} {key other : String}
    (different : other ≠ key) : (d.remove key).field? other = d.field? other := by
  induction d with
  | nil => rfl
  | cons field rest ih =>
      obtain ⟨name, old⟩ := field
      by_cases h : name = key
      · subst h
        simpa [remove, field?, different.symm] using ih
      · by_cases g : name = other
        · subst g
          simp [remove, field?, h]
        · simpa [remove, field?, h, g] using ih

end Document

end LogReplay.Bson
