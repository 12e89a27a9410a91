/-
Module: LogReplay.Proofs.Transaction.Contents
Purpose: What the entries of a transaction say that is to be done.
Main exports:
  operationsIn?, contents?, contents?_of_operations, operations_of_contents?,
  isLiteral_of_mem_operations
-/
import LogReplay.Proofs.Entry.Literal
import LogReplay.Transaction.Operations

/-!
The contents of a transaction are defined here from its entries alone, as one list or
not at all.  Operations that are read one by one without a fault are the contents, and
where there are contents no fault is met.
-/

namespace LogReplay.Transaction

open Bson

/-- An element of an array of operations, with timestamp, term and hash of the entry that
carried it. -/
def operationAt? (carrier : Entry) : Value → Option Entry
  | .document fields =>
      (Entry.ofDocument? fields).map fun e =>
        { e with timestamp := carrier.timestamp, term := carrier.term, hash := carrier.hash }
  | _ => none

/-- The operations that one entry carries. -/
def operationsIn? (e : Entry) : Option (List Entry) :=
  if e.commandName? = some "applyOps" then
    match e.body.field? "applyOps" with
    | some (.array items) => items.mapM (operationAt? e)
    | _ => none
  else some []

/-- The operations that entries carry, one entry after the other. -/
def contents? : List Entry → Option (List Entry)
  | [] => some []
  | e :: rest => do
      let operations ← operationsIn? e
      let later ← contents? rest
      some (operations ++ later)

theorem operationAt?_of_readOperation {carrier operation : Entry} {element : Value}
    (read : readOperation carrier element = .ok operation) :
    operationAt? carrier element = some operation := by
  cases element with
  | document fields =>
      rw [readOperation] at read
      cases parsed : Entry.ofDocument? fields with
      | none =>
          rw [parsed] at read
          cases read
      | some e =>
          rw [parsed] at read
          cases read
          rw [operationAt?, parsed]
          rfl
  | _ => cases read

theorem mapM_operationAt?_of_map_readOperation {carrier : Entry} {elements : List Value} :
    ∀ {found : List Entry}, elements.map (readOperation carrier) = found.map .ok →
      elements.mapM (operationAt? carrier) = some found := by
  induction elements with
  | nil =>
      intro found read
      rw [List.map_eq_nil_iff.mp read.symm]
      rfl
  | cons element rest inductionHypothesis =>
      intro found read
      obtain ⟨operation, later, rfl, first, others⟩ :=
        List.map_eq_cons_iff.mp (read.symm.trans List.map_cons)
      rw [List.mapM_cons, operationAt?_of_readOperation first.symm,
        inductionHypothesis others.symm]
      rfl

theorem operationsIn?_of_operationsOf {e : Entry} {found : List Entry}
    (read : operationsOf e = found.map .ok) : operationsIn? e = some found := by
  have faultless : ∀ fault : Fault, [.error fault] ≠ found.map (Except.ok (ε := Fault)) := by
    intro fault same
    cases found <;> cases same
  rw [operationsOf, innerOperations] at read
  rw [operationsIn?]
  by_cases carries : e.commandName? = some "applyOps"
  · rw [if_pos carries, Document.items] at read
    rw [if_pos carries]
    cases field : e.body.field? "applyOps" with
    | none =>
        rw [field] at read
        exact (faultless _ read).elim
    | some value =>
        rw [field] at read
        cases value with
        | array items => exact mapM_operationAt?_of_map_readOperation read
        | _ => exact (faultless _ read).elim
  · rw [if_neg carries] at read ⊢
    rw [List.map_eq_nil_iff.mp read.symm]

theorem contents?_of_flatMap_operationsOf {entries : List Entry} :
    ∀ {found : List Entry}, entries.flatMap operationsOf = found.map .ok →
      contents? entries = some found := by
  induction entries with
  | nil =>
      intro found read
      rw [List.map_eq_nil_iff.mp read.symm]
      rfl
  | cons e rest inductionHypothesis =>
      intro found read
      rw [List.flatMap_cons] at read
      obtain ⟨operations, later, rfl, first, others⟩ := List.map_eq_append_iff.mp read.symm
      rw [contents?, operationsIn?_of_operationsOf first.symm, inductionHypothesis others.symm]
      rfl

theorem eq_of_untilFault {α : Type} {results : List (Except Fault α)} :
    ∀ {found : List α}, untilFault results = found.map .ok → results = found.map .ok := by
  induction results with
  | nil =>
      intro found read
      exact read
  | cons result rest inductionHypothesis =>
      intro found read
      cases result with
      | error fault => cases found <;> cases read
      | ok a =>
          obtain ⟨b, later, rfl, first, others⟩ := List.map_eq_cons_iff.mp read.symm
          rw [List.map_cons, first, inductionHypothesis others.symm]

/-- Operations that are read without a fault are the contents of the transaction. -/
theorem contents?_of_operations {entries found : List Entry}
    (read : operations entries = found.map .ok) : contents? entries = some found :=
  contents?_of_flatMap_operationsOf (eq_of_untilFault read)

/-! ## Contents are read without a fault -/

theorem readOperation_of_operationAt? {carrier operation : Entry} {element : Value}
    (found : operationAt? carrier element = some operation) :
    readOperation carrier element = .ok operation := by
  cases element with
  | document fields =>
      rw [operationAt?] at found
      rw [readOperation]
      cases parsed : Entry.ofDocument? fields with
      | none =>
          rw [parsed] at found
          cases found
      | some e =>
          rw [parsed] at found
          cases found
          rfl
  | _ => cases found

theorem map_readOperation_of_mapM {carrier : Entry} {elements : List Value} :
    ∀ {found : List Entry}, elements.mapM (operationAt? carrier) = some found →
      elements.map (readOperation carrier) = found.map .ok := by
  induction elements with
  | nil =>
      intro found read
      cases read
      rfl
  | cons element rest inductionHypothesis =>
      intro found read
      simp only [List.mapM_cons, Option.bind_eq_bind, Option.bind_eq_some_iff] at read
      obtain ⟨operation, first, later, others, whole⟩ := read
      cases whole
      rw [List.map_cons, List.map_cons, readOperation_of_operationAt? first,
        inductionHypothesis others]

theorem operationsOf_of_operationsIn? {e : Entry} {found : List Entry}
    (carried : operationsIn? e = some found) : operationsOf e = found.map .ok := by
  rw [operationsIn?] at carried
  rw [operationsOf, innerOperations]
  split at carried
  · rename_i carries
    rw [if_pos carries, Document.items]
    split at carried
    · rename_i items field
      rw [field]
      exact map_readOperation_of_mapM carried
    · cases carried
  · rename_i carriesNone
    cases carried
    rw [if_neg carriesNone]
    rfl

theorem flatMap_operationsOf_of_contents? {entries : List Entry} :
    ∀ {found : List Entry}, contents? entries = some found →
      entries.flatMap operationsOf = found.map .ok := by
  induction entries with
  | nil =>
      intro found read
      cases read
      rfl
  | cons e rest inductionHypothesis =>
      intro found read
      simp only [contents?, Option.bind_eq_bind, Option.bind_eq_some_iff] at read
      obtain ⟨operations, first, later, others, whole⟩ := read
      cases whole
      rw [List.flatMap_cons, operationsOf_of_operationsIn? first, inductionHypothesis others,
        List.map_append]

theorem untilFault_map_ok {α : Type} (found : List α) :
    untilFault (found.map .ok) = found.map .ok := by
  induction found with
  | nil => rfl
  | cons a rest inductionHypothesis => rw [List.map_cons, untilFault, inductionHypothesis]

/-- The contents of a transaction are read without a fault. -/
theorem operations_of_contents? {entries found : List Entry}
    (read : contents? entries = some found) : operations entries = found.map .ok := by
  rw [operations, flatMap_operationsOf_of_contents? read, untilFault_map_ok]

/-- Entries that each carry operations have contents together. -/
theorem isSome_contents? {entries : List Entry} :
    (∀ e ∈ entries, (operationsIn? e).isSome = true) → (contents? entries).isSome = true := by
  induction entries with
  | nil =>
      intro _
      rfl
  | cons e rest inductionHypothesis =>
      intro each
      obtain ⟨own, others⟩ := List.forall_mem_cons.mp each
      obtain ⟨operations, first⟩ := Option.isSome_iff_exists.mp own
      obtain ⟨later, rest⟩ := Option.isSome_iff_exists.mp (inductionHypothesis others)
      rw [contents?, first, rest]
      rfl

/-! ## Literal operations -/

theorem mem_of_mem_untilFault {α : Type} {result : Except Fault α}
    {results : List (Except Fault α)} (member : result ∈ untilFault results) :
    result ∈ results := by
  induction results with
  | nil => exact member
  | cons head rest inductionHypothesis =>
      cases head with
      | ok a =>
          rcases List.mem_cons.mp member with rfl | later
          · exact List.mem_cons_self
          · exact List.mem_cons_of_mem _ (inductionHypothesis later)
      | error fault =>
          cases List.mem_singleton.mp member
          exact List.mem_cons_self

theorem isLiteral_of_readOperation {carrier operation : Entry} {element : Value}
    (read : readOperation carrier element = .ok operation) : operation.IsLiteral := by
  have found := operationAt?_of_readOperation read
  cases element with
  | document fields =>
      obtain ⟨e, parsed, rfl⟩ := Option.map_eq_some_iff.mp found
      have literal : e.IsLiteral := Entry.isLiteral_of_ofDocument? parsed
      exact literal
  | _ => cases found

/-- Operations are read from documents, so they are literal. -/
theorem isLiteral_of_mem_operations {entries : List Entry} {operation : Entry}
    (member : .ok operation ∈ operations entries) : operation.IsLiteral := by
  obtain ⟨e, -, read⟩ := List.mem_flatMap.mp (mem_of_mem_untilFault member)
  rw [operationsOf] at read
  split at read
  · obtain ⟨element, -, found⟩ := List.mem_map.mp read
    exact isLiteral_of_readOperation found
  · cases List.mem_singleton.mp read

end LogReplay.Transaction
