/-
Module: LogReplay.Proofs.Transaction.Streaming
Purpose: What a reader hands out, one result after the other, whatever else is done in
  the meantime.
Main exports:
  walk, operations_eq_walk, Desk, Errand, ReadAsWalked, entries_read_as_walked,
  torn_read_after_purge
-/
import LogReplay.Proofs.Transaction.Reading
import LogReplay.Proofs.Transaction.Requests

/-!
`walk` goes through the entries of a transaction once, by recursion on the entries and on
the elements of their arrays, and lists all that there is to read: the operations in
order, up to the first fault.

A reader does not have this list.  It keeps a place in the entries, passes over those
without operations when it is asked for the next one, and remembers that it is done.  Its
results are the list all the same, and they are not touched by anything that is done at
the same desk: by requests to the ledger, the one to forget the transaction among them,
or by other readers of the same entries.
-/

namespace LogReplay.Transaction

open Bson (Value)

/-! ## The walk -/

/-- The operations of one array, each at the place of its carrier, and then what comes
later; an element that is no operation ends the list. -/
def walkItems (carrier : Entry) (later : List (Except Fault Entry)) :
    List Value → List (Except Fault Entry)
  | [] => later
  | .document fields :: rest =>
      match Entry.ofDocument? fields with
      | some e =>
          .ok { e with timestamp := carrier.timestamp, term := carrier.term, hash := carrier.hash }
            :: walkItems carrier later rest
      | none => [.error (.malformed .entry)]
  | element :: _ => [.error (.malformed (.operation element.kind))]

/-- All that there is to read in some entries.  An entry whose body does not begin with
`applyOps` is passed over. -/
def walk : List Entry → List (Except Fault Entry)
  | [] => []
  | e :: rest =>
      match e.body with
      | [] => walk rest
      | (name, value) :: _ =>
          if name = "applyOps" then
            match value with
            | .array items => walkItems e (walk rest) items
            | _ => [.error (.malformed (.operations .mistyped))]
          else walk rest

theorem untilFault_map_append (carrier : Entry) (items : List Value)
    (later : List (Except Fault Entry)) :
    untilFault (items.map (readOperation carrier) ++ later) =
      walkItems carrier (untilFault later) items := by
  induction items with
  | nil => rfl
  | cons element rest inductionHypothesis =>
      rw [List.map_cons, List.cons_append]
      cases element with
      | document fields =>
          rw [readOperation, walkItems]
          cases Entry.ofDocument? fields with
          | none => rfl
          | some e => exact congrArg _ inductionHypothesis
      | _ => rfl

/-- The operations of a transaction are those of the walk. -/
theorem operations_eq_walk (entries : List Entry) : operations entries = walk entries := by
  induction entries with
  | nil => rfl
  | cons e rest inductionHypothesis =>
      rw [operations] at inductionHypothesis ⊢
      rw [List.flatMap_cons, operationsOf, innerOperations, Entry.commandName?, walk]
      cases e.body with
      | nil => exact inductionHypothesis
      | cons field others =>
          obtain ⟨name, value⟩ := field
          rw [Bson.Document.firstName?, List.head?_cons, Option.map_some]
          dsimp only
          by_cases carries : name = "applyOps"
          · rw [if_pos (congrArg some carries), if_pos carries, Bson.Document.items,
              Bson.Document.field?_cons, if_pos carries]
            cases value with
            | array items =>
                rw [← inductionHypothesis]
                exact untilFault_map_append e items _
            | _ => rfl
          · rw [if_neg fun same => carries (Option.some.inj same), if_neg carries]
            exact inductionHypothesis

/-- Nothing comes after a fault. -/
theorem length_of_getElem?_untilFault {α : Type} (results : List (Except Fault α)) :
    ∀ {k : Nat} {fault : Fault}, (untilFault results)[k]? = some (.error fault) →
      (untilFault results).length = k + 1 := by
  induction results with
  | nil =>
      intro k fault found
      cases found
  | cons result rest inductionHypothesis =>
      intro k fault found
      cases result with
      | error other =>
          cases k with
          | zero => rfl
          | succ k => cases found
      | ok a =>
          cases k with
          | zero => cases found
          | succ k => exact congrArg Nat.succ (inductionHypothesis found)

namespace Reader

/-- The reader after it was asked so many times. -/
def after (r : Reader) : Nat → Reader
  | 0 => r
  | k + 1 => (r.after k).next.2

theorem left_after (r : Reader) (k : Nat) : (r.after k).left = r.left.drop k := by
  induction k with
  | zero => rfl
  | succ k inductionHypothesis =>
      rw [after, (next_left _).2, inductionHypothesis, List.tail_drop]

end Reader

/-! ## A desk with readers -/

/-- A ledger, and the readers that it has handed out, in this order. -/
structure Desk where
  ledger : Ledger
  readers : List Reader

/-- What may be done at a desk. -/
inductive Errand where
  /-- A request to the ledger; a reader that is handed out joins the others. -/
  | request (asked : Request)
  /-- One reader is asked for its next result. -/
  | next (reader : Nat)
  /-- One reader is drained. -/
  | drain (reader : Nat)

/-- The request that goes to the ledger, if there is one. -/
def Errand.request? : Errand → Option Request
  | .request asked => some asked
  | .next _ | .drain _ => none

/-- What an errand leaves of the results that a reader had left. -/
def Errand.leaves (reader : Nat) (results : List (Except Fault Entry)) :
    Errand → List (Except Fault Entry)
  | .request _ => results
  | .next other => if other = reader then results.tail else results
  | .drain other => if other = reader then [] else results

/-- What errands leave of the results that a reader had left. -/
def leftAfter (reader : Nat) (errands : List Errand) (results : List (Except Fault Entry)) :
    List (Except Fault Entry) :=
  errands.foldl (Errand.leaves reader) results

namespace Desk

/-- The desk after an errand. -/
def run (d : Desk) : Errand → Desk
  | .request asked =>
      match d.ledger.answer asked with
      | (.ok (some reader), ledger) => ⟨ledger, d.readers ++ [reader]⟩
      | (_, ledger) => ⟨ledger, d.readers⟩
  | .next reader => { d with readers := d.readers.modify reader fun r => r.next.2 }
  | .drain reader => { d with readers := d.readers.modify reader fun r => r.drain.2 }

/-- The desk after some errands. -/
def after (d : Desk) (errands : List Errand) : Desk :=
  errands.foldl run d

theorem ledger_run_request (d : Desk) (request : Request) :
    (d.run (.request request)).ledger = (d.ledger.answer request).2 := by
  rw [run]
  split <;> next answered => rw [answered]

/-- Nothing but requests reaches the ledger. -/
theorem ledger_after (errands : List Errand) :
    ∀ d : Desk, (d.after errands).ledger = d.ledger.after (errands.filterMap Errand.request?) := by
  induction errands with
  | nil => exact fun _ => rfl
  | cons errand rest inductionHypothesis =>
      intro d
      rw [after, List.foldl_cons, ← after, inductionHypothesis]
      cases errand with
      | request asked =>
          exact congrArg (fun l : Ledger => l.after _) (d.ledger_run_request asked)
      | next | drain => rfl

/-- A request leaves the readers that are there as they are. -/
theorem readers_run_request (d : Desk) (request : Request) :
    ∃ more, (d.run (.request request)).readers = d.readers ++ more := by
  rw [run]
  split
  · exact ⟨_, rfl⟩
  · exact ⟨[], (List.append_nil _).symm⟩

/-- An errand takes from a reader only what it asks of this reader. -/
theorem exists_reader_run {d : Desk} {i : Nat} {r : Reader} (present : d.readers[i]? = some r)
    (errand : Errand) :
    ∃ r', (d.run errand).readers[i]? = some r' ∧ r'.left = errand.leaves i r.left := by
  cases errand with
  | request asked =>
      obtain ⟨more, readers⟩ := d.readers_run_request asked
      refine ⟨r, ?_, rfl⟩
      rw [readers, List.getElem?_append_left (List.getElem?_eq_some_iff.mp present).1]
      exact present
  | next other =>
      rw [run, List.getElem?_modify, present, Errand.leaves]
      by_cases own : other = i
      · rw [if_pos own]
        exact ⟨r.next.2, congrArg some (if_pos own), r.next_left.2⟩
      · rw [if_neg own]
        exact ⟨r, congrArg some (if_neg own), rfl⟩
  | drain other =>
      rw [run, List.getElem?_modify, present, Errand.leaves]
      by_cases own : other = i
      · rw [if_pos own]
        exact ⟨r.drain.2, congrArg some (if_pos own), r.drain_left.2⟩
      · rw [if_neg own]
        exact ⟨r, congrArg some (if_neg own), rfl⟩

/-- So do errands one after the other. -/
theorem exists_reader_after {i : Nat} (errands : List Errand) :
    ∀ {d : Desk} {r : Reader}, d.readers[i]? = some r →
      ∃ r', (d.after errands).readers[i]? = some r' ∧ r'.left = leftAfter i errands r.left := by
  induction errands with
  | nil => exact fun present => ⟨_, present, rfl⟩
  | cons errand rest inductionHypothesis =>
      intro d r present
      obtain ⟨middle, there, left⟩ := exists_reader_run present errand
      obtain ⟨last, found, leftLast⟩ := inductionHypothesis there
      rw [left] at leftLast
      exact ⟨last, found, leftLast⟩

/-- A reader that is asked for joins the others. -/
theorem readers_run_read {d : Desk} {place : Placement} {entries : List Entry}
    (committed : d.ledger.entriesOf place.identity = .ok entries) :
    (d.run (.request (.read place))).readers =
      d.readers ++ [.ofEntries place.identity entries] := by
  rw [run, Ledger.answer, committed]
  rfl

/-- A committed transaction has the same entries until it is forgotten. -/
theorem entriesOf_after {d : Desk} {place : Placement} {entries : List Entry}
    (committed : d.ledger.entriesOf place.identity = .ok entries) {errands : List Errand}
    (kept : ∀ request, .request request ∈ errands → request.isPurge = true →
      request.identity ≠ place.identity) :
    (d.after errands).ledger.entriesOf place.identity = .ok entries := by
  have handed : (d.ledger.answer (.read place)).1 =
      .ok (some (.ofEntries place.identity entries)) := by
    rw [Ledger.answer, committed]
    rfl
  obtain ⟨_, first, recorded, same⟩ := Ledger.answer_read_eq_ok_iff.mp handed
  cases same
  have requests : ∀ request ∈ errands.filterMap Errand.request?, request.isPurge = true →
      request.identity ≠ place.identity := by
    intro request member
    obtain ⟨errand, inErrands, same⟩ := List.mem_filterMap.mp member
    cases errand with
    | request asked =>
        cases same
        exact kept request inErrands
    | next | drain => cases same
  have still := Ledger.progress?_after_of_isFinal rfl _ recorded requests
  rw [ledger_after, Ledger.entriesOf, still]

end Desk

/-! ## What every reader of some entries hands out -/

/-- What holds of all readers of these entries. -/
structure ReadAsWalked (entries : List Entry) : Prop where
  /-- Asked again and again, a reader hands out the results of the walk in order, and then
  nothing for ever. -/
  handedOut : ∀ id k, ((Reader.ofEntries id entries).after k).next.1 = (walk entries)[k]?
  /-- There is one fault at the most, and nothing is handed out after it. -/
  faultIsLast : ∀ k fault, (walk entries)[k]? = some (.error fault) →
    (walk entries).length = k + 1
  /-- At any point, draining gives all operations that have not been handed out, or the
  fault that comes after some of them. -/
  drained : ∀ id k,
    ((Reader.ofEntries id entries).after k).drain.1 = collect ((walk entries).drop k)
  /-- A reader that is opened at a desk has left just what was not asked of it, whatever else
  is done there: entries are taken in, readers are opened, asked and drained, and
  transactions are forgotten, its own included. -/
  undisturbed : ∀ (d : Desk) (place : Placement) (errands : List Errand),
    d.ledger.entriesOf place.identity = .ok entries →
      ∃ r, ((d.run (.request (.read place))).after errands).readers[d.readers.length]? = some r ∧
        r.next.1 = (leftAfter d.readers.length errands (walk entries)).head? ∧
          r.drain.1 = collect (leftAfter d.readers.length errands (walk entries))
  /-- Until the transaction is forgotten, a reader of all its entries can be opened again. -/
  readable : ∀ (d : Desk) (place : Placement) (errands : List Errand),
    d.ledger.entriesOf place.identity = .ok entries →
      (∀ request, .request request ∈ errands → request.isPurge = true →
        request.identity ≠ place.identity) →
      (d.after errands).ledger.entriesOf place.identity = .ok entries

/-- Whatever entries a transaction has, readable or not, each of its readers hands out what
a walk through them finds. -/
theorem entries_read_as_walked (entries : List Entry) : ReadAsWalked entries where
  handedOut := by
    intro id k
    rw [(Reader.next_left _).1, Reader.left_after, Reader.left_ofEntries, operations_eq_walk,
      List.head?_drop]
  faultIsLast := by
    intro k fault found
    rw [← operations_eq_walk] at found ⊢
    exact length_of_getElem?_untilFault _ found
  drained := by
    intro id k
    rw [(Reader.drain_left _).1, Reader.left_after, Reader.left_ofEntries, operations_eq_walk]
  undisturbed := by
    intro d place errands committed
    have joined : (d.run (.request (.read place))).readers[d.readers.length]? =
        some (.ofEntries place.identity entries) := by
      rw [Desk.readers_run_read committed, List.getElem?_concat_length]
    obtain ⟨r, found, left⟩ := Desk.exists_reader_after errands joined
    rw [Reader.left_ofEntries, operations_eq_walk] at left
    refine ⟨r, found, ?_, ?_⟩
    · rw [r.next_left.1, left]
    · rw [r.drain_left.1, left]
  readable := fun _ _ _ committed kept => Desk.entriesOf_after committed kept

/-! ## A reader that outlasts its transaction -/

/-- An entry that carries these elements. -/
def carrying (elements : List Value) : Entry :=
  { Entry.noop "" with body := [("applyOps", .array elements)] }

/-- Two operations, an entry that carries none, and an element that is no operation. -/
def torn : List Entry :=
  let operation : Value :=
    .document [("op", .string "i"), ("ns", .string "shop.orders"), ("o", .document [])]
  [carrying [operation, operation], Entry.noop "", carrying [.int32 1, operation]]

/-- Where a reader of them is asked for. -/
def tornPlace : Placement :=
  ⟨⟨[7], 1⟩, .finalCommit, true⟩

/-- A desk whose ledger has them as a committed transaction. -/
def tornDesk : Desk :=
  ⟨Ledger.empty.put tornPlace.identity ⟨.committed torn, ⟨0, 0⟩⟩, []⟩

/-- One operation is read, and the transaction is forgotten: the reader goes on to the
second operation, and to the fault. -/
theorem torn_read_after_purge :
    (walk torn).length = 3 ∧
      ∃ r, ((tornDesk.run (.request (.read tornPlace))).after
          [.next 0, .request (.purge tornPlace)]).readers[0]? = some r ∧
        r.next.1 = (walk torn)[1]? ∧
          r.drain.1 = .error (.malformed (.operation .int32)) := by
  have committed : tornDesk.ledger.entriesOf tornPlace.identity = .ok torn :=
    Ledger.entriesOf_put_committed _ _ _ _
  obtain ⟨r, found, next, drained⟩ := (entries_read_as_walked torn).undisturbed tornDesk tornPlace
    [.next 0, .request (.purge tornPlace)] committed
  exact ⟨rfl, r, found, next, drained⟩

end LogReplay.Transaction
