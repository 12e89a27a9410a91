/-
Module: LogReplay.Proofs.Transaction.Interleaving
Purpose: Transactions whose entries come interleaved are reconstructed as if each came alone.
Main exports:
  Ledger.follow, Ledger.followAll, Interleaves, Chain.Told,
  Interleaves.reconstructs_as_alone
-/
import LogReplay.Proofs.Transaction.Chain
import LogReplay.Proofs.Transaction.Reading
import LogReplay.Proofs.Transaction.Requests
import Mathlib.Logic.Function.Basic

/-!
A log is followed entry by entry: an entry is placed and taken in, and when it is the last of
its transaction the contents are read, if it commits, and the transaction is forgotten.

The invariant says how far each chain has come.  A ledger has the part of its opening entries
that has been seen, and nothing of a chain that has not begun or that is over; so an entry of
one chain finds the same record whatever the other chains do.
-/

namespace LogReplay.Transaction

open Bson (Document Value)

/-! ## Following a log -/

/-- An entry that was followed. -/
structure Followed where
  entry : Entry
  place : Placement
  /-- The operations of the transaction, where the entry commits it. -/
  contents : Option (List Entry)

namespace Ledger

/-- Places an entry and takes it in.  After the last entry of a transaction its contents are
read, if it is committed, and it is forgotten. -/
def follow (l : Ledger) (e : Entry) : Except Fault (Followed × Ledger) := do
  let place ← Placement.ofEntry e
  let taken ← l.add place e
  if place.isFinal then
    if place.isCommit then
      let entries ← taken.entriesOf place.identity
      let contents ← (Reader.ofEntries place.identity entries).drain.1
      pure (⟨e, place, some contents⟩, taken.purge place.identity)
    else pure (⟨e, place, none⟩, taken.purge place.identity)
  else pure (⟨e, place, none⟩, taken)

/-- Follows entries one after the other. -/
def followAll : Ledger → List Entry → Except Fault (List Followed × Ledger)
  | l, [] => .ok ([], l)
  | l, e :: rest => do
      let (step, after) ← l.follow e
      let (steps, last) ← followAll after rest
      pure (step :: steps, last)

end Ledger

/-- A log that consists of the lists of a family, each in its own order. -/
inductive Interleaves {ι : Type} [DecidableEq ι] : (ι → List Entry) → List Entry → Prop where
  | done {todo : ι → List Entry} (nothing : ∀ i, todo i = []) : Interleaves todo []
  | next {todo : ι → List Entry} {i : ι} {e : Entry} {rest log : List Entry}
      (head : todo i = e :: rest) (later : Interleaves (Function.update todo i rest) log) :
      Interleaves todo (e :: log)

namespace Chain

/-- What following the entries of a chain tells, and nothing else is told of it. -/
structure Told (c : Chain) (steps : List Followed) : Prop where
  entries : steps.map Followed.entry = c.entries
  /-- Every entry is placed in the transaction. -/
  inside : ∀ step ∈ steps,
    step.place.identity = c.identity ∧ step.place.isTransactional = true ∧
      step.place.spansEntries = decide (1 < c.entries.length)
  /-- The first entry opens it. -/
  first : ∀ k step, steps[k]? = some step → step.place.isFirst = decide (k = 0)
  /-- The last entry ends it, by a commit or an abort. -/
  last : ∀ k step, steps[k]? = some step →
    step.place.isFinal = decide (k + 1 = c.entries.length) ∧
      step.place.isCommit = (c.committed && decide (k + 1 = c.entries.length)) ∧
        step.place.isAbort = (!c.committed && decide (k + 1 = c.entries.length))
  /-- There are contents, and they are read where it commits and nowhere else. -/
  readable : (contents? c.entries).isSome = true
  contents : ∀ step ∈ steps,
    step.contents = if step.place.isCommit then contents? c.entries else none

/-- The operations that are read at a position. -/
def contentsAt (c : Chain) (position : Nat) : Option (List Entry) :=
  if c.committed ∧ position = c.opening.length then contents? c.entries else none

def step (c : Chain) (position : Nat) (e : Entry) : Followed :=
  ⟨e, c.place position, c.contentsAt position⟩

@[simp] theorem identity_step (c : Chain) (position : Nat) (e : Entry) :
    (c.step position e).place.identity = c.identity :=
  rfl

def steps (c : Chain) : List Followed :=
  c.entries.mapIdx c.step

/-- The entry that the timestamp of the transaction is taken from. -/
def first (c : Chain) : Entry :=
  c.opening.headD c.closing

/-- What a ledger has of a chain of which it has seen this many entries. -/
def progress (c : Chain) (seen : Nat) : Option Progress :=
  if seen = 0 ∨ c.opening.length < seen then none
  else some ⟨.gathering (c.opening.take seen), c.first.timestamp⟩

theorem length_entries (c : Chain) : c.entries.length = c.opening.length + 1 := by
  rw [entries, List.length_append, List.length_singleton]

variable {c : Chain} {position : Nat} {e : Entry} {l : Ledger}

/-- An entry is one of the opening ones, or the closing one. -/
theorem opening_or_closing (found : c.entries[position]? = some e) :
    c.opening[position]? = some e ∨ position = c.opening.length ∧ e = c.closing := by
  rw [entries] at found
  rcases Nat.lt_or_ge position c.opening.length with early | late
  · exact .inl (by rwa [List.getElem?_append_left early] at found)
  · rw [List.getElem?_append_right late, List.getElem?_singleton] at found
    split at found
    · exact .inr ⟨by omega, (Option.some.inj found).symm⟩
    · cases found

/-- An opening entry is gathered. -/
theorem add_opening (found : c.opening[position]? = some e)
    (recorded : l.progress? c.identity = c.progress position) :
    l.add (c.place position) e =
      .ok (l.put c.identity ⟨.gathering (c.opening.take (position + 1)), c.first.timestamp⟩) := by
  obtain ⟨early, rfl⟩ := List.getElem?_eq_some_iff.mp found
  have more : (c.place position).role = if position = 0 then .firstOfMany else .continuation := by
    rw [place, role, if_pos early]
  cases position with
  | zero =>
      have opens : c.opening.take 1 = [c.opening[0]] ∧ c.first = c.opening[0] := by
        rw [first]
        generalize c.opening = opening at early
        cases opening with
        | nil => cases early
        | cons head rest => exact ⟨rfl, rfl⟩
      simp only [Ledger.add, more, if_pos]
      rw [show (c.place 0).identity = c.identity from rfl, recorded, progress, if_pos (.inl rfl),
        opens.1, opens.2]
  | succ position =>
      have gathered : ¬ (position + 1 = 0 ∨ c.opening.length < position + 1) := by omega
      simp only [Ledger.add, more, Nat.add_one_ne_zero, if_false]
      rw [show (c.place (position + 1)).identity = c.identity from rfl, recorded, progress,
        if_neg gathered, List.take_succ_eq_append_getElem early]

/-- The closing entry ends the transaction. -/
theorem add_closing (recorded : l.progress? c.identity = c.progress c.opening.length) :
    l.add (c.place c.opening.length) c.closing =
      .ok (l.put c.identity
        ⟨if c.committed then .committed c.entries else .aborted, c.first.timestamp⟩) := by
  have gathered : c.opening.length ≠ 0 → c.progress c.opening.length =
      some ⟨.gathering c.opening, c.first.timestamp⟩ := by
    intro several
    rw [progress, if_neg (by omega), List.take_length]
  rcases c.role_closing with ⟨committed, alone, role⟩ | ⟨committed, later, role⟩ |
    ⟨aborted, later, role⟩
  · have none : c.opening = [] := List.length_eq_zero_iff.mp alone
    rw [progress, if_pos (.inl alone)] at recorded
    simp only [Ledger.add, place, role, recorded, committed, if_true]
    rw [entries, first, none]
    rfl
  · rw [gathered (Nat.ne_of_gt later)] at recorded
    simp only [Ledger.add, place, role, recorded, committed, if_true, entries]
  · rw [gathered (Nat.ne_of_gt later)] at recorded
    simp only [Ledger.add, place, role, recorded, aborted, Bool.false_eq_true, if_false]

/-- An entry before the last is gathered, and that is all. -/
theorem follow_opening (found : c.opening[position]? = some e)
    (recorded : l.progress? c.identity = c.progress position) :
    l.follow e = .ok (c.step position e,
      l.put c.identity ⟨.gathering (c.opening.take (position + 1)), c.first.timestamp⟩) := by
  obtain ⟨early, -⟩ := List.getElem?_eq_some_iff.mp found
  have placed : Placement.ofEntry e = .ok (c.place position) := by
    apply ofEntry_eq_place
    rw [entries, List.getElem?_append_left early]
    exact found
  obtain ⟨-, -, final, -, -⟩ := predicates_place (Nat.le_of_lt early)
  rw [decide_eq_false (Nat.ne_of_lt early)] at final
  have noContents : c.contentsAt position = none := if_neg fun last => Nat.ne_of_lt early last.2
  simp only [Ledger.follow, placed, add_opening found recorded, bind, Except.bind, final,
    Bool.false_eq_true, if_false, step, noContents]
  rfl

/-- The contents of a transaction that commits are read when its last entry is followed, and
the transaction is forgotten in any case. -/
theorem follow_closing (recorded : l.progress? c.identity = c.progress c.opening.length) :
    ∃ progress, l.follow c.closing = .ok (c.step c.opening.length c.closing,
      (l.put c.identity progress).purge c.identity) := by
  have placed : Placement.ofEntry c.closing = .ok (c.place c.opening.length) := by
    apply ofEntry_eq_place
    rw [entries, List.getElem?_concat_length]
  obtain ⟨-, -, final, commit, -⟩ := c.predicates_place (Nat.le_refl c.opening.length)
  rw [decide_eq_true rfl] at final commit
  rw [Bool.and_true] at commit
  refine ⟨⟨if c.committed then .committed c.entries else .aborted, c.first.timestamp⟩, ?_⟩
  simp only [Ledger.follow, placed, add_closing recorded, bind, Except.bind, final, if_true,
    commit, step, contentsAt, and_true]
  rw [show (c.place c.opening.length).identity = c.identity from rfl]
  cases committed : c.committed with
  | false => rfl
  | true =>
      obtain ⟨contents, read⟩ := Option.isSome_iff_exists.mp
        (isSome_contents? fun e member => c.isSome_operationsIn? member)
      simp only [if_true, Ledger.entriesOf_put_committed, Reader.drain_of_contents? _ read, read]
      rfl

/-- Following an entry of a chain moves its own chain on, and no other transaction. -/
theorem exists_follow (found : c.entries[position]? = some e)
    (recorded : l.progress? c.identity = c.progress position) :
    ∃ after, l.follow e = .ok (c.step position e, after) ∧
      after.progress? c.identity = c.progress (position + 1) ∧
        ∀ id, id ≠ c.identity → after.progress? id = l.progress? id := by
  rcases opening_or_closing found with early | ⟨rfl, rfl⟩
  · refine ⟨_, follow_opening early recorded, ?_, ?_⟩
    · obtain ⟨before, -⟩ := List.getElem?_eq_some_iff.mp early
      rw [Ledger.progress?_put_self, progress, if_neg (by omega)]
    · intro id different
      exact Ledger.progress?_put_of_ne _ different
  · obtain ⟨progress, followed⟩ := follow_closing recorded
    refine ⟨_, followed, ?_, ?_⟩
    · rw [Ledger.progress?_purge_self, Chain.progress, if_pos (.inr (Nat.lt_succ_self _))]
    · intro id different
      rw [Ledger.progress?_purge_of_ne different, Ledger.progress?_put_of_ne _ different]

theorem getElem?_steps (c : Chain) (position : Nat) :
    c.steps[position]? = c.entries[position]?.map (c.step position) := by
  rw [steps, List.getElem?_mapIdx]

/-- The steps at the positions of a chain tell what its entries say. -/
theorem told_steps (c : Chain) : c.Told c.steps := by
  have length := c.length_entries
  have at_ {k : Nat} {step : Followed} (found : c.steps[k]? = some step) :
      k ≤ c.opening.length ∧ ∃ e, step = c.step k e := by
    rw [getElem?_steps, Option.map_eq_some_iff] at found
    obtain ⟨e, inside, rfl⟩ := found
    obtain ⟨bound, -⟩ := List.getElem?_eq_some_iff.mp inside
    exact ⟨by omega, e, rfl⟩
  refine ⟨?_, ?_, ?_, ?_, ?_, ?_⟩
  · apply List.ext_getElem?
    intro k
    rw [List.getElem?_map, getElem?_steps, Option.map_map]
    exact Option.map_id_apply
  · intro step member
    obtain ⟨k, found⟩ := List.getElem?_of_mem member
    obtain ⟨bound, e, rfl⟩ := at_ found
    refine ⟨rfl, (predicates_place bound).1, ?_⟩
    rw [step, place, length]
    simp
  · intro k step found
    obtain ⟨bound, e, rfl⟩ := at_ found
    exact (predicates_place bound).2.1
  · intro k step found
    obtain ⟨bound, e, rfl⟩ := at_ found
    rw [length]
    simp only [Nat.add_right_cancel_iff]
    exact (predicates_place bound).2.2
  · exact isSome_contents? fun e member => c.isSome_operationsIn? member
  · intro step member
    obtain ⟨k, found⟩ := List.getElem?_of_mem member
    obtain ⟨bound, e, rfl⟩ := at_ found
    rw [Chain.step, (predicates_place bound).2.2.2.1]
    simp [contentsAt]

theorem drop_steps {rest : List Entry} (left : c.entries.drop position = e :: rest) :
    c.steps.drop position = c.step position e :: c.steps.drop (position + 1) := by
  have found : c.steps[position]? = some (c.step position e) := by
    rw [getElem?_steps, ← List.head?_drop, left]
    rfl
  obtain ⟨inside, same⟩ := List.getElem?_eq_some_iff.mp found
  rw [List.drop_eq_getElem_cons inside, same]

end Chain

/-! ## Following the entries of several chains -/

section Family

variable {ι : Type} {chains : ι → Chain}

/-- A ledger that has seen so many entries of each chain, and nothing else. -/
structure Ledger.HasSeen (chains : ι → Chain) (seen : ι → Nat) (l : Ledger) : Prop where
  recorded : ∀ i, l.progress? (chains i).identity = (chains i).progress (seen i)
  others : ∀ id, (∀ i, id ≠ (chains i).identity) → l.progress? id = none

theorem Ledger.eq_empty_of_progress?_eq_none {l : Ledger} (none : ∀ id, l.progress? id = none) :
    l = .empty := by
  apply eq_of_records_eq
  apply List.eq_nil_iff_forall_not_mem.mpr
  intro record member
  have recorded := mem_identities_iff.mp (List.mem_map_of_mem (f := Prod.fst) member)
  rw [none] at recorded
  cases recorded

theorem Ledger.HasSeen.eq_empty {seen : ι → Nat} {l : Ledger} (has : l.HasSeen chains seen)
    (complete : ∀ i, (chains i).progress (seen i) = none) : l = .empty := by
  apply Ledger.eq_empty_of_progress?_eq_none
  intro id
  by_cases known : ∃ i, id = (chains i).identity
  · obtain ⟨i, rfl⟩ := known
    rw [has.recorded, complete]
  · exact has.others id fun i same => known ⟨i, same⟩

/-- Following what is left of the chains ends with an empty ledger, and tells of each chain
what its own positions tell. -/
theorem Interleaves.exists_followAll [DecidableEq ι]
    (apart : ∀ i j, i ≠ j → (chains i).Apart (chains j))
    {todo : ι → List Entry} {log : List Entry} (merged : Interleaves todo log) :
    ∀ {seen : ι → Nat} {l : Ledger}, l.HasSeen chains seen →
      (∀ i, todo i = (chains i).entries.drop (seen i)) →
        ∃ steps, l.followAll log = .ok (steps, .empty) ∧ steps.map Followed.entry = log ∧
          (∀ step ∈ steps, ∃ i, step.place.identity = (chains i).identity) ∧
            ∀ i, steps.filter (fun step => step.place.identity = (chains i).identity) =
              (chains i).steps.drop (seen i) := by
  induction merged with
  | done nothing =>
      intro seen l has left
      have complete (i : ι) : (chains i).entries.length ≤ seen i := by
        rw [← List.drop_eq_nil_iff, ← left, nothing]
      have ended (i : ι) : (chains i).progress (seen i) = none := by
        have bound := complete i
        rw [Chain.length_entries] at bound
        exact if_pos (.inr bound)
      refine ⟨[], ?_, rfl, ?_, ?_⟩
      · rw [has.eq_empty ended]
        rfl
      · intro step member
        cases member
      · intro i
        have noSteps : (chains i).steps.length ≤ seen i := by
          rw [Chain.steps, List.length_mapIdx]
          exact complete i
        rw [List.drop_eq_nil_of_le noSteps]
        rfl
  | @next todo i e rest log head later inductionHypothesis =>
      intro seen l has left
      have before : (chains i).entries.drop (seen i) = e :: rest := (left i).symm.trans head
      have found : (chains i).entries[seen i]? = some e := by
        rw [← List.head?_drop, before]
        rfl
      -- The chain of the entry moves on by one position, and the others stay at theirs.
      obtain ⟨after, followed, own, others⟩ := Chain.exists_follow found (has.recorded i)
      have moved : after.HasSeen chains (Function.update seen i (seen i + 1)) := by
        refine ⟨?_, ?_⟩
        · intro j
          by_cases same : j = i
          · subst same
            rw [Function.update_self]
            exact own
          · rw [Function.update_of_ne same, others _ (Chain.identity_ne (apart j i same)),
              has.recorded]
        · intro id different
          rw [others id (different i), has.others id different]
      have rests (j : ι) : Function.update todo i rest j =
          (chains j).entries.drop (Function.update seen i (seen i + 1) j) := by
        by_cases same : j = i
        · subst same
          rw [Function.update_self, Function.update_self, ← List.drop_drop, before]
          rfl
        · rw [Function.update_of_ne same, Function.update_of_ne same, left]
      obtain ⟨steps, all, entries, inside, each⟩ := inductionHypothesis moved rests
      refine ⟨(chains i).step (seen i) e :: steps, ?_, ?_, ?_, ?_⟩
      · simp only [Ledger.followAll, followed, all, bind, Except.bind]
        rfl
      · rw [List.map_cons, entries]
        rfl
      · exact List.forall_mem_cons.mpr ⟨⟨i, rfl⟩, inside⟩
      · intro j
        have rest := each j
        by_cases same : j = i
        · subst same
          rw [Function.update_self] at rest
          simp only [List.filter_cons, Chain.identity_step, decide_true, if_true, rest]
          rw [Chain.drop_steps before]
        · have different : (chains i).identity ≠ (chains j).identity :=
            (Chain.identity_ne (apart j i same)).symm
          rw [Function.update_of_ne same] at rest
          simp only [List.filter_cons, Chain.identity_step, different, decide_false,
            Bool.false_eq_true, if_false, rest]

theorem Ledger.hasSeen_empty (chains : ι → Chain) : empty.HasSeen chains fun _ => 0 where
  recorded := fun _ => (if_pos (.inl rfl)).symm
  others := fun id _ => progress?_empty id

theorem interleaves_self (entries : List Entry) :
    Interleaves (fun _ : Unit => entries) entries := by
  induction entries with
  | nil => exact .done fun _ => rfl
  | cons e rest inductionHypothesis =>
      refine .next (i := ()) rfl ?_
      have updated : Function.update (fun _ : Unit => e :: rest) () rest = fun _ => rest :=
        funext fun _ => Function.update_self ..
      rw [updated]
      exact inductionHypothesis

/-- What following a chain alone gives. -/
theorem Chain.followAll_entries (c : Chain) :
    Ledger.empty.followAll c.entries = .ok (c.steps, .empty) := by
  obtain ⟨steps, followed, -, inside, each⟩ :=
    (interleaves_self c.entries).exists_followAll
      (fun i j different => absurd (Subsingleton.elim i j) different)
      (Ledger.hasSeen_empty fun _ : Unit => c) (fun _ => rfl)
  have own : steps = c.steps := by
    have kept := each ()
    rw [List.drop_zero] at kept
    rw [← kept]
    refine (List.filter_eq_self.mpr ?_).symm
    intro step member
    obtain ⟨_, same⟩ := inside step member
    exact decide_eq_true same
  rw [followed, own]

/-- Transactions that are written as chains are reconstructed from any interleaving of the
chains as from each chain alone: every entry is accepted, each chain is told as it is, and
nothing is kept in the end. -/
theorem Interleaves.reconstructs_as_alone [DecidableEq ι]
    (apart : ∀ i j, i ≠ j → (chains i).Apart (chains j)) {log : List Entry}
    (merged : Interleaves (fun i => (chains i).entries) log) :
    ∃ steps, Ledger.empty.followAll log = .ok (steps, .empty) ∧
      steps.map Followed.entry = log ∧
        ∀ i, ∃ own, Ledger.empty.followAll (chains i).entries = .ok (own, .empty) ∧
          steps.filter (fun step => step.place.identity = (chains i).identity) = own ∧
            (chains i).Told own := by
  obtain ⟨steps, followed, entries, -, each⟩ :=
    merged.exists_followAll apart (Ledger.hasSeen_empty chains) (fun _ => rfl)
  refine ⟨steps, followed, entries, ?_⟩
  intro i
  exact ⟨(chains i).steps, (chains i).followAll_entries, each i, (chains i).told_steps⟩

end Family

/-! ## Two transactions of one session -/

/-- An entry of a transaction of one session, linked to an earlier one from the second on. -/
def entryOf (number : Int64) (time : UInt32) (body : Document) : Entry :=
  { Entry.noop "" with
    timestamp := ⟨time, 1⟩
    operation := "c"
    namespaceText := "admin.$cmd"
    body
    session := some [("id", .int32 7)]
    transactionNumber := some number
    previous := if time = 1 then none else some ⟨⟨1, 1⟩, none⟩ }

theorem belongs_entryOf (number : Int64) (time : UInt32) (body : Document) :
    Belongs [("id", .int32 7)] number (entryOf number time body) :=
  ⟨rfl, rfl, rfl⟩

/-- The array of one insert. -/
def oneInsert : Value :=
  .array [.document
    [("op", .string "i"), ("ns", .string "shop.orders"), ("o", .document [("_id", .int32 2)])]]

/-- A partial entry with an insert, closed by an empty one. -/
def committedPair : Chain where
  session := [("id", .int32 7)]
  number := 1
  committed := true
  opening := [entryOf 1 1 [("applyOps", oneInsert), ("partialTxn", .boolean true)]]
  closing := entryOf 1 2 [("applyOps", .array [])]
  encodable := by decide
  bounded := by decide
  shape := .parts (by simp)
    (by simpa using ⟨false, rfl, rfl, rfl, rfl⟩) ⟨rfl, rfl, rfl, rfl⟩
  belong := by simp [belongs_entryOf]
  linked := rfl

/-- A prepared entry with an insert, and an abort. -/
def abortedPair : Chain where
  session := [("id", .int32 7)]
  number := 2
  committed := false
  opening := [entryOf 2 1 [("applyOps", oneInsert), ("prepare", .boolean true)]]
  closing := entryOf 2 2 [("abortTransaction", .int32 1)]
  encodable := by decide
  bounded := by decide
  shape := .aborted (by simp)
    (by simpa using .inr ⟨false, rfl, rfl, rfl, rfl⟩) rfl
  belong := by simp [belongs_entryOf]
  linked := rfl

def pairs (commits : Bool) : Chain :=
  if commits then committedPair else abortedPair

/-- The abort comes between the two entries of the transaction that commits. -/
def interleavedPairs : List Entry :=
  abortedPair.opening ++ committedPair.opening ++ [abortedPair.closing, committedPair.closing]

theorem interleavedPairs_reconstructed :
    ∃ steps, Ledger.empty.followAll interleavedPairs = .ok (steps, .empty) ∧
      ∀ commits, (pairs commits).Told (steps.filter fun step =>
        step.place.identity = (pairs commits).identity) := by
  have apart : ∀ i j, i ≠ j → (pairs i).Apart (pairs j) := by
    have numbers : ∀ i j, i ≠ j → (pairs i).number ≠ (pairs j).number := by decide
    intro i j different same
    exact numbers i j different (Prod.mk.inj same).2
  have merged : Interleaves (fun i => (pairs i).entries) interleavedPairs := by
    refine .next (i := false) rfl ?_
    refine .next (i := true) rfl ?_
    refine .next (i := false) rfl ?_
    refine .next (i := true) rfl (.done ?_)
    intro i
    cases i <;> rfl
  obtain ⟨steps, followed, -, each⟩ := merged.reconstructs_as_alone apart
  refine ⟨steps, followed, ?_⟩
  intro commits
  obtain ⟨own, -, same, told⟩ := each commits
  rw [same]
  exact told

end LogReplay.Transaction
