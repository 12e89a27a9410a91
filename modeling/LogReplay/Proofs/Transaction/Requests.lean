/-
Module: LogReplay.Proofs.Transaction.Requests
Purpose: A ledger under any sequence of requests.
Main exports:
  Request, Ledger.answer, Ledger.answers, Ledger.after, taken, standing, Moves,
  Ledger.Disciplined, Ledger.disciplined
-/
import LogReplay.Proofs.Transaction.Ledger
import LogReplay.Proofs.Transaction.Oldest
import LogReplay.Transaction.Reader

/-!
A ledger is asked to take in entries, to open readers and to forget transactions, in any
order and at any place, however little the place has to do with the entry.

An answer depends on the record of one identity, and changes the record of that identity
alone.  So a ledger answers for each identity as if the requests for the others had never
been made, and what it records of an identity is a function of the entries that it has
accepted for it since it last forgot it.
-/

namespace LogReplay.Transaction

open Bson (Timestamp)

/-! ## Requests -/

/-- What a ledger can be asked. -/
inductive Request where
  | add (place : Placement) (entry : Entry)
  | read (place : Placement)
  | purge (place : Placement)

/-- A reader is handed out only where one was asked for. -/
abbrev Reply :=
  Except Fault (Option Reader)

namespace Request

/-- The identity that a request is about. -/
def identity : Request → Identity
  | .add place _ | .read place | .purge place => place.identity

/-- The request is to forget a transaction. -/
def isPurge : Request → Bool
  | .purge _ => true
  | .add _ _ | .read _ => false

def isRead : Request → Bool
  | .read _ => true
  | .add _ _ | .purge _ => false

end Request

namespace Ledger

/-- The reply to a request, and the ledger after it. -/
def answer (l : Ledger) : Request → Reply × Ledger
  | .add place entry =>
      match l.add place entry with
      | .ok after => (.ok none, after)
      | .error fault => (.error fault, l)
  | .read place =>
      ((l.entriesOf place.identity).map fun entries =>
        some (.ofEntries place.identity entries), l)
  | .purge place => (.ok none, l.purge place.identity)

/-- Requests made one after the other, each with its reply. -/
def answers : Ledger → List Request → List (Request × Reply)
  | _, [] => []
  | l, request :: rest => (request, (l.answer request).1) :: answers (l.answer request).2 rest

/-- The ledger after some requests. -/
def after : Ledger → List Request → Ledger
  | l, [] => l
  | l, request :: rest => after (l.answer request).2 rest

theorem after_append (l : Ledger) (earlier later : List Request) :
    l.after (earlier ++ later) = (l.after earlier).after later := by
  induction earlier generalizing l with
  | nil => rfl
  | cons request rest inductionHypothesis => exact inductionHypothesis _

/-! ## One identity at a time -/

/-- Whether an entry is taken in, and what becomes of the record, depends on the record
alone. -/
theorem add_congr {l l' : Ledger} {place : Placement} (entry : Entry)
    (same : l.progress? place.identity = l'.progress? place.identity) :
    (l.add place entry).map (·.progress? place.identity) =
      (l'.add place entry).map (·.progress? place.identity) := by
  simp only [add, same]
  split <;> simp only [refuse, Except.map, progress?_put_self]

theorem answer_congr {l l' : Ledger} {request : Request}
    (same : l.progress? request.identity = l'.progress? request.identity) :
    (l.answer request).1 = (l'.answer request).1 ∧
      (l.answer request).2.progress? request.identity =
        (l'.answer request).2.progress? request.identity := by
  cases request with
  | add place entry =>
      have agree := add_congr entry same
      rw [Request.identity] at same ⊢
      rw [answer, answer]
      generalize l.add place entry = one at agree
      generalize l'.add place entry = two at agree
      cases one with
      | error fault =>
          cases two with
          | error fault' =>
              cases agree
              exact ⟨rfl, same⟩
          | ok after' => cases agree
      | ok after =>
          cases two with
          | error fault' => cases agree
          | ok after' => exact ⟨rfl, Except.ok.inj agree⟩
  | read place =>
      rw [Request.identity] at same
      refine ⟨?_, same⟩
      rw [answer, answer, entriesOf, entriesOf, same]
  | purge place =>
      rw [answer, answer, Request.identity]
      exact ⟨rfl, by rw [progress?_purge_self, progress?_purge_self]⟩

theorem progress?_answer_of_ne (l : Ledger) {request : Request} {other : Identity}
    (different : other ≠ request.identity) :
    (l.answer request).2.progress? other = l.progress? other := by
  cases request with
  | add place entry =>
      rw [answer]
      cases added : l.add place entry with
      | error fault => rfl
      | ok after => exact progress?_add_of_ne different added
  | read place => rfl
  | purge place => exact progress?_purge_of_ne different

/-- The requests that are about an identity. -/
def about (id : Identity) (requests : List Request) : List Request :=
  requests.filter fun request => request.identity = id

/-- What a ledger answers for an identity, and what it records of it, does not depend on
requests for other identities. -/
theorem answers_about (id : Identity) (requests : List Request) :
    ∀ {l l' : Ledger}, l.progress? id = l'.progress? id →
      (l.answers requests).filter (fun answered => answered.1.identity = id) =
          l'.answers (about id requests) ∧
        (l.after requests).progress? id = (l'.after (about id requests)).progress? id := by
  induction requests with
  | nil =>
      intro l l' same
      exact ⟨rfl, same⟩
  | cons request rest inductionHypothesis =>
      intro l l' same
      -- The two ledgers differ as much as they like outside of this one record.
      by_cases own : request.identity = id
      · subst own
        obtain ⟨reply, record⟩ := answer_congr same
        obtain ⟨replies, last⟩ := inductionHypothesis record
        simp only [about, answers, after, List.filter_cons, decide_true, if_true]
        exact ⟨by rw [replies, reply]; rfl, last⟩
      · have untouched : (l.answer request).2.progress? id = l'.progress? id :=
          (l.progress?_answer_of_ne (Ne.symm own)).trans same
        simp only [about, answers, after, List.filter_cons, own, decide_false, if_false,
          Bool.false_eq_true]
        exact inductionHypothesis untouched

/-! ## One request -/

/-- A request that is refused leaves the ledger as it was, and so does one for a reader. -/
theorem answer_eq_self {l : Ledger} {request : Request}
    (idle : (l.answer request).1.isOk = false ∨ request.isRead = true) :
    (l.answer request).2 = l := by
  cases request with
  | add place entry =>
      rw [answer] at idle ⊢
      cases added : l.add place entry with
      | error fault => rfl
      | ok after =>
          rw [added] at idle
          rcases idle with refused | reads
          · cases refused
          · cases reads
  | read place => rfl
  | purge place =>
      rcases idle with refused | reads
      · cases refused
      · cases reads

theorem isOk_answer_add_iff {l : Ledger} {place : Placement} {entry : Entry} :
    (l.answer (.add place entry)).1.isOk = true ↔
      ∃ progress, Advances entry place.role (l.progress? place.identity) progress := by
  rw [answer]
  constructor
  · intro accepted
    cases added : l.add place entry with
    | error fault =>
        rw [added] at accepted
        cases accepted
    | ok after =>
        obtain ⟨progress, advances, -⟩ := exists_advances_of_add added
        exact ⟨progress, advances⟩
  · rintro ⟨progress, advances⟩
    rw [add_of_advances advances]
    rfl

theorem answer_read_eq_ok_iff {l : Ledger} {place : Placement} {reader : Reader} :
    (l.answer (.read place)).1 = .ok (some reader) ↔
      ∃ entries first, l.progress? place.identity = some ⟨.committed entries, first⟩ ∧
        reader = .ofEntries place.identity entries := by
  rw [answer, entriesOf]
  constructor
  · intro handed
    split at handed
    · cases handed
    · next entries first recorded =>
      cases handed
      exact ⟨entries, first, recorded, rfl⟩
    · cases handed
    · cases handed
  · rintro ⟨entries, first, recorded, rfl⟩
    rw [recorded]
    rfl

theorem eq_of_records_eq {l l' : Ledger} (same : l.records = l'.records) : l = l' := by
  cases l
  cases l'
  congr

theorem purge_purge (l : Ledger) (id : Identity) : (l.purge id).purge id = l.purge id := by
  apply eq_of_records_eq
  simp only [purge, erase, List.filter_filter, Bool.and_self]

end Ledger

/-- What a request may do to the record of an identity. -/
inductive Moves (request : Request) (id : Identity) :
    Option Progress → Option Progress → Prop where
  | stays (record : Option Progress) : Moves request id record record
  | advances {place : Placement} {entry : Entry} {record : Option Progress}
      {progress : Progress} (asked : request = .add place entry) (own : place.identity = id)
      (advances : Advances entry place.role record progress) :
      Moves request id record (some progress)
  | forgotten {place : Placement} {record : Option Progress} (asked : request = .purge place)
      (own : place.identity = id) : Moves request id record none

namespace Ledger

theorem moves_answer (l : Ledger) (request : Request) (id : Identity) :
    Moves request id (l.progress? id) ((l.answer request).2.progress? id) := by
  by_cases own : request.identity = id
  · subst own
    cases request with
    | add place entry =>
        rw [answer]
        cases added : l.add place entry with
        | error fault => exact .stays _
        | ok after =>
            obtain ⟨progress, advances, rfl⟩ := exists_advances_of_add added
            rw [Request.identity, progress?_put_self]
            exact .advances rfl rfl advances
    | read place => exact .stays _
    | purge place =>
        rw [answer, Request.identity, progress?_purge_self]
        exact .forgotten rfl rfl
  · rw [l.progress?_answer_of_ne (Ne.symm own)]
    exact .stays _

end Ledger

/-- Only a transaction that is still gathering entries advances. -/
theorem Advances.isFinal_eq_false {entry : Entry} {role : Role} {before after : Progress}
    (advances : Advances entry role (some before) after) : before.phase.isFinal = false := by
  cases advances <;> rfl

namespace Ledger

/-- No entry is taken in once no more are expected. -/
theorem add_refused_of_isFinal {l : Ledger} {place : Placement} {progress : Progress}
    (recorded : l.progress? place.identity = some progress)
    (final : progress.phase.isFinal = true) (entry : Entry) :
    (l.add place entry).isOk = false := by
  cases added : l.add place entry with
  | error fault => rfl
  | ok after =>
      obtain ⟨next, advances, -⟩ := exists_advances_of_add added
      rw [recorded] at advances
      exact absurd (final.symm.trans advances.isFinal_eq_false) (by decide)

/-- A transaction that is committed or aborted stays so until it is forgotten. -/
theorem progress?_after_of_isFinal {id : Identity} {progress : Progress}
    (final : progress.phase.isFinal = true) (requests : List Request) :
    ∀ {l : Ledger}, l.progress? id = some progress →
      (∀ request ∈ requests, request.isPurge = true → request.identity ≠ id) →
        (l.after requests).progress? id = some progress := by
  induction requests with
  | nil =>
      intro l recorded _
      exact recorded
  | cons request rest inductionHypothesis =>
      intro l recorded kept
      obtain ⟨first, others⟩ := List.forall_mem_cons.mp kept
      apply inductionHypothesis _ others
      have moves := l.moves_answer request id
      generalize (l.answer request).2.progress? id = next at moves
      cases moves with
      | stays => exact recorded
      | advances _ _ advances =>
          rw [recorded] at advances
          exact absurd (final.symm.trans advances.isFinal_eq_false) (by decide)
      | forgotten asked own =>
          subst asked
          exact absurd own (first rfl)

/-! ## The entries that a record stands for -/

end Ledger

/-- The entries taken in for an identity since it was last forgotten, each with its role,
from those known before. -/
def take (id : Identity) (known : List (Role × Entry)) :
    Request × Reply → List (Role × Entry)
  | (.add place entry, .ok _) =>
      if place.identity = id then known ++ [(place.role, entry)] else known
  | (.purge place, _) => if place.identity = id then [] else known
  | (.add _ _, .error _) | (.read _, _) => known

def taken (id : Identity) (answered : List (Request × Reply)) : List (Role × Entry) :=
  answered.foldl (take id) []

/-- The phase in which the latest entry leaves a transaction. -/
def phaseAfter (role : Role) (entries : List Entry) : Phase :=
  match role with
  | .single | .finalCommit => .committed entries
  | .finalAbort => .aborted
  | .firstOfMany | .continuation | .outside => .gathering entries

/-- The record that entries make, in the order in which they were taken in. -/
def standing (known : List (Role × Entry)) : Option Progress := do
  let (_, first) ← known.head?
  let (role, _) ← known.getLast?
  some ⟨phaseAfter role (known.map Prod.snd), first.timestamp⟩

theorem standing_snoc {known : List (Role × Entry)} {progress : Progress}
    (stands : standing known = some progress) (role : Role) (entry : Entry) :
    standing (known ++ [(role, entry)]) =
      some ⟨phaseAfter role (known.map Prod.snd ++ [entry]), progress.first⟩ := by
  cases known with
  | nil => cases stands
  | cons first rest =>
      obtain ⟨last, latest⟩ : ∃ last, (first :: rest).getLast? = some last :=
        ⟨_, List.getLast?_cons⟩
      rw [standing, latest] at stands
      cases stands
      rw [standing, List.getLast?_append, List.map_append]
      rfl

theorem standing_eq_none_iff {known : List (Role × Entry)} :
    standing known = none ↔ known = [] := by
  cases known with
  | nil => exact ⟨fun _ => rfl, fun _ => rfl⟩
  | cons first rest => simp [standing, List.getLast?_cons]

theorem eq_of_standing_gathering {known : List (Role × Entry)} {entries : List Entry}
    {first : Timestamp} (stands : standing known = some ⟨.gathering entries, first⟩) :
    entries = known.map Prod.snd := by
  simp only [standing, Option.bind_eq_bind, Option.bind_eq_some_iff, Option.some.injEq,
    Progress.mk.injEq] at stands
  obtain ⟨_, _, ⟨role, _⟩, _, phase, _⟩ := stands
  cases role <;> cases phase <;> rfl

/-- What an accepted entry makes of a record, it makes of the entries that the record
stands for. -/
theorem Advances.eq_standing {entry : Entry} {role : Role} {progress : Progress}
    {known : List (Role × Entry)} (advances : Advances entry role (standing known) progress) :
    some progress = standing (known ++ [(role, entry)]) := by
  generalize stands : standing known = record at advances
  cases advances with
  | whole | opened | unseen =>
      rw [standing_eq_none_iff.mp stands]
      rfl
  | continued | completed =>
      rw [standing_snoc stands, eq_of_standing_gathering stands]
      rfl
  | abandoned =>
      rw [standing_snoc stands]
      rfl

namespace Ledger

theorem progress?_answer_eq_standing {l : Ledger} {id : Identity} {known : List (Role × Entry)}
    (recorded : l.progress? id = standing known) (request : Request) :
    (l.answer request).2.progress? id =
      standing (take id known (request, (l.answer request).1)) := by
  by_cases own : request.identity = id
  · subst own
    cases request with
    | add place entry =>
        rw [answer]
        cases added : l.add place entry with
        | error fault => exact recorded
        | ok after =>
            obtain ⟨progress, advances, rfl⟩ := exists_advances_of_add added
            rw [Request.identity] at recorded ⊢
            rw [recorded] at advances
            rw [take, if_pos rfl, progress?_put_self, advances.eq_standing]
    | read place => exact recorded
    | purge place =>
        rw [answer, take, Request.identity, if_pos rfl, progress?_purge_self]
        rfl
  · rw [l.progress?_answer_of_ne (Ne.symm own), recorded]
    cases request with
    | add place entry =>
        rw [Request.identity] at own
        cases (l.answer (.add place entry)).1 with
        | error fault => rfl
        | ok reader => rw [take, if_neg own]
    | read place => rfl
    | purge place =>
        rw [Request.identity] at own
        rw [take, if_neg own]

theorem progress?_after_eq_standing {id : Identity} (requests : List Request) :
    ∀ {l : Ledger} {known : List (Role × Entry)}, l.progress? id = standing known →
      (l.after requests).progress? id = standing ((l.answers requests).foldl (take id) known) := by
  induction requests with
  | nil =>
      intro l known recorded
      exact recorded
  | cons request rest inductionHypothesis =>
      intro l known recorded
      exact inductionHypothesis (progress?_answer_eq_standing recorded request)

/-! ## Counting, and the oldest transaction -/

theorem mem_identities_iff {l : Ledger} {id : Identity} :
    id ∈ l.records.map Prod.fst ↔ (l.progress? id).isSome = true := by
  constructor
  · intro member
    obtain ⟨⟨other, progress⟩, inRecords, rfl⟩ := List.mem_map.mp member
    rw [progress?, lookup_of_mem l.distinct inRecords]
    rfl
  · intro recorded
    obtain ⟨progress, found⟩ := Option.isSome_iff_exists.mp recorded
    exact List.mem_map.mpr ⟨(id, progress), mem_of_lookup found, rfl⟩

/-- The identity is recorded, its transaction is not aborted, and this is the timestamp of
its first entry. -/
def BeganAt (l : Ledger) (id : Identity) (first : Timestamp) : Prop :=
  ∃ progress, l.progress? id = some progress ∧ progress.phase.isAborted = false ∧
    progress.first = first

theorem oldestActive?_eq_some_iff {l : Ledger} {t : Timestamp} :
    l.oldestActive? = some t ↔
      (∃ id, l.BeganAt id t) ∧ ∀ id first, l.BeganAt id first → first.before t = false := by
  constructor
  · intro oldest
    obtain ⟨id, progress, recorded, active, rfl⟩ := exists_of_oldestActive? oldest
    refine ⟨⟨id, progress, recorded, active, rfl⟩, ?_⟩
    rintro other _ ⟨known, found, alive, rfl⟩
    obtain ⟨least, computed, below⟩ := oldestActive?_le found alive
    rw [oldest, Option.some.injEq] at computed
    rw [Timestamp.before_eq_false_iff, computed]
    exact below
  · rintro ⟨⟨id, progress, recorded, active, rfl⟩, noneBefore⟩
    obtain ⟨least, computed, below⟩ := oldestActive?_le recorded active
    obtain ⟨other, began⟩ : ∃ other, l.BeganAt other least := exists_of_oldestActive? computed
    have notBefore := Timestamp.before_eq_false_iff.mp (noneBefore other least began)
    rw [computed, Timestamp.rank_injective (Nat.le_antisymm below notBefore)]

theorem oldestActive?_eq_none_iff {l : Ledger} :
    l.oldestActive? = none ↔ ∀ id first, ¬ l.BeganAt id first := by
  constructor
  · rintro none id _ ⟨progress, recorded, active, rfl⟩
    obtain ⟨least, computed, _⟩ := oldestActive?_le recorded active
    rw [none] at computed
    cases computed
  · intro absent
    cases oldest : l.oldestActive? with
    | none => rfl
    | some t =>
        obtain ⟨id, began⟩ := (oldestActive?_eq_some_iff.mp oldest).1
        exact absurd began (absent id t)

/-! ## Any sequence of requests -/

/-- The entries that an empty ledger has taken in for an identity since it last forgot it. -/
def held (requests : List Request) (id : Identity) : List (Role × Entry) :=
  taken id (empty.answers requests)

theorem progress?_eq_standing (requests : List Request) (id : Identity) :
    (empty.after requests).progress? id = standing (held requests id) :=
  progress?_after_eq_standing requests rfl

theorem isSome_progress?_iff (requests : List Request) (id : Identity) :
    ((empty.after requests).progress? id).isSome = true ↔ held requests id ≠ [] := by
  rw [progress?_eq_standing, Option.isSome_iff_ne_none, ne_eq, standing_eq_none_iff]

/-- What holds of a ledger that was empty before these requests. -/
structure Disciplined (requests : List Request) : Prop where
  /-- Every identity is served as if it were the only one. -/
  isolated : ∀ id,
    (empty.answers requests).filter (fun answered => answered.1.identity = id) =
        empty.answers (about id requests) ∧
      (empty.after requests).progress? id = (empty.after (about id requests)).progress? id
  /-- An entry is accepted exactly if it advances the transaction that it is placed in. -/
  accepted : ∀ place entry,
    ((empty.after requests).answer (.add place entry)).1.isOk = true ↔
      ∃ progress, Advances entry place.role ((empty.after requests).progress? place.identity)
        progress
  /-- A reader is handed out exactly for a transaction that is committed, with its entries. -/
  read : ∀ place reader,
    ((empty.after requests).answer (.read place)).1 = .ok (some reader) ↔
      ∃ entries first, (empty.after requests).progress? place.identity =
        some ⟨.committed entries, first⟩ ∧ reader = .ofEntries place.identity entries
  /-- A request that is refused changes nothing, nor does one for a reader. -/
  unchanged : ∀ request,
    ((empty.after requests).answer request).1.isOk = false ∨ request.isRead = true →
      empty.after (requests ++ [request]) = empty.after requests
  /-- The record of an identity changes with an accepted entry of its own, in one of the
  ways in which transactions advance, and is removed when it is forgotten. -/
  moves : ∀ request id, Moves request id ((empty.after requests).progress? id)
    ((empty.after (requests ++ [request])).progress? id)
  /-- A record has the accepted entries in order, and the timestamp of the first. -/
  stands : ∀ id, (empty.after requests).progress? id = standing (held requests id)
  /-- After a commit or an abort no entry is accepted until the identity is forgotten. -/
  final : ∀ id progress, (empty.after requests).progress? id = some progress →
    progress.phase.isFinal = true → ∀ later : List Request,
      (∀ request ∈ later, request.isPurge = true → request.identity ≠ id) →
        (empty.after (requests ++ later)).progress? id = some progress ∧
          ∀ place entry, place.identity = id →
            ((empty.after (requests ++ later)).answer (.add place entry)).1.isOk = false
  /-- Forgetting never fails, and is the same when it is done again. -/
  forgotten : ∀ place, ((empty.after requests).answer (.purge place)).1 = .ok none ∧
    ((empty.after requests).purge place.identity).progress? place.identity = none ∧
      empty.after (requests ++ [.purge place, .purge place]) =
        empty.after (requests ++ [.purge place])
  /-- Counted are the identities of which an entry is held. -/
  counted : ∃ identities : List Identity, identities.Nodup ∧
    (∀ id, id ∈ identities ↔ held requests id ≠ []) ∧
      (∀ id, (empty.after requests).contains id = true ↔ id ∈ identities) ∧
        (empty.after requests).size = identities.length ∧
          ((empty.after requests).isEmpty = true ↔ identities = [])
  /-- The oldest timestamp is the least one with which a transaction began that is not
  aborted. -/
  oldest : ∀ t, (empty.after requests).oldestActive? = some t ↔
    (∃ id, (empty.after requests).BeganAt id t) ∧
      ∀ id first, (empty.after requests).BeganAt id first → first.before t = false
  noOldest : (empty.after requests).oldestActive? = none ↔
    ∀ id first, ¬ (empty.after requests).BeganAt id first

theorem after_snoc (l : Ledger) (requests : List Request) (request : Request) :
    l.after (requests ++ [request]) = ((l.after requests).answer request).2 :=
  l.after_append requests [request]

/-- Requests to a ledger, valid or not, keep to the identities that they are about, and
leave no trace if they are refused. -/
theorem disciplined (requests : List Request) : Disciplined requests where
  isolated := fun id => answers_about id requests rfl
  accepted := fun place entry => isOk_answer_add_iff
  read := fun place reader => answer_read_eq_ok_iff
  unchanged := by
    intro request idle
    rw [after_snoc, answer_eq_self idle]
  moves := by
    intro request id
    rw [after_snoc]
    exact moves_answer _ request id
  stands := progress?_eq_standing requests
  final := by
    intro id progress recorded final later kept
    have still := progress?_after_of_isFinal final later recorded kept
    rw [← after_append] at still
    refine ⟨still, ?_⟩
    rintro place entry rfl
    have refused := add_refused_of_isFinal still final entry
    rw [answer]
    cases added : (empty.after (requests ++ later)).add place entry with
    | error fault => rfl
    | ok after =>
        rw [added] at refused
        cases refused
  forgotten := by
    intro place
    refine ⟨rfl, progress?_purge_self _ _, ?_⟩
    rw [after_append, after_snoc]
    exact purge_purge _ _
  counted := by
    refine ⟨(empty.after requests).records.map Prod.fst, (empty.after requests).distinct, ?_, ?_,
      ?_, ?_⟩
    · intro id
      rw [mem_identities_iff, isSome_progress?_iff]
    · intro id
      exact mem_identities_iff.symm
    · rw [List.length_map]
      rfl
    · rw [List.map_eq_nil_iff]
      exact List.isEmpty_iff
  oldest := fun t => oldestActive?_eq_some_iff
  noOldest := oldestActive?_eq_none_iff

end Ledger

end LogReplay.Transaction
