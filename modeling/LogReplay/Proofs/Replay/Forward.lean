/-
Module: LogReplay.Proofs.Replay.Forward
Purpose: The points that a replay remembers are those of entries of the log, and only
  ever move forward.
Main exports:
  NotAfter, Dated, Forward, Replayer.Reaches.forward
-/
import LogReplay.Proofs.Replay.InOrder
import LogReplay.Proofs.Transaction.Oldest

/-!
A replay remembers two points of the log: the newest entry that is known to be applied,
and the first entry of the oldest open transaction.  In a log whose timestamps increase
neither of them moves back, whichever calls fail: what waits is newer than what is
applied, and a transaction that is opened is newer than every one before it.
-/

namespace LogReplay.Replay

open Bson (Document Timestamp)
open Transaction

/-! ## Points of a log -/

/-- A point is not after another; no point comes before all. -/
def NotAfter (earlier later : Option Timestamp) : Prop :=
  ∀ s, earlier = some s → ∃ t, later = some t ∧ t.before s = false

theorem NotAfter.refl (point : Option Timestamp) : NotAfter point point := by
  intro s same
  exact ⟨s, same, Timestamp.before_eq_false_iff.mpr (Nat.le_refl _)⟩

theorem NotAfter.trans {first second third : Option Timestamp}
    (one : NotAfter first second) (two : NotAfter second third) : NotAfter first third := by
  intro s known
  obtain ⟨t, later, notBefore⟩ := one s known
  obtain ⟨u, latest, notBefore'⟩ := two t later
  rw [Timestamp.before_eq_false_iff] at notBefore notBefore'
  exact ⟨u, latest, Timestamp.before_eq_false_iff.mpr (Nat.le_trans notBefore notBefore')⟩

/-- Each entry of the log comes after those before it. -/
def IsIncreasing (log : List Entry) : Prop :=
  log.Pairwise fun d e => d.timestamp.before e.timestamp = true

/-- The entry comes after all entries of the log. -/
def IsNewer (log : List Entry) (e : Entry) : Prop :=
  ∀ known ∈ log, known.timestamp.before e.timestamp = true

/-- The point is that of an entry of the log. -/
def IsDated (log : List Entry) (t : Timestamp) : Prop :=
  ∃ e ∈ log, e.timestamp = t

theorem IsDated.append {log : List Entry} {t : Timestamp} (dated : IsDated log t)
    (more : List Entry) : IsDated (log ++ more) t := by
  rcases dated with ⟨e, member, same⟩
  exact ⟨e, List.mem_append_left more member, same⟩

theorem IsDated.before {log : List Entry} {t : Timestamp} {e : Entry} (dated : IsDated log t)
    (newer : IsNewer log e) : t.before e.timestamp = true := by
  rcases dated with ⟨known, member, rfl⟩
  exact newer known member

theorem isDated_self (log : List Entry) (e : Entry) : IsDated (log ++ [e]) e.timestamp :=
  ⟨e, List.mem_append_right log List.mem_cons_self, rfl⟩

/-! ## The newest entry that is applied -/

/-- What is applied and what waits are entries of the log, and what waits comes last. -/
structure Marked (log : List Entry) (lastApplied : Option Timestamp) (pending : Batch) :
    Prop where
  applied : ∀ t, lastApplied = some t → IsDated log t
  waiting : ∀ t, pending.last = some t →
    IsDated log t ∧ pending.documents ≠ [] ∧ ∀ s, lastApplied = some s → s.before t = true

namespace Marked

variable {limits : ReplaySettings} {log : List Entry} {st st' : State}
  {batches : List (List Document)}

theorem append {lastApplied : Option Timestamp} {pending : Batch}
    (marked : Marked log lastApplied pending) (more : List Entry) :
    Marked (log ++ more) lastApplied pending where
  applied t known := (marked.applied t known).append more
  waiting t known := by
    obtain ⟨dated, nonempty, before⟩ := marked.waiting t known
    exact ⟨dated.append more, nonempty, before⟩

theorem emptied {lastApplied : Option Timestamp}
    (applied : ∀ t, lastApplied = some t → IsDated log t) : Marked log lastApplied .empty where
  applied := applied
  waiting t known := by cases known

/-- A flush moves on to the last entry that was waiting, if it succeeds. -/
theorem flush {result : Except Fault Unit} (marked : Marked log st.lastApplied st.pending)
    (flushes : Flushes st result st' batches) :
    Marked log st'.lastApplied st'.pending ∧ NotAfter st.lastApplied st'.lastApplied := by
  cases flushes with
  | idle => exact ⟨marked, .refl _⟩
  | lost => exact ⟨emptied marked.applied, .refl _⟩
  | applied waiting =>
      simp only [State.flushed]
      cases last : st.pending.last with
      | none => exact ⟨emptied marked.applied, .refl _⟩
      | some t =>
          obtain ⟨dated, _, before⟩ := marked.waiting t last
          refine ⟨emptied ?_, ?_⟩
          · intro s same
            cases same
            exact dated
          · intro s known
            refine ⟨t, rfl, Timestamp.before_eq_false_iff.mpr ?_⟩
            exact Nat.le_of_lt (Timestamp.before_iff_rank_lt.mp (before s known))

theorem push {entry : Entry} {lastApplied : Option Timestamp} {pending : Batch}
    (marked : Marked log lastApplied pending) (newer : IsNewer log entry) (bytes : Nat) :
    Marked (log ++ [entry]) lastApplied (pending.push entry bytes) where
  applied t known := (marked.applied t known).append _
  waiting t known := by
    cases known
    refine ⟨isDated_self log entry, List.concat_ne_nil _ _, ?_⟩
    intro s applied
    exact (marked.applied s applied).before newer

theorem hold {entry : Entry} {result : Except Fault Unit}
    (marked : Marked log st.lastApplied st.pending) (newer : IsNewer log entry)
    (holds : Holds limits st entry result st' batches) :
    Marked (log ++ [entry]) st'.lastApplied st'.pending ∧
      NotAfter st.lastApplied st'.lastApplied := by
  cases holds with
  | unencodable => exact ⟨marked.append _, .refl _⟩
  | fits => exact ⟨marked.push newer _, .refl _⟩
  | unflushed _ _ flush =>
      obtain ⟨kept, forward⟩ := marked.flush flush
      exact ⟨kept.append _, forward⟩
  | flushed _ _ flush =>
      obtain ⟨kept, forward⟩ := marked.flush flush
      exact ⟨kept.push newer _, forward⟩

theorem conclude {entry : Entry} {place : Placement} {result : Except Fault Unit}
    (marked : Marked log st.lastApplied st.pending) (newer : IsNewer log entry)
    (concludes : Concludes limits place entry.timestamp st result st' batches) :
    Marked (log ++ [entry]) st'.lastApplied st'.pending ∧
      NotAfter st.lastApplied st'.lastApplied := by
  cases concludes with
  | gathered | aborted => exact ⟨marked.append _, .refl _⟩
  | unflushed _ flush | unreadable _ flush | unsent _ flush =>
      obtain ⟨kept, forward⟩ := marked.flush flush
      exact ⟨kept.append _, forward⟩
  | committed _ flush _ _ =>
      obtain ⟨kept, forward⟩ := marked.flush flush
      obtain ⟨_, empty, _⟩ := flush.documents
      constructor
      · constructor
        · intro t known
          cases known
          exact isDated_self log entry
        · intro t waiting
          obtain ⟨_, nonempty, _⟩ := kept.waiting t waiting
          exact absurd empty nonempty
      · refine forward.trans fun s known => ⟨entry.timestamp, rfl, ?_⟩
        have before := (kept.applied s known).before newer
        exact Timestamp.before_eq_false_iff.mpr
          (Nat.le_of_lt (Timestamp.before_iff_rank_lt.mp before))

theorem answer {call : Call} {answer : Answer} (marked : Marked log st.lastApplied st.pending)
    (newer : ∀ entry, call.entry? = some entry → IsNewer log entry)
    (answers : Answers limits st call answer st' batches) :
    Marked (log ++ call.entry?.toList) st'.lastApplied st'.pending ∧
      NotAfter st.lastApplied st'.lastApplied := by
  cases answers with
  | @apply _ entry result _ applies =>
      have later := newer entry rfl
      cases applies with
      | misplaced | refused => exact ⟨marked.append _, .refl _⟩
      | plain _ _ hold =>
          have start : Marked log st.counted.lastApplied st.counted.pending := marked
          exact start.hold later hold
      | @entered _ _ place ledger _ _ _ _ _ conclude =>
          let entered := st.counted.entered ledger
          have start : Marked log entered.lastApplied entered.pending := marked
          exact start.conclude later conclude
  | flush flushes | finish flushes =>
      rw [Call.entry?, Option.toList_none, List.append_nil]
      exact marked.flush flushes

end Marked

/-! ## The oldest open transaction -/

/-- What is recorded after a call began before it, or begins with the call's entry. -/
inductive Originates (former : Option Progress) (call : Call) (progress : Progress) : Prop where
  | kept {earlier : Progress} (recorded : former = some earlier)
      (first : progress.first = earlier.first)
      (active : progress.phase.isAborted = false → earlier.phase.isAborted = false)
  | begun {entry : Entry} (absent : former = none) (entered : call.entry? = some entry)
      (first : progress.first = entry.timestamp)

theorem Originates.refl {former : Option Progress} {progress : Progress} {call : Call}
    (recorded : former = some progress) : Originates former call progress :=
  .kept recorded rfl id

theorem Originates.of_advances {entry : Entry} {role : Role} {former : Option Progress}
    {progress : Progress} (advances : Advances entry role former progress) :
    Originates former (.apply entry) progress := by
  cases advances with
  | whole | opened | unseen => exact .begun rfl rfl rfl
  | continued | completed | abandoned => exact .kept rfl rfl fun _ => rfl

section Relations

variable {limits : ReplaySettings} {st st' : State} {batches : List (List Document)}

theorem Flushes.ledger {result : Except Fault Unit} (flushes : Flushes st result st' batches) :
    st'.ledger = st.ledger := by
  cases flushes <;> rfl

theorem Holds.ledger {entry : Entry} {result : Except Fault Unit}
    (holds : Holds limits st entry result st' batches) : st'.ledger = st.ledger := by
  cases holds with
  | unencodable | fits => rfl
  | unflushed _ _ flush | flushed _ _ flush => exact flush.ledger

/-- Carrying out a transaction leaves the ledger as it is, or forgets the transaction. -/
theorem Concludes.ledger {place : Placement} {timestamp : Timestamp}
    {result : Except Fault Unit}
    (concludes : Concludes limits place timestamp st result st' batches) :
    st'.ledger = st.ledger ∨
      result = .ok () ∧ st'.ledger = st.ledger.purge place.identity := by
  cases concludes with
  | gathered => exact .inl rfl
  | aborted => exact .inr ⟨rfl, rfl⟩
  | unflushed _ flush | unreadable _ flush | unsent _ flush => exact .inl flush.ledger
  | committed _ flush =>
      refine .inr ⟨rfl, ?_⟩
      rw [← flush.ledger]
      rfl

theorem progress?_of_progress?_purge {l : Ledger} {id other : Identity} {progress : Progress}
    (recorded : (l.purge id).progress? other = some progress) :
    l.progress? other = some progress := by
  by_cases same : other = id
  · rw [same, Ledger.progress?_purge_self] at recorded
    cases recorded
  · rw [Ledger.progress?_purge_of_ne same] at recorded
    exact recorded

/-- What is recorded after a call was recorded before it, or has been advanced by its
entry. -/
theorem Answers.kept_or_advances {call : Call} {answer : Answer} {id : Identity}
    {progress : Progress} (answers : Answers limits st call answer st' batches)
    (recorded : st'.ledger.progress? id = some progress) :
    st.ledger.progress? id = some progress ∨
      ∃ entry role, call = .apply entry ∧
        Advances entry role (st.ledger.progress? id) progress := by
  cases answers with
  | flush flushes | finish flushes =>
      rw [flushes.ledger] at recorded
      exact .inl recorded
  | @apply _ entry _ _ applies =>
      cases applies with
      | misplaced | refused => exact .inl recorded
      | plain _ _ hold =>
          rw [hold.ledger] at recorded
          exact .inl recorded
      | @entered _ _ place _ _ _ _ _ added conclude =>
          obtain ⟨advanced, advances, rfl⟩ := Ledger.exists_advances_of_add added
          have entered :
              (st.ledger.put place.identity advanced).progress? id = some progress := by
            rcases conclude.ledger with same | ⟨_, same⟩
            · rw [same] at recorded
              exact recorded
            · rw [same] at recorded
              exact progress?_of_progress?_purge recorded
          by_cases same : id = place.identity
          · rw [same, Ledger.progress?_put_self] at entered
            cases entered
            rw [same]
            exact .inr ⟨entry, _, rfl, advances⟩
          · rw [Ledger.progress?_put_of_ne _ same] at entered
            exact .inl entered

/-- Nothing is recorded that has not been there and does not come from the entry. -/
theorem Answers.originates {call : Call} {answer : Answer} {id : Identity}
    {progress : Progress} (answers : Answers limits st call answer st' batches)
    (recorded : st'.ledger.progress? id = some progress) :
    Originates (st.ledger.progress? id) call progress := by
  rcases answers.kept_or_advances recorded with kept | ⟨entry, role, rfl, advances⟩
  · exact .refl kept
  · exact .of_advances advances

end Relations

/-- All points that a state remembers are those of entries of the log. -/
structure Dated (log : List Entry) (st : State) : Prop where
  marked : Marked log st.lastApplied st.pending
  firsts : ∀ id progress, st.ledger.progress? id = some progress → IsDated log progress.first

namespace Dated

variable {limits : ReplaySettings} {log : List Entry} {st st' : State}
  {batches : List (List Document)}

theorem initial : Dated [] .initial where
  marked := .emptied fun _ known => by cases known
  firsts _ _ recorded := by cases recorded

theorem answer {call : Call} {answer : Answer} (dated : Dated log st)
    (newer : ∀ entry, call.entry? = some entry → IsNewer log entry)
    (answers : Answers limits st call answer st' batches) :
    Dated (log ++ call.entry?.toList) st' where
  marked := (dated.marked.answer newer answers).1
  firsts id progress recorded := by
    cases answers.originates recorded with
    | kept former first =>
        rw [first]
        exact (dated.firsts id _ former).append _
    | begun _ entered first =>
        rw [first, entered]
        exact isDated_self log _

end Dated

/-- A call opens no transaction that is older than a point of the log. -/
theorem IsDated.notOlder {limits : ReplaySettings} {log : List Entry} {st st' : State}
    {batches : List (List Document)} {call : Call} {answer : Answer} {t : Timestamp}
    (dated : IsDated log t)
    (newer : ∀ entry, call.entry? = some entry → IsNewer log entry)
    (answers : Answers limits st call answer st' batches)
    (before : ∀ id progress, st.ledger.progress? id = some progress →
      progress.phase.isAborted = false → progress.first.before t = false)
    (id : Identity) (progress : Progress) (recorded : st'.ledger.progress? id = some progress)
    (active : progress.phase.isAborted = false) : progress.first.before t = false := by
  cases answers.originates recorded with
  | kept former first wasActive =>
      rw [first]
      exact before id _ former (wasActive active)
  | begun _ entered first =>
      rw [first]
      have later := dated.before (newer _ entered)
      rw [Timestamp.before_iff_rank_lt] at later
      exact Timestamp.before_eq_false_iff.mpr (Nat.le_of_lt later)

/-- What a state remembers is not before what an earlier state remembers. -/
structure Forward (log : List Entry) (st st' : State) : Prop where
  lastApplied : NotAfter st.lastApplied st'.lastApplied
  dated : ∀ t, st.ledger.oldestActive? = some t → IsDated log t
  oldest : ∀ t, st.ledger.oldestActive? = some t → ∀ id progress,
    st'.ledger.progress? id = some progress → progress.phase.isAborted = false →
      progress.first.before t = false

namespace Forward

theorem refl {log : List Entry} {st : State} (dated : Dated log st) : Forward log st st where
  lastApplied := .refl _
  dated t oldest := by
    obtain ⟨id, progress, recorded, _, rfl⟩ := Ledger.exists_of_oldestActive? oldest
    exact dated.firsts id progress recorded
  oldest t oldest id progress recorded active := by
    obtain ⟨s, same, least⟩ := Ledger.oldestActive?_le recorded active
    rw [oldest] at same
    cases same
    exact Timestamp.before_eq_false_iff.mpr least

theorem answer {limits : ReplaySettings} {log : List Entry} {start st st' : State}
    {batches : List (List Document)} {call : Call} {answer : Answer}
    (forward : Forward log start st) (dated : Dated log st)
    (newer : ∀ entry, call.entry? = some entry → IsNewer log entry)
    (answers : Answers limits st call answer st' batches) :
    Forward (log ++ call.entry?.toList) start st' where
  lastApplied := forward.lastApplied.trans (dated.marked.answer newer answers).2
  dated t oldest := (forward.dated t oldest).append _
  oldest t oldest := (forward.dated t oldest).notOlder newer answers (forward.oldest t oldest)

end Forward

/-- The log of a run, continued by a call, is increasing if the call's entry is newer. -/
theorem newer_of_isIncreasing {log : List Entry} {call : Call}
    (increasing : IsIncreasing (log ++ call.entry?.toList)) :
    IsIncreasing log ∧ ∀ entry, call.entry? = some entry → IsNewer log entry := by
  obtain ⟨earlier, _, across⟩ := List.pairwise_append.mp increasing
  refine ⟨earlier, ?_⟩
  intro entry entered known member
  rw [entered] at across
  exact across known member entry List.mem_cons_self

namespace Replayer

variable {σ : Type} {p : Replayer σ}

theorem Reaches.dated {outside : σ} {steps : List (Step σ)} {r : Run σ}
    (reached : p.Reaches (.initial ⟨outside, []⟩) steps r)
    (increasing : IsIncreasing (appliedEntries steps)) :
    Dated (appliedEntries steps) r.state := by
  revert increasing
  refine reached.invariant
    (fun steps r => IsIncreasing (appliedEntries steps) → Dated (appliedEntries steps) r.state)
    (fun _ => .initial) ?_
  intro steps step batches held answers _ increasing
  rw [appliedEntries_snoc] at increasing ⊢
  obtain ⟨earlier, newer⟩ := newer_of_isIncreasing increasing
  exact (held earlier).answer newer answers

/-- The points from which a log can be read again never move back, whatever fails. -/
theorem Reaches.forward {outside : σ} {earlier later : List (Step σ)} {middle last : Run σ}
    (one : p.Reaches (.initial ⟨outside, []⟩) earlier middle)
    (two : p.Reaches middle later last)
    (increasing : IsIncreasing (appliedEntries (earlier ++ later))) :
    Forward (appliedEntries (earlier ++ later)) middle.state last.state := by
  have kept : IsIncreasing (appliedEntries (earlier ++ later)) →
      Dated (appliedEntries (earlier ++ later)) last.state ∧
        Forward (appliedEntries (earlier ++ later)) middle.state last.state := by
    refine two.invariant
      (fun steps r => IsIncreasing (appliedEntries (earlier ++ steps)) →
        Dated (appliedEntries (earlier ++ steps)) r.state ∧
          Forward (appliedEntries (earlier ++ steps)) middle.state r.state) ?_ ?_
    · intro increasing
      rw [List.append_nil] at increasing ⊢
      have dated := one.dated increasing
      exact ⟨dated, .refl dated⟩
    · intro steps step batches held answers _ increasing
      rw [← List.append_assoc, appliedEntries_snoc] at increasing ⊢
      obtain ⟨before, newer⟩ := newer_of_isIncreasing increasing
      obtain ⟨dated, forward⟩ := held before
      exact ⟨dated.answer newer answers, forward.answer dated newer answers⟩
  exact (kept increasing).2

end Replayer

end LogReplay.Replay
