/-
Module: LogReplay.Proofs.Session.Rounds
Purpose: The rounds in which documents are inserted, and which documents each one is about.
Main exports:
  Round, Session.Inserts, Course, Course.length_le, Course.covered, Course.pairwise,
  Session.insertFrom_ends, Session.meetsEndless_of_insertFrom
-/
import LogReplay.Proofs.Session.Protocol
import LogReplay.Session.Writing

/-!
Documents are inserted in rounds.  A round is one repeated operation: it sends the same
documents again and again, until a command is acknowledged or the repetition is given up.

`Inserts` follows the rounds from one world to another.  A `Course` is the pattern that the
rounds have, whatever they come to: all documents that are left, until they meet a taken key;
then one document at a time, until one is acknowledged.  The position of a course only moves
on, behind an acknowledged round or past a document whose own key is taken.
-/

namespace LogReplay

open Bson (Document)

/-- One repeated insert of consecutive documents. -/
structure Round where
  /-- The position of the first document. -/
  first : Nat
  /-- The number of documents. -/
  size : Nat
  /-- What each of its commands came to. -/
  attempts : List (Except Failure Unit)
  outcome : Except Fault Unit

namespace Round

/-- The documents of a round, among all. -/
def documents (documents : List Document) (r : Round) : List Document :=
  (documents.drop r.first).take r.size

/-- The round sends the document at this position. -/
def Covers (r : Round) (position : Nat) : Prop :=
  r.first ≤ position ∧ position < r.first + r.size

/-- The destination acknowledged a command of the round. -/
def IsAcknowledged (r : Round) : Prop :=
  .ok () ∈ r.attempts

/-- The last command of the round was rejected because a key is taken. -/
def MetTakenKey (r : Round) : Prop :=
  ∃ failure, r.attempts.getLast? = some (.error failure) ∧ failure.isDuplicateKey = true ∧
    failure.isReconnectable = false

/-- What a round comes to says how its commands went. -/
structure Tells (r : Round) : Prop where
  /-- Nothing is sent after a command that was acknowledged. -/
  last : ∀ k, r.attempts[k]? = some (.ok ()) → k + 1 = r.attempts.length
  ok_iff : r.outcome = .ok () ↔ r.attempts.getLast? = some (.ok ())
  taken : ∀ fault, r.outcome = .error fault → fault.isDuplicateKey = true → r.MetTakenKey

theorem Tells.isAcknowledged_iff {r : Round} (tells : r.Tells) :
    r.IsAcknowledged ↔ r.outcome = .ok () := by
  rw [tells.ok_iff]
  constructor
  · intro acknowledged
    obtain ⟨k, found⟩ := List.getElem?_of_mem acknowledged
    have atEnd := tells.last k found
    rw [List.getLast?_eq_getElem?, ← found]
    congr 1
    omega
  · exact List.mem_of_getLast?

end Round

/-! ## The rounds of a run -/

namespace Session

variable {σ : Type} (s : Session σ) (ns : Namespace)

/-- One attempt at inserting documents. -/
def insertAttempt (documents : List Document) (_ : Bool) : Act (World σ) Failure Unit :=
  s.perform ns.database (s.insertCommand ns documents)

/-- The repetition of these attempts. -/
def insertRepeatedly (documents : List Document) : Act (World σ) Fault Unit :=
  s.retryingWrite "insert" (s.insertAttempt ns documents)

/-- Rounds of an insert of these documents, one after the other, lead from a world to
another.  In each the documents of the round are inserted repeatedly, with an account of how
that went. -/
inductive Inserts (documents : List Document) : World σ → List Round → World σ → Prop where
  | nothing (w : World σ) : Inserts documents w [] w
  | aside {w t : World σ} {rounds : List Round} {count : Nat}
      (later : Inserts documents (w.record (.insertedSingly count)) rounds t) :
      Inserts documents w rounds t
  | round {w u t : World σ} {r : Round} {rounds : List Round} {account : Account Unit}
      (ended : (s.insertRepeatedly ns (r.documents documents)).run w = some (r.outcome, u))
      (does : s.Does .byWriting (s.insertAttempt ns (r.documents documents)) w
        (account.deeds s.policy.recoverSleep) u)
      (orderly : account.Orderly s.policy)
      (comesTo : account.ComesTo s.settings.destinationName s.policy r.outcome)
      (attempts : r.attempts = account.attempts.map Try.outcome)
      (later : Inserts documents u rounds t) :
      Inserts documents w (r :: rounds) t

variable {s ns} {documents : List Document}

theorem Inserts.trans {w u t : World σ} {rounds later : List Round}
    (one : s.Inserts ns documents w rounds u) (two : s.Inserts ns documents u later t) :
    s.Inserts ns documents w (rounds ++ later) t := by
  induction one with
  | nothing => exact two
  | aside _ inductionHypothesis => exact .aside (inductionHypothesis two)
  | round ended does orderly comesTo attempts _ inductionHypothesis =>
      exact .round ended does orderly comesTo attempts (inductionHypothesis two)

end Session

/-- Every attempt but the last is followed by a recovery, so only the last can succeed. -/
theorem Account.Orderly.eq_last_of_ok {α : Type} {p : Retry.Policy} {a : Account α}
    (orderly : a.Orderly p) {k : Nat} {went : Try α} {value : α}
    (found : a.attempts[k]? = some went) (succeeded : went.outcome = .ok value) :
    k + 1 = a.attempts.length := by
  obtain ⟨bound, -⟩ := List.getElem?_eq_some_iff.mp found
  have count : a.attempts.length ≤ a.recoveries.length + 1 := by
    rw [a.length_attempts, Account.recoveries, List.length_append, List.length_map]
    omega
  rcases Nat.lt_or_ge k a.recoveries.length with early | late
  · obtain ⟨⟨failure, failed, -⟩, -⟩ := orderly.begun k went found early
    rw [succeeded] at failed
    cases failed
  · omega

theorem Account.getLast?_attempts {α : Type} (a : Account α) :
    a.attempts.getLast? = some a.last :=
  List.getLast?_eq_some_getLast _

/-- The account of a round tells how its commands went. -/
theorem Round.tells_of_account {r : Round} {p : Retry.Policy} {target : String}
    {account : Account Unit} (orderly : account.Orderly p)
    (comesTo : account.ComesTo target p r.outcome)
    (attempts : r.attempts = account.attempts.map Try.outcome) : r.Tells where
  last := by
    intro k found
    rw [attempts, List.getElem?_map, Option.map_eq_some_iff] at found
    obtain ⟨went, found, succeeded⟩ := found
    rw [attempts, List.length_map]
    exact orderly.eq_last_of_ok found succeeded
  ok_iff := by
    rw [comesTo.ok_iff, attempts, List.getLast?_map, account.getLast?_attempts]
    simp
  taken := by
    intro fault failed taken
    cases fault with
    | command failure =>
        obtain ⟨last, final⟩ := (comesTo.command_iff failure).mp failed
        refine ⟨failure, ?_, taken, final⟩
        rw [attempts, List.getLast?_map, account.getLast?_attempts, Option.map_some, last]
    | _ => cases taken

theorem Session.Inserts.tells {σ : Type} {s : Session σ} {ns : Namespace}
    {documents : List Document} {w t : World σ} {rounds : List Round}
    (inserts : s.Inserts ns documents w rounds t) : ∀ r ∈ rounds, r.Tells := by
  induction inserts with
  | nothing => exact List.forall_mem_nil _
  | aside _ inductionHypothesis => exact inductionHypothesis
  | round _ _ orderly comesTo attempts _ inductionHypothesis =>
      exact List.forall_mem_cons.mpr
        ⟨Round.tells_of_account orderly comesTo attempts, inductionHypothesis⟩

/-! ## Courses -/

/-- The rounds from a position on, where documents are tried singly or together. -/
inductive Course (count : Nat) :
    (position : Nat) → (singly : Bool) → List Round → Except Fault Unit → Prop where
  | done {position : Nat} {singly : Bool} (nothingLeft : count ≤ position) :
      Course count position singly [] (.ok ())
  | together {r : Round} (some : 0 < r.size) (all : r.first + r.size = count)
      (acknowledged : r.outcome = .ok ()) : Course count r.first false [r] (.ok ())
  | singly {r : Round} {rounds : List Round} {result : Except Fault Unit} {fault : Fault}
      (some : 0 < r.size) (all : r.first + r.size = count) (taken : r.outcome = .error fault)
      (duplicate : fault.isDuplicateKey = true) (later : Course count r.first true rounds result) :
      Course count r.first false (r :: rounds) result
  | acknowledged {r : Round} {rounds : List Round} {result : Except Fault Unit}
      (one : r.size = 1) (inside : r.first < count) (acknowledged : r.outcome = .ok ())
      (later : Course count (r.first + 1) false rounds result) :
      Course count r.first true (r :: rounds) result
  | passed {r : Round} {rounds : List Round} {result : Except Fault Unit} {fault : Fault}
      (one : r.size = 1) (inside : r.first < count) (taken : r.outcome = .error fault)
      (duplicate : fault.isDuplicateKey = true)
      (later : Course count (r.first + 1) true rounds result) :
      Course count r.first true (r :: rounds) result
  | failed {r : Round} {singly : Bool} {fault : Fault} (some : 0 < r.size)
      (inside : r.first + r.size ≤ count) (refused : r.outcome = .error fault)
      (other : fault.isDuplicateKey = false) :
      Course count r.first singly [r] (.error fault)

namespace Course

variable {count position : Nat} {singly : Bool} {rounds : List Round}
  {result : Except Fault Unit}

/-- A document is sent together with the others once, and once alone. -/
theorem length_le (course : Course count position singly rounds result) :
    rounds.length ≤ 2 * (count - position) - (if singly then 1 else 0) := by
  induction course with
  | done => exact Nat.zero_le _
  | together some all =>
      simp only [List.length_singleton, Bool.false_eq_true, if_false]
      omega
  | singly some all _ _ _ inductionHypothesis =>
      simp only [if_true, List.length_cons, Bool.false_eq_true, if_false] at inductionHypothesis ⊢
      omega
  | acknowledged one inside _ _ inductionHypothesis =>
      simp only [if_true, List.length_cons, Bool.false_eq_true, if_false] at inductionHypothesis ⊢
      omega
  | passed one inside _ _ _ inductionHypothesis =>
      simp only [if_true, List.length_cons] at inductionHypothesis ⊢
      omega
  | failed some inside =>
      simp only [List.length_singleton]
      split <;> omega

/-- No round is about documents before the position of the course, or about none. -/
theorem inside (course : Course count position singly rounds result) :
    ∀ r ∈ rounds, position ≤ r.first ∧ 0 < r.size ∧ r.first + r.size ≤ count := by
  induction course with
  | done => exact List.forall_mem_nil _
  | together some all =>
      exact List.forall_mem_singleton.mpr ⟨Nat.le_refl _, some, Nat.le_of_eq all⟩
  | singly some all _ _ _ inductionHypothesis =>
      exact List.forall_mem_cons.mpr
        ⟨⟨Nat.le_refl _, some, Nat.le_of_eq all⟩, inductionHypothesis⟩
  | acknowledged one inside _ _ inductionHypothesis
  | passed one inside _ _ _ inductionHypothesis =>
      refine List.forall_mem_cons.mpr ⟨⟨Nat.le_refl _, by omega, by omega⟩, ?_⟩
      intro r member
      obtain ⟨behind, some, bound⟩ := inductionHypothesis r member
      exact ⟨by omega, some, bound⟩
  | failed some inside =>
      exact List.forall_mem_singleton.mpr ⟨Nat.le_refl _, some, inside⟩

/-- The course moves on behind every round that is acknowledged. -/
theorem pairwise (course : Course count position singly rounds result) :
    rounds.Pairwise fun earlier later =>
      earlier.outcome = .ok () → earlier.first + earlier.size ≤ later.first := by
  induction course with
  | done => exact .nil
  | together | failed => exact List.pairwise_singleton _ _
  | singly _ _ taken _ _ inductionHypothesis | passed _ _ taken _ _ inductionHypothesis =>
      refine List.pairwise_cons.mpr ⟨?_, inductionHypothesis⟩
      intro later _ acknowledged
      rw [taken] at acknowledged
      cases acknowledged
  | acknowledged one _ _ rest inductionHypothesis =>
      refine List.pairwise_cons.mpr ⟨?_, inductionHypothesis⟩
      intro later member _
      rw [one]
      exact (rest.inside later member).1

/-- In a course that ends well every position is behind an acknowledged round, or its own
round met a taken key. -/
theorem covered (course : Course count position singly rounds result) :
    result = .ok () → ∀ k, position ≤ k → k < count →
      (∃ r ∈ rounds, r.Covers k ∧ r.outcome = .ok ()) ∨
        ∃ r ∈ rounds, r.first = k ∧ r.size = 1 ∧
          ∃ fault, r.outcome = .error fault ∧ fault.isDuplicateKey = true := by
  induction course with
  | done nothingLeft =>
      intro _ k behind before
      omega
  | @together r some all acknowledged =>
      intro _ k behind before
      exact .inl ⟨r, List.mem_singleton_self r, ⟨behind, by omega⟩, acknowledged⟩
  | singly _ _ _ _ _ inductionHypothesis =>
      intro succeeded k behind before
      rcases inductionHypothesis succeeded k behind before with
        ⟨r, member, own⟩ | ⟨r, member, own⟩
      · exact .inl ⟨r, List.mem_cons_of_mem _ member, own⟩
      · exact .inr ⟨r, List.mem_cons_of_mem _ member, own⟩
  | @acknowledged r _ _ one _ acknowledged _ inductionHypothesis =>
      intro succeeded k behind before
      rcases Nat.eq_or_lt_of_le behind with rfl | later
      · exact .inl ⟨r, List.mem_cons_self, ⟨Nat.le_refl _, by omega⟩, acknowledged⟩
      rcases inductionHypothesis succeeded k later before with ⟨r, member, own⟩ | ⟨r, member, own⟩
      · exact .inl ⟨r, List.mem_cons_of_mem _ member, own⟩
      · exact .inr ⟨r, List.mem_cons_of_mem _ member, own⟩
  | @passed r _ _ fault one _ taken duplicate _ inductionHypothesis =>
      intro succeeded k behind before
      rcases Nat.eq_or_lt_of_le behind with rfl | later
      · exact .inr ⟨r, List.mem_cons_self, rfl, one, fault, taken, duplicate⟩
      rcases inductionHypothesis succeeded k later before with ⟨r, member, own⟩ | ⟨r, member, own⟩
      · exact .inl ⟨r, List.mem_cons_of_mem _ member, own⟩
      · exact .inr ⟨r, List.mem_cons_of_mem _ member, own⟩
  | failed =>
      intro succeeded
      cases succeeded

/-- A course only ends badly with its last round, and never with a taken key. -/
theorem last_of_error (course : Course count position singly rounds result) :
    ∀ fault, result = .error fault →
      fault.isDuplicateKey = false ∧
        ∃ r, rounds.getLast? = some r ∧ r.outcome = .error fault := by
  induction course with
  | done | together =>
      intro fault failed
      cases failed
  | singly _ _ _ _ _ inductionHypothesis | acknowledged _ _ _ _ inductionHypothesis
  | passed _ _ _ _ _ inductionHypothesis =>
      intro fault failed
      obtain ⟨other, r, last, outcome⟩ := inductionHypothesis fault failed
      exact ⟨other, r, by rw [List.getLast?_cons, last]; rfl, outcome⟩
  | @failed r _ _ _ _ refused other =>
      intro fault failed
      cases failed
      exact ⟨other, r, rfl, refused⟩

end Course

/-! ## The course of a run -/

namespace Session

variable {σ : Type} (s : Session σ) (ns : Namespace) {documents : List Document}

/-- The next document alone, and then the others. -/
def insertSingly (document : Document) (rest : List Document) (count : Nat) :
    Act (World σ) Fault Unit := do
  if ← s.insertRound ns [document] then
    note (.insertedSingly (count + 1))
    s.insertFrom ns none rest
  else s.insertFrom ns (some (count + 1)) rest

theorem insertFrom_some_cons (count : Nat) (document : Document) (rest : List Document) :
    s.insertFrom ns (some count) (document :: rest) = s.insertSingly ns document rest count :=
  rfl

theorem insertFrom_none_cons (document : Document) (rest : List Document) :
    s.insertFrom ns none (document :: rest) = (do
      if ← s.insertRound ns (document :: rest) then pure ()
      else s.insertSingly ns document rest 0) := by
  rw [insertFrom, insertTogether, bind_assoc]
  congr 1
  funext stored
  cases stored <;> rfl

/-- A round of these documents, and whether they were stored or met a taken key. -/
theorem insertRound_ends (documents : List Document) (first size : Nat) (w : World σ) :
    (s.insertRound ns ((documents.drop first).take size)).Ends w fun result t =>
      ∃ r : Round, r.first = first ∧ r.size = size ∧ s.Inserts ns documents w [r] t ∧
        match result with
        | .ok true => r.outcome = .ok ()
        | .ok false => ∃ fault, r.outcome = .error fault ∧ fault.isDuplicateKey = true
        | .error fault => r.outcome = .error fault ∧ fault.isDuplicateKey = false := by
  rw [insertRound, Act.ends_bind, Act.ends_outcome]
  intro outcome t ended
  obtain ⟨account, does, follows⟩ := s.retrying_does .byWriting _ "insert" w outcome t ended
  have inserts : s.Inserts ns documents w
      [⟨first, size, account.attempts.map Try.outcome, outcome⟩] t :=
    .round ended does (Account.orderly_of_follows follows) (Account.comesTo_of_follows follows) rfl
      (.nothing t)
  cases outcome with
  | ok => exact (Act.ends_pure true).mpr ⟨_, rfl, rfl, inserts, rfl⟩
  | error fault =>
      simp only
      split
      · next duplicate =>
        exact (Act.ends_pure false).mpr ⟨_, rfl, rfl, inserts, fault, rfl, duplicate⟩
      · next other =>
        rw [Bool.not_eq_true] at other
        exact (Act.ends_fail fault).mpr ⟨_, rfl, rfl, inserts, rfl, other⟩

theorem slices_of_drop {document : Document} {rest : List Document} {position : Nat}
    (left : documents.drop position = document :: rest) :
    position < documents.length ∧ (documents.drop position).take 1 = [document] ∧
      (documents.drop position).take (documents.length - position) = document :: rest ∧
        documents.drop (position + 1) = rest := by
  have size : documents.length - position = rest.length + 1 := by
    rw [← List.length_drop, left, List.length_cons]
  refine ⟨by omega, by rw [left]; rfl, ?_, ?_⟩
  · rw [left, size, ← List.length_cons, List.take_length]
  · rw [← List.drop_drop, left]
    rfl

/-- Wherever documents are left, the rounds have a course from their position on. -/
theorem insertFrom_ends (documents rest : List Document) :
    ∀ {position : Nat}, documents.drop position = rest → ∀ {singles : Option Nat} {w : World σ},
      (s.insertFrom ns singles rest).Ends w fun result t =>
        ∃ rounds, s.Inserts ns documents w rounds t ∧
          Course documents.length position singles.isSome rounds result := by
  induction rest with
  | nil =>
      intro position left singles w
      have nothingLeft := List.drop_eq_nil_iff.mp left
      cases singles with
      | none => exact (Act.ends_pure ()).mpr ⟨[], .nothing w, .done nothingLeft⟩
      | some count => exact ends_note.mpr ⟨[], .aside (.nothing _), .done nothingLeft⟩
  | cons document rest inductionHypothesis =>
      intro position left
      obtain ⟨before, one, all, behind⟩ := slices_of_drop left
      -- From here both modes go on, and each returns to the other further behind.
      have alone (count : Nat) (w : World σ) :
          (s.insertSingly ns document rest count).Ends w fun result t =>
            ∃ rounds, s.Inserts ns documents w rounds t ∧
              Course documents.length position true rounds result := by
        rw [insertSingly, Act.ends_bind, ← one]
        refine (s.insertRound_ends ns documents position 1 w).mono ?_
        rintro result t ⟨r, rfl, single, inserts, told⟩
        match result with
        | .ok true =>
            refine Act.ends_bind.mpr (ends_note.mpr ((inductionHypothesis behind).mono ?_))
            rintro result u ⟨rounds, later, course⟩
            exact ⟨r :: rounds, inserts.trans (.aside later),
              .acknowledged single before told course⟩
        | .ok false =>
            obtain ⟨fault, taken, duplicate⟩ := told
            refine (inductionHypothesis behind).mono ?_
            rintro result u ⟨rounds, later, course⟩
            exact ⟨r :: rounds, inserts.trans later, .passed single before taken duplicate course⟩
        | .error fault =>
            exact ⟨[r], inserts, .failed (by omega) (by omega) told.1 told.2⟩
      intro singles w
      cases singles with
      | some count =>
          rw [insertFrom_some_cons]
          exact alone count w
      | none =>
          rw [insertFrom_none_cons, Act.ends_bind, ← all]
          refine (s.insertRound_ends ns documents position _ w).mono ?_
          rintro result t ⟨r, rfl, together, inserts, told⟩
          match result with
          | .ok true =>
              exact (Act.ends_pure ()).mpr
                ⟨[r], inserts, .together (by omega) (by omega) told⟩
          | .ok false =>
              obtain ⟨fault, taken, duplicate⟩ := told
              refine (alone 0 t).mono ?_
              rintro result u ⟨rounds, later, course⟩
              exact ⟨r :: rounds, inserts.trans later,
                .singly (by omega) (by omega) taken duplicate course⟩
          | .error fault =>
              exact ⟨[r], inserts, .failed (by omega) (by omega) told.1 told.2⟩

/-! ## A run without an end -/

variable {s ns}

/-- Some rounds lead to a world in which repeating the next documents does not end. -/
def MeetsEndless (s : Session σ) (ns : Namespace) (documents : List Document) (w : World σ) :
    Prop :=
  ∃ rounds u position size, s.Inserts ns documents w rounds u ∧
    (s.insertRepeatedly ns ((documents.drop position).take size)).run u = none

theorem MeetsEndless.before {w u : World σ} {rounds : List Round}
    (inserts : s.Inserts ns documents w rounds u) (meets : s.MeetsEndless ns documents u) :
    s.MeetsEndless ns documents w := by
  obtain ⟨later, t, position, size, more, endless⟩ := meets
  exact ⟨rounds ++ later, t, position, size, inserts.trans more, endless⟩

theorem run_insertRepeatedly_eq_none {slice : List Document} {w : World σ}
    (endless : (s.insertRound ns slice).run w = none) :
    (s.insertRepeatedly ns slice).run w = none := by
  cases repeated : (s.insertRepeatedly ns slice).run w with
  | none => rfl
  | some ending =>
      obtain ⟨outcome, t⟩ := ending
      have ended : ((s.insertRepeatedly ns slice).outcome : Act (World σ) Fault _).run w =
          some (.ok outcome, t) := by
        rw [Act.run_outcome, repeated]
        rfl
      rw [insertRound] at endless
      replace endless := (Act.run_bind_ok ended _).symm.trans endless
      cases outcome with
      | ok => cases endless
      | error fault =>
          simp only at endless
          split at endless <;> cases endless

/-- A round without an end is a repetition without an end; after one that ends there are
the worlds to which it leads. -/
theorem meetsEndless_of_round {position size : Nat} {w : World σ}
    {next : Bool → Act (World σ) Fault Unit}
    (endless : (s.insertRound ns ((documents.drop position).take size) >>= next).run w = none)
    (later : ∀ stored t, (next stored).run t = none → s.MeetsEndless ns documents t) :
    s.MeetsEndless ns documents w := by
  rw [Act.run_bind] at endless
  cases ended : (s.insertRound ns ((documents.drop position).take size)).run w with
  | none =>
      exact ⟨[], w, _, _, .nothing w, run_insertRepeatedly_eq_none ended⟩
  | some ending =>
      obtain ⟨result, t⟩ := ending
      obtain ⟨r, -, -, inserts, -⟩ := s.insertRound_ends ns documents position size w result t ended
      rw [ended] at endless
      cases result with
      | ok stored => exact (later stored t endless).before inserts
      | error fault => cases endless

/-- If inserting does not end, then one of its repetitions does not. -/
theorem meetsEndless_of_insertFrom (documents rest : List Document) :
    ∀ {position : Nat}, documents.drop position = rest → ∀ {singles : Option Nat} {w : World σ},
      (s.insertFrom ns singles rest).run w = none → s.MeetsEndless ns documents w := by
  induction rest with
  | nil =>
      intro position left singles w endless
      cases singles <;> cases endless
  | cons document rest inductionHypothesis =>
      intro position left
      obtain ⟨-, one, all, behind⟩ := slices_of_drop left
      have alone (count : Nat) (w : World σ)
          (endless : (s.insertSingly ns document rest count).run w = none) :
          s.MeetsEndless ns documents w := by
        rw [insertSingly, ← one] at endless
        refine meetsEndless_of_round endless ?_
        intro stored t endless
        cases stored with
        | true =>
            exact (inductionHypothesis behind endless).before (.aside (.nothing _))
        | false => exact inductionHypothesis behind endless
      intro singles w endless
      cases singles with
      | some count =>
          rw [insertFrom_some_cons] at endless
          exact alone count w endless
      | none =>
          rw [insertFrom_none_cons, ← all] at endless
          refine meetsEndless_of_round endless ?_
          intro stored t endless
          cases stored with
          | true => cases endless
          | false => exact alone 0 t endless

end Session

end LogReplay
