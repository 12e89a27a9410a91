/-
Module: LogReplay.Act
Purpose: Computations that change a state, may fail, and may outlast their
  patience.
Main exports:
  Act, Act.fail, Act.outlasted, Act.outcome, Act.onFault, Act.within
-/

/-!
An act on a state ends with a value or an error and a new state.  An error does
not undo what was done before it: the state after the error is there to go on
with.  An act whose loops are bounded by a patience has no end when it outlasts
it; that is `none`, and is told apart from every error.

The equations at the end say how each construction runs on a state.
-/

namespace LogReplay

/-- A computation on states `S` with errors `ε`. -/
def Act (S ε α : Type) : Type :=
  S → Option (Except ε α × S)

namespace Act

variable {S T ε δ α β : Type}

/-- Runs an act on a state. -/
def run (x : Act S ε α) (s : S) : Option (Except ε α × S) :=
  x s

protected def pure (a : α) : Act S ε α :=
  fun s => some (.ok a, s)

protected def bind (x : Act S ε α) (f : α → Act S ε β) : Act S ε β :=
  fun s =>
    match x s with
    | none => none
    | some (.error e, s) => some (.error e, s)
    | some (.ok a, s) => f a s

instance : Monad (Act S ε) where
  pure := Act.pure
  bind := Act.bind

/-- Ends with an error. -/
def fail (e : ε) : Act S ε α :=
  fun s => some (.error e, s)

/-- Does not end within its patience. -/
def outlasted : Act S ε α :=
  fun _ => none

/-- The state. -/
def read : Act S ε S :=
  fun s => some (.ok s, s)

/-- Changes the state. -/
def change (f : S → S) : Act S ε Unit :=
  fun s => some (.ok (), f s)

/-- Ends with a value or an error that is known already. -/
def ofExcept (result : Except ε α) : Act S ε α :=
  fun s => some (result, s)

/-- Ends well whether or not the act does, with what it came to. -/
def outcome (x : Act S ε α) : Act S δ (Except ε α) :=
  fun s => (x s).map fun (result, s) => (.ok result, s)

/-- Changes the state if the act ends with an error, and keeps the error. -/
def onFault (x : Act S ε α) (f : S → S) : Act S ε α :=
  fun s =>
    match x s with
    | none => none
    | some (.error e, s) => some (.error e, f s)
    | some (.ok a, s) => some (.ok a, s)

/-- An act on a part of a larger state. -/
def within (part : T → S) (replace : S → T → T) (x : Act S ε α) : Act T ε α :=
  fun t => (x (part t)).map fun (result, s) => (result, replace s t)

@[simp] theorem run_pure (a : α) (s : S) : run (pure a : Act S ε α) s = some (.ok a, s) :=
  rfl

theorem run_bind (x : Act S ε α) (f : α → Act S ε β) (s : S) :
    run (x >>= f) s =
      match run x s with
      | none => none
      | some (.error e, s) => some (.error e, s)
      | some (.ok a, s) => run (f a) s :=
  rfl

theorem run_bind_ok {x : Act S ε α} {s t : S} {a : α} (ended : run x s = some (.ok a, t))
    (f : α → Act S ε β) : run (x >>= f) s = run (f a) t := by
  rw [run_bind, ended]

theorem run_bind_error {x : Act S ε α} {s t : S} {e : ε}
    (ended : run x s = some (.error e, t)) (f : α → Act S ε β) :
    run (x >>= f) s = some (.error e, t) := by
  rw [run_bind, ended]

theorem run_bind_none {x : Act S ε α} {s : S} (endless : run x s = none)
    (f : α → Act S ε β) : run (x >>= f) s = none := by
  rw [run_bind, endless]

/-- Two acts end well together exactly if the first does and then the second. -/
theorem run_bind_eq_ok_iff {x : Act S ε α} {f : α → Act S ε β} {s u : S} {b : β} :
    run (x >>= f) s = some (.ok b, u) ↔
      ∃ a t, run x s = some (.ok a, t) ∧ run (f a) t = some (.ok b, u) := by
  rw [run_bind]
  rcases run x s with _ | ⟨_ | a, t⟩
  · simp
  · simp
  · constructor
    · intro ended
      exact ⟨a, t, rfl, ended⟩
    · rintro ⟨_, _, first, second⟩
      cases first
      exact second

/-- Two acts fail together exactly if the first fails, or ends well and the second
fails. -/
theorem run_bind_eq_error_iff {x : Act S ε α} {f : α → Act S ε β} {s u : S} {e : ε} :
    run (x >>= f) s = some (.error e, u) ↔
      run x s = some (.error e, u) ∨
        ∃ a t, run x s = some (.ok a, t) ∧ run (f a) t = some (.error e, u) := by
  rw [run_bind]
  rcases run x s with _ | ⟨_ | a, t⟩
  · simp
  · simp
  · constructor
    · intro failed
      exact Or.inr ⟨a, t, rfl, failed⟩
    · rintro (early | ⟨_, _, first, second⟩)
      · cases early
      · cases first
        exact second

@[simp] theorem run_fail (e : ε) (s : S) : run (fail e : Act S ε α) s = some (.error e, s) :=
  rfl

@[simp] theorem run_outlasted (s : S) : run (outlasted : Act S ε α) s = none :=
  rfl

@[simp] theorem run_read (s : S) : run (read : Act S ε S) s = some (.ok s, s) :=
  rfl

@[simp] theorem run_change (f : S → S) (s : S) :
    run (change f : Act S ε Unit) s = some (.ok (), f s) :=
  rfl

@[simp] theorem run_ofExcept (result : Except ε α) (s : S) :
    run (ofExcept result : Act S ε α) s = some (result, s) :=
  rfl

theorem run_outcome (x : Act S ε α) (s : S) :
    run (outcome x : Act S δ (Except ε α)) s =
      (run x s).map fun (result, s) => (.ok result, s) :=
  rfl

theorem run_onFault (x : Act S ε α) (f : S → S) (s : S) :
    run (onFault x f) s =
      match run x s with
      | none => none
      | some (.error e, s) => some (.error e, f s)
      | some (.ok a, s) => some (.ok a, s) :=
  rfl

theorem run_within (part : T → S) (replace : S → T → T) (x : Act S ε α) (t : T) :
    run (within part replace x) t =
      (run x (part t)).map fun (result, s) => (result, replace s t) :=
  rfl

theorem bind_pure_self (x : Act S ε α) : Act.bind x Act.pure = x := by
  funext s
  unfold Act.bind
  rcases x s with _ | ⟨_ | _, _⟩ <;> rfl

theorem bind_assoc_self {γ : Type} (x : Act S ε α) (f : α → Act S ε β) (g : β → Act S ε γ) :
    Act.bind (Act.bind x f) g = Act.bind x fun a => Act.bind (f a) g := by
  funext s
  simp only [Act.bind]
  rcases x s with _ | ⟨_ | _, _⟩ <;> rfl

instance : LawfulMonad (Act S ε) :=
  LawfulMonad.mk' _ (fun x => bind_pure_self x) (fun _ _ => rfl)
    (fun x f g => bind_assoc_self x f g)

end Act

end LogReplay
