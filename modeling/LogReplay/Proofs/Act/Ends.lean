/-
Module: LogReplay.Proofs.Act.Ends
Purpose: What holds of every ending of an act, construction by construction.
Main exports:
  Act.Ends, Act.ends_bind, Act.Ends.mono, Act.Preserves
-/
import LogReplay.Act

/-!
`x.Ends s post` says that however the act `x` ends when it is begun in `s`, what it
came to and the state it leaves satisfy `post`.  Errors are endings like any other,
so a statement about an act covers the state after its errors as well.  An act that
outlasts its patience has no ending, and nothing is said of it.

There is one equivalence for each construction of acts.  Rewriting with them runs
an act symbolically, up to the calls whose own endings are known from lemmas.

What every ending of an act keeps, an act put together from such acts keeps as well.
-/

namespace LogReplay.Act

variable {S T ε δ α β : Type}

/-- Every ending of the act satisfies `post`. -/
def Ends (x : Act S ε α) (s : S) (post : Except ε α → S → Prop) : Prop :=
  ∀ result t, x.run s = some (result, t) → post result t

variable {s : S} {post weaker : Except ε α → S → Prop}

theorem Ends.mono {x : Act S ε α} (ends : x.Ends s post)
    (weaken : ∀ result t, post result t → weaker result t) : x.Ends s weaker := by
  intro result t ended
  exact weaken result t (ends result t ended)

theorem ends_iff_of_run {x : Act S ε α} {result : Except ε α} {t : S}
    (ended : x.run s = some (result, t)) : x.Ends s post ↔ post result t := by
  constructor
  · intro ends
    exact ends result t ended
  · intro holds other u otherwise
    rw [ended] at otherwise
    cases otherwise
    exact holds

@[simp] theorem ends_pure (a : α) : (pure a : Act S ε α).Ends s post ↔ post (.ok a) s :=
  ends_iff_of_run rfl

@[simp] theorem ends_fail (e : ε) : (fail e : Act S ε α).Ends s post ↔ post (.error e) s :=
  ends_iff_of_run rfl

@[simp] theorem ends_outlasted : (outlasted : Act S ε α).Ends s post := by
  intro result t ended
  cases ended

@[simp] theorem ends_read {post : Except ε S → S → Prop} :
    (read : Act S ε S).Ends s post ↔ post (.ok s) s :=
  ends_iff_of_run rfl

@[simp] theorem ends_change {post : Except ε Unit → S → Prop} (f : S → S) :
    (change f : Act S ε Unit).Ends s post ↔ post (.ok ()) (f s) :=
  ends_iff_of_run rfl

@[simp] theorem ends_ofExcept (result : Except ε α) :
    (ofExcept result : Act S ε α).Ends s post ↔ post result s :=
  ends_iff_of_run rfl

/-- One act after another: the second is begun wherever the first ends well, and an
error of the first is an error of both. -/
theorem ends_bind {x : Act S ε α} {f : α → Act S ε β} {post : Except ε β → S → Prop} :
    (x >>= f).Ends s post ↔
      x.Ends s fun result t =>
        match result with
        | .ok a => (f a).Ends t post
        | .error e => post (.error e) t := by
  constructor
  · intro ends result t ended
    cases result with
    | ok a =>
        intro last u later
        exact ends last u ((run_bind_ok ended f).trans later)
    | error e => exact ends (.error e) t (run_bind_error ended f)
  · intro ends result u ended
    cases result with
    | ok b =>
        obtain ⟨a, t, first, second⟩ := run_bind_eq_ok_iff.mp ended
        exact ends (.ok a) t first (.ok b) u second
    | error e =>
        rcases run_bind_eq_error_iff.mp ended with early | ⟨a, t, first, second⟩
        · exact ends (.error e) u early
        · exact ends (.ok a) t first (.error e) u second

theorem ends_outcome {x : Act S ε α} {post : Except δ (Except ε α) → S → Prop} :
    (outcome x : Act S δ (Except ε α)).Ends s post ↔
      x.Ends s fun result t => post (.ok result) t := by
  constructor
  · intro ends result t ended
    exact ends (.ok result) t (by rw [run_outcome, ended]; rfl)
  · intro ends result t ended
    rw [run_outcome, Option.map_eq_some_iff] at ended
    rcases ended with ⟨⟨inner, u⟩, first, same⟩
    cases same
    exact ends inner t first

theorem ends_onFault {x : Act S ε α} {f : S → S} :
    (onFault x f).Ends s post ↔
      x.Ends s fun result t =>
        match result with
        | .ok a => post (.ok a) t
        | .error e => post (.error e) (f t) := by
  constructor
  · intro ends result t ended
    cases result with
    | ok a => exact ends (.ok a) t (by rw [run_onFault, ended])
    | error e => exact ends (.error e) (f t) (by rw [run_onFault, ended])
  · intro ends result t ended
    rw [run_onFault] at ended
    rcases first : x.run s with _ | ⟨_ | a, u⟩ <;> rw [first] at ended <;> cases ended
    · exact ends _ _ first
    · exact ends _ _ first

/-- An act on a part ends as it does on the part alone. -/
theorem ends_within {part : T → S} {replace : S → T → T} {x : Act S ε α} {t : T}
    {post : Except ε α → T → Prop} :
    (within part replace x).Ends t post ↔
      x.Ends (part t) fun result s => post result (replace s t) := by
  constructor
  · intro ends result s ended
    exact ends result (replace s t) (by rw [run_within, ended]; rfl)
  · intro ends result u ended
    rw [run_within, Option.map_eq_some_iff] at ended
    rcases ended with ⟨⟨inner, s⟩, first, same⟩
    cases same
    exact ends result s first

/-! ## What an act keeps -/

/-- However the act ends, what held before it holds after it. -/
def Preserves (x : Act S ε α) (holds : S → Prop) : Prop :=
  ∀ s, holds s → x.Ends s fun _ t => holds t

variable {holds : S → Prop}

theorem preserves_pure (a : α) : (pure a : Act S ε α).Preserves holds := by
  intro s held
  exact (ends_pure a).mpr held

theorem preserves_fail (e : ε) : (fail e : Act S ε α).Preserves holds := by
  intro s held
  exact (ends_fail e).mpr held

theorem Preserves.bind {x : Act S ε α} {f : α → Act S ε β} (first : x.Preserves holds)
    (later : ∀ a, (f a).Preserves holds) : (x >>= f).Preserves holds := by
  intro s held
  refine ends_bind.mpr ((first s held).mono ?_)
  rintro (e | a) t kept
  · exact kept
  · exact later a t kept

theorem Preserves.outcome {x : Act S ε α} (kept : x.Preserves holds) :
    (x.outcome : Act S δ (Except ε α)).Preserves holds := by
  intro s held
  exact ends_outcome.mpr (kept s held)

end LogReplay.Act
