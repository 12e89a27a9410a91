/-
Module: LogReplay.Proofs.Act.Agreement
Purpose: Two acts that end alike, construction by construction.
Main exports:
  Act.Agree, Act.Agree.bind
-/
import LogReplay.Act

/-!
`Agree related same x s y t` says that the act `x` begun in `s` and the act `y` begun in
`t` both end, with errors that are equal or with values that are the `same`, and in
states that are `related`.  The states may be of different types, and so may the values.

Two acts that are built alike agree if their parts do.
-/

namespace LogReplay.Act

variable {S T ε α β γ δ : Type}

/-- The two acts end alike. -/
inductive Agree (related : S → T → Prop) (same : α → β → Prop) (x : Act S ε α) (s : S)
    (y : Act T ε β) (t : T) : Prop where
  | ok {a : α} {b : β} {s' : S} {t' : T} (left : x.run s = some (.ok a, s'))
      (right : y.run t = some (.ok b, t')) (value : same a b) (state : related s' t')
  | error {e : ε} {s' : S} {t' : T} (left : x.run s = some (.error e, s'))
      (right : y.run t = some (.error e, t')) (state : related s' t')

namespace Agree

variable {related : S → T → Prop} {same : α → β → Prop} {s : S} {t : T}

theorem pure {a : α} {b : β} (value : same a b) (state : related s t) :
    Agree related same (pure a : Act S ε α) s (pure b : Act T ε β) t :=
  .ok rfl rfl value state

theorem fail (e : ε) (state : related s t) :
    Agree related same (fail e : Act S ε α) s (fail e : Act T ε β) t :=
  .error rfl rfl state

theorem ofExcept (result : Except ε α) (state : related s t) :
    Agree related Eq (ofExcept result : Act S ε α) s (ofExcept result : Act T ε α) t := by
  cases result with
  | ok a => exact .ok rfl rfl rfl state
  | error e => exact .error rfl rfl state

theorem read (state : related s t) :
    Agree related related (read : Act S ε S) s (read : Act T ε T) t :=
  .ok rfl rfl state state

theorem change {f : S → S} {g : T → T} (state : related (f s) (g t)) :
    Agree related Eq (change f : Act S ε Unit) s (change g : Act T ε Unit) t :=
  .ok rfl rfl rfl state

theorem bind {same' : γ → δ → Prop} {x : Act S ε α} {y : Act T ε β} {f : α → Act S ε γ}
    {g : β → Act T ε δ} (first : Agree related same x s y t)
    (second : ∀ a b s' t', same a b → related s' t' →
      Agree related same' (f a) s' (g b) t') :
    Agree related same' (x >>= f) s (y >>= g) t := by
  cases first with
  | ok left right value state =>
      cases second _ _ _ _ value state with
      | ok left' right' value' state' =>
          exact .ok ((run_bind_ok left f).trans left') ((run_bind_ok right g).trans right')
            value' state'
      | error left' right' state' =>
          exact .error ((run_bind_ok left f).trans left') ((run_bind_ok right g).trans right')
            state'
  | error left right state =>
      exact .error (run_bind_error left f) (run_bind_error right g) state

/-- The second act does not use the values of the first one. -/
theorem followedBy {same' : γ → δ → Prop} {x : Act S ε α} {y : Act T ε β} {f : Act S ε γ}
    {g : Act T ε δ} (first : Agree related same x s y t)
    (second : ∀ s' t', related s' t' → Agree related same' f s' g t') :
    Agree related same' (x >>= fun _ => f) s (y >>= fun _ => g) t := by
  apply first.bind
  intro _ _ s' t' _ state
  exact second s' t' state

/-- The second act begins from the same value on both sides. -/
theorem bindSame {same' : γ → δ → Prop} {x : Act S ε α} {y : Act T ε α} {f : α → Act S ε γ}
    {g : α → Act T ε δ} (first : Agree related Eq x s y t)
    (second : ∀ a s' t', related s' t' → Agree related same' (f a) s' (g a) t') :
    Agree related same' (x >>= f) s (y >>= g) t := by
  apply first.bind
  rintro a _ s' t' rfl state
  exact second a s' t' state

/-- A change after an error keeps what was related before it. -/
theorem onFault {x : Act S ε α} {y : Act T ε β} {f : S → S} {g : T → T}
    (agree : Agree related same x s y t)
    (changed : ∀ s' t', related s' t' → related (f s') (g t')) :
    Agree related same (onFault x f) s (onFault y g) t := by
  cases agree with
  | ok left right value state =>
      exact .ok (by rw [run_onFault, left]) (by rw [run_onFault, right]) value state
  | error left right state =>
      exact .error (by rw [run_onFault, left]) (by rw [run_onFault, right])
        (changed _ _ state)

end Agree

end LogReplay.Act
