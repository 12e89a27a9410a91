/-
Module: LogReplay.Proofs.Act.Halts
Purpose: When an act comes to an end within its patience.
Main exports:
  Act.Halts, Act.halts_bind, Act.Approximates, Act.Approximates.bind
-/
import LogReplay.Proofs.Act.Ends

/-!
`x.Ends s post` says nothing of an act that outlasts its patience.  `x.Halts s` says that
there is an ending, and together they say that the act ends in `post`.

An act after another halts if the first one does and the second one does from wherever the
first one leads.  Where that is, is known from what the first one ends in.

With more patience an act may come to an end that it did not reach before.  Where it did
reach an end, it reaches the same one: the act with less patience approximates the other.
-/

namespace LogReplay.Act

variable {S ε δ α β : Type} {s : S}

/-- The act has an ending. -/
def Halts (x : Act S ε α) (s : S) : Prop :=
  ∃ result t, x.run s = some (result, t)

@[simp] theorem halts_pure (a : α) : (pure a : Act S ε α).Halts s :=
  ⟨.ok a, s, rfl⟩

@[simp] theorem halts_fail (e : ε) : (fail e : Act S ε α).Halts s :=
  ⟨.error e, s, rfl⟩

theorem halts_outcome {x : Act S ε α} :
    (outcome x : Act S δ (Except ε α)).Halts s ↔ x.Halts s := by
  constructor
  · rintro ⟨result, t, ended⟩
    rw [run_outcome, Option.map_eq_some_iff] at ended
    obtain ⟨⟨inner, u⟩, first, _⟩ := ended
    exact ⟨inner, u, first⟩
  · rintro ⟨result, t, ended⟩
    exact ⟨.ok result, t, by rw [run_outcome, ended]; rfl⟩

/-- After an act that is known to end well only the next one matters. -/
theorem halts_bind_of_run {x : Act S ε α} {f : α → Act S ε β} {a : α} {t : S}
    (ended : x.run s = some (.ok a, t)) : (x >>= f).Halts s ↔ (f a).Halts t := by
  rw [Halts, run_bind_ok ended, Halts]

/-- One act after another halts if the first does, and the second from wherever the first
ends well. -/
theorem halts_bind {x : Act S ε α} {f : α → Act S ε β} :
    (x >>= f).Halts s ↔
      x.Halts s ∧ x.Ends s fun result t =>
        match result with
        | .ok a => (f a).Halts t
        | .error _ => True := by
  constructor
  · rintro ⟨last, u, ended⟩
    have first : x.Halts s := by
      cases begun : x.run s with
      | none => exact absurd (run_bind_none begun f) (by rw [ended]; exact Option.some_ne_none _)
      | some ending => exact ⟨ending.1, ending.2, begun⟩
    refine ⟨first, ?_⟩
    rintro (e | a) t begun
    · trivial
    · exact ⟨last, u, (run_bind_ok begun f).symm.trans ended⟩
  · rintro ⟨⟨result, t, first⟩, later⟩
    cases result with
    | error e => exact ⟨.error e, t, run_bind_error first f⟩
    | ok a =>
        obtain ⟨last, u, second⟩ := later (.ok a) t first
        exact ⟨last, u, (run_bind_ok first f).trans second⟩

/-! ## More patience -/

/-- Wherever the first act has an ending, the second has the same one. -/
def Approximates (x y : Act S ε α) : Prop :=
  ∀ s ending, x.run s = some ending → y.run s = some ending

theorem Approximates.refl (x : Act S ε α) : x.Approximates x :=
  fun _ _ ended => ended

theorem approximates_of_outlasted (x : Act S ε α) : (outlasted : Act S ε α).Approximates x :=
  fun _ _ ended => absurd ended.symm (Option.some_ne_none _)

/-- Acts one after the other are approximated piece by piece. -/
theorem Approximates.bind {x y : Act S ε α} {f g : α → Act S ε β} (first : x.Approximates y)
    (later : ∀ a, (f a).Approximates (g a)) : (x >>= f).Approximates (y >>= g) := by
  rintro s ⟨last | b, u⟩ ended
  · refine run_bind_eq_error_iff.mpr ?_
    rcases run_bind_eq_error_iff.mp ended with early | ⟨a, t, begun, second⟩
    · exact .inl (first s _ early)
    · exact .inr ⟨a, t, first s _ begun, later a t _ second⟩
  · obtain ⟨a, t, begun, second⟩ := run_bind_eq_ok_iff.mp ended
    exact run_bind_eq_ok_iff.mpr ⟨a, t, first s _ begun, later a t _ second⟩

theorem Approximates.bind_same {x : Act S ε α} {f g : α → Act S ε β}
    (later : ∀ a, (f a).Approximates (g a)) : (x >>= f).Approximates (x >>= g) :=
  .bind (.refl x) later

end LogReplay.Act
