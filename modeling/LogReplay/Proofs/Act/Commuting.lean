/-
Module: LogReplay.Proofs.Act.Commuting
Purpose: Acts that do the same from a state that has been changed beforehand.
Main exports:
  Act.CommutesWith, Act.CommutesWith.bind, Act.CommutesWith.readThen
-/
import LogReplay.Act

/-!
`x.CommutesWith f` says that `x` does not notice the change `f`: from the changed state it
comes to the same, or does not end either, and what it leaves is the change of what it
leaves otherwise.  So two states that are changes of a third one cannot be told apart by
`x`.

An act commutes with a change if its parts do.  Where it reads the state, it has to go on
in the same way from the changed one.
-/

namespace LogReplay.Act

variable {S T ε δ α β : Type}

/-- The act does the same before and after the change. -/
def CommutesWith (x : Act S ε α) (f : S → S) : Prop :=
  ∀ s, x.run (f s) = (x.run s).map fun (result, t) => (result, f t)

namespace CommutesWith

variable {f : S → S}

theorem pure (a : α) : (pure a : Act S ε α).CommutesWith f :=
  fun _ => rfl

theorem fail (e : ε) : (fail e : Act S ε α).CommutesWith f :=
  fun _ => rfl

theorem outlasted : (outlasted : Act S ε α).CommutesWith f :=
  fun _ => rfl

theorem ofExcept (result : Except ε α) : (ofExcept result : Act S ε α).CommutesWith f :=
  fun _ => rfl

theorem change {g : S → S} (commute : ∀ s, g (f s) = f (g s)) :
    (change g : Act S ε Unit).CommutesWith f := by
  intro s
  rw [run_change, run_change, commute]
  rfl

theorem bind {x : Act S ε α} {k : α → Act S ε β} (first : x.CommutesWith f)
    (later : ∀ a, (k a).CommutesWith f) : (x >>= k).CommutesWith f := by
  intro s
  rw [run_bind, run_bind, first s]
  rcases x.run s with _ | ⟨_ | a, t⟩
  · rfl
  · rfl
  · exact later a t

/-- An act that reads the state goes on in the same way from a changed one. -/
theorem readThen {k : S → Act S ε β} (same : ∀ s, k (f s) = k s)
    (later : ∀ s, (k s).CommutesWith f) : (read >>= k).CommutesWith f := by
  intro s
  rw [run_bind_ok (run_read (f s)), run_bind_ok (run_read s), same]
  exact later s s

theorem outcome {x : Act S ε α} (commutes : x.CommutesWith f) :
    (outcome x : Act S δ (Except ε α)).CommutesWith f := by
  intro s
  rw [run_outcome, run_outcome, commutes s, Option.map_map, Option.map_map]
  rfl

theorem onFault {x : Act S ε α} {g : S → S} (commutes : x.CommutesWith f)
    (commute : ∀ s, g (f s) = f (g s)) : (onFault x g).CommutesWith f := by
  intro s
  rw [run_onFault, run_onFault, commutes s]
  rcases x.run s with _ | ⟨_ | a, t⟩
  · rfl
  · exact congrArg (fun u => some (_, u)) (commute t)
  · rfl

/-- An act on a part commutes with a change of the whole that is a change of the part. -/
theorem within {part : T → S} {replace : S → T → T} {g : T → T} {x : Act S ε α}
    (commutes : x.CommutesWith f) (part_eq : ∀ t, part (g t) = f (part t))
    (replace_eq : ∀ s t, replace (f s) (g t) = g (replace s t)) :
    (within part replace x).CommutesWith g := by
  intro t
  rw [run_within, run_within, part_eq, commutes (part t), Option.map_map, Option.map_map]
  refine Option.map_congr ?_
  rintro ⟨result, s⟩ -
  exact congrArg (Prod.mk result) (replace_eq s t)

end CommutesWith

end LogReplay.Act
