/-
Module: LogReplay.Proofs.Number.NotANumber
Purpose: Which integers, decimals and texts are read as NaN.
Main exports:
  Double.isNaN_ofMagnitude, Double.isNaN_ofInt, Double.spellsNaN,
  Double.isNaN_of_ofText?, Double.ofText?_of_spellsNaN
-/
import LogReplay.Number.Reading
import LogReplay.Proofs.Number.Whole

/-!
Rounding never leads to a NaN: what exceeds all finite doubles becomes infinite.  So no
integer and no numeral is a NaN, and the only texts that are read as one spell it out, with or
without a sign and in any letter case.
-/

namespace LogReplay.Number.Double

/-- The bits of a magnitude up to infinity are those of a number. -/
theorem isNaN_ofMagnitude (negative : Bool) {magnitude : Nat}
    (bounded : magnitude ≤ infiniteMagnitude) : (ofMagnitude negative magnitude).isNaN = false := by
  have bits := toNat_bits_ofMagnitude negative bounded
  rw [isNaN, exponentField, fraction, Bool.and_eq_false_iff, bits]
  by_cases infinite : magnitude = infiniteMagnitude
  · right
    subst infinite
    cases negative <;> decide
  · left
    rw [beq_eq_false_iff_ne]
    simp only [infiniteMagnitude] at bounded infinite
    split <;> omega

theorem isNaN_ofRatio (negative : Bool) (numerator denominator : Nat) :
    (ofRatio negative numerator denominator).isNaN = false :=
  isNaN_ofMagnitude negative (magnitudeOfRatio_le numerator denominator)

theorem isNaN_ofInt (n : Int) : (ofInt n).isNaN = false :=
  isNaN_ofRatio _ _ _

theorem isNaN_infinity (negative : Bool) : (infinity negative).isNaN = false :=
  isNaN_ofMagnitude negative (Nat.le_refl _)

theorem isNaN_ofDecimal (negative : Bool) (digits : List Char) (exponent : Int) :
    (ofDecimal negative digits exponent).isNaN = false := by
  unfold ofDecimal
  dsimp only
  split
  · exact isNaN_ofMagnitude negative (Nat.zero_le _)
  split
  · exact isNaN_infinity negative
  · exact isNaN_ofRatio _ _ _

theorem isNaN_ofNumeral? {negative : Bool} {numeral : List Char} {x : Double}
    (read : ofNumeral? negative numeral = some x) : x.isNaN = false := by
  unfold ofNumeral? at read
  dsimp only at read
  -- With a point and without one.
  split at read
  all_goals
    obtain ⟨-, decimal⟩ := Option.ite_none_left_eq_some.mp read
    obtain ⟨exponent, -, rfl⟩ := Option.map_eq_some_iff.mp decimal
    exact isNaN_ofDecimal _ _ _

/-- The text is `nan` in any letter case, with a sign or without one. -/
def spellsNaN (text : String) : Bool :=
  String.ofList ((splitSign text.toList).2.map Char.toLower) == "nan"

/-- A text that is read as a number at all is read as NaN exactly if it spells it. -/
theorem isNaN_of_ofText? {text : String} {x : Double} (read : ofText? text = some x) :
    x.isNaN = spellsNaN text := by
  unfold ofText? at read
  dsimp only at read
  rw [spellsNaN]
  generalize String.ofList ((splitSign text.toList).2.map Char.toLower) = word at read ⊢
  split at read
  · next infinite =>
    cases read
    rw [isNaN_infinity]
    rcases infinite with rfl | rfl <;> decide
  split at read
  · next spelt =>
    subst spelt
    cases read
    decide
  · next other =>
    rw [isNaN_ofNumeral? read, beq_eq_false_iff_ne.mpr other]

/-- What spells NaN is read as it. -/
theorem ofText?_of_spellsNaN {text : String} (spelt : spellsNaN text = true) :
    ofText? text = some nan := by
  unfold ofText?
  dsimp only
  rw [spellsNaN, beq_iff_eq] at spelt
  rw [spelt]
  rfl

example : spellsNaN "+NaN" = true := by decide
example : spellsNaN "nano" = false := by decide

end LogReplay.Number.Double
