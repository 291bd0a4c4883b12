import Timings.Proofs.Spelling
import Timings.Proofs.Unsigned

/-!
# Correct rounding

What it is to round correctly is said here by distances: no pattern is closer to a number, and
of two that are equally close the even one is taken (`Pattern.IsClosest`). `nearest` does this
and nothing else does (`Pattern.isClosest_iff`). A text denotes the double that is closest to
its decimal (`Literal.Denotes`), and that is the one that is read (`Literal.denotes_iff`); so
every style writes texts that denote the double (`Style.denotes_writeChars`).
-/

namespace Timings

/-! ## The closest pattern -/

namespace Pattern

/-- How far `num / den` steps are from what a pattern is worth, times the denominator. -/
def distance (num den b : Nat) : Nat := ((num : Int) - (units b * den : Nat)).natAbs

/-- The pattern closest to `num / den` steps, infinity counting as the first power of two beyond
the doubles. Of two equally close patterns it is the even one. -/
structure IsClosest (num den b : Nat) : Prop where
  within : b ≤ infinity
  closest : ∀ c ≤ infinity, distance num den b ≤ distance num den c
  even : ∀ c ≤ infinity, c ≠ b → distance num den b = distance num den c → b % 2 = 0

variable {num den b c : Nat}

theorem below_eq {u : Nat} (lower : units b ≤ u) (upper : u < units (b + 1)) : below u = b := by
  have least := units_lt_iff.1 (Nat.lt_of_le_of_lt (units_below_le u) upper)
  have greatest := units_lt_iff.1 (Nat.lt_of_le_of_lt lower (lt_units_below_succ u))
  omega

/-- The middle of two patterns rounds to the even one. -/
theorem nearest_middle (finite : b < infinity) (positive : 0 < den)
    (middle : 2 * num = den * (units b + units (b + 1))) : nearest num den = b + b % 2 := by
  have order := Nat.mul_lt_mul_of_pos_left (units_lt_succ b) positive
  rw [Nat.mul_add] at middle
  have lower : units b ≤ num / den := by
    rw [Nat.le_div_iff_mul_le positive, Nat.mul_comm]
    omega
  have upper : num / den < units (b + 1) := by
    rw [Nat.div_lt_iff_lt_mul positive, Nat.mul_comm]
    omega
  unfold nearest
  dsimp only
  rw [below_eq lower upper, Nat.mul_add, if_neg (by omega), if_neg (by omega)]
  omega

/-- A number is not below the middle between its rounding and a smaller pattern. -/
theorem middle_le_of_lt_nearest (positive : 0 < den) (less : b < nearest num den) :
    units b * den + units (nearest num den) * den ≤ 2 * num := by
  obtain ⟨k, last⟩ := Nat.exists_eq_add_one_of_ne_zero (Nat.ne_zero_of_lt less)
  have middle : den * (units k + units (k + 1)) ≤ 2 * num := by
    by_contra below
    have least := nearest_le_of_lt_middle positive (Nat.not_le.1 below)
    omega
  have order : units b * den ≤ units k * den :=
    Nat.mul_le_mul_right _ (units_le_iff.2 (by omega))
  rw [Nat.mul_add, Nat.mul_comm den, Nat.mul_comm den] at middle
  rw [last]
  omega

/-- A number is not above the middle between its rounding and a larger pattern. -/
theorem le_middle_of_nearest_lt (positive : 0 < den) (finite : c ≤ infinity)
    (less : nearest num den < c) :
    2 * num ≤ units (nearest num den) * den + units c * den := by
  have middle : 2 * num ≤ den * (units (nearest num den) + units (nearest num den + 1)) := by
    by_contra above
    have greatest :=
      lt_nearest_of_middle_lt (Nat.lt_of_lt_of_le less finite) positive (Nat.not_le.1 above)
    exact Nat.lt_irrefl _ greatest
  have order : units (nearest num den + 1) * den ≤ units c * den :=
    Nat.mul_le_mul_right _ (units_le_iff.2 less)
  rw [Nat.mul_add, Nat.mul_comm den, Nat.mul_comm den] at middle
  omega

section Distance

variable (num) (positive : 0 < den) (less : b < c)

include positive less

theorem worth_lt : units b * den < units c * den :=
  Nat.mul_lt_mul_of_pos_right (units_lt_iff.2 less) positive

/-- Of two patterns the smaller is the closer one up to the middle. -/
theorem distance_le_iff :
    distance num den b ≤ distance num den c ↔ 2 * num ≤ units b * den + units c * den := by
  have order := worth_lt positive less
  unfold distance
  omega

/-- Only the middle is as far from one as from the other. -/
theorem distance_eq_iff :
    distance num den b = distance num den c ↔ 2 * num = units b * den + units c * den := by
  have order := worth_lt positive less
  unfold distance
  omega

end Distance

theorem nearest_isClosest (positive : 0 < den) : IsClosest num den (nearest num den) where
  within := nearest_le_infinity num den
  closest c finite := by
    rcases Nat.lt_trichotomy c (nearest num den) with less | rfl | greater
    · have middle := middle_le_of_lt_nearest positive less
      have order := worth_lt positive less
      unfold distance
      omega
    · exact Nat.le_refl _
    · exact (distance_le_iff num positive greater).2 (le_middle_of_nearest_lt positive finite greater)
  even c finite other same := by
    rcases Nat.lt_or_gt_of_ne other with less | greater
    · -- the middle is between neighbours, so the other one is odd
      have middle := (distance_eq_iff num positive less).1 same.symm
      have next : c + 1 = nearest num den := by
        by_contra apart
        have inner : c + 1 < nearest num den := by omega
        have bound := middle_le_of_lt_nearest positive inner
        have order := worth_lt positive (Nat.lt_add_one c)
        omega
      have below : c < infinity := Nat.lt_of_lt_of_le less (nearest_le_infinity num den)
      have rounded : nearest num den = c + c % 2 :=
        nearest_middle below positive (by
          rw [next, Nat.mul_add, Nat.mul_comm den, Nat.mul_comm den, middle])
      omega
    · have middle := (distance_eq_iff num positive greater).1 same
      have next : c = nearest num den + 1 := by
        by_contra apart
        have inner : nearest num den + 1 < c := by omega
        have bound := @le_middle_of_nearest_lt num den (nearest num den + 1) positive (by omega)
          (Nat.lt_add_one _)
        have order := worth_lt positive inner
        omega
      have rounded : nearest num den = nearest num den + nearest num den % 2 :=
        nearest_middle (by omega) positive (by
          rw [← next, Nat.mul_add, Nat.mul_comm den, Nat.mul_comm den, middle])
      omega

theorem IsClosest.not_lt (positive : 0 < den) (first : IsClosest num den b)
    (second : IsClosest num den c) : ¬b < c := by
  intro less
  have same := Nat.le_antisymm (first.closest c second.within) (second.closest b first.within)
  have middle := (distance_eq_iff num positive less).1 same
  by_cases next : c = b + 1
  · have even := first.even c second.within (by omega) same
    have even' := second.even b first.within (by omega) same.symm
    omega
  · -- a pattern between both would be closer
    have inner : b + 1 < c := by omega
    have finite : b + 1 ≤ infinity := Nat.le_of_lt (Nat.lt_of_lt_of_le inner second.within)
    have bound :=
      (distance_le_iff num positive (Nat.lt_add_one b)).1 (first.closest (b + 1) finite)
    have order := worth_lt positive inner
    omega

/-- Rounding gives the closest pattern, and there is no other one. -/
theorem isClosest_iff (positive : 0 < den) : IsClosest num den b ↔ nearest num den = b := by
  constructor
  · intro closest
    have rounded := @nearest_isClosest num den positive
    have notLess := rounded.not_lt positive closest
    have notGreater := closest.not_lt positive rounded
    omega
  · rintro rfl
    exact nearest_isClosest positive

end Pattern

/-! ## Decimals and the doubles that they denote -/

theorem Decimal.steps_pos (d : Decimal) : 0 < d.steps.2 := by
  rw [steps_eq]
  exact Nat.pow_pos (by decide)

namespace Literal

theorem toFloat_finite (negative : Bool) (d : Decimal) :
    (finite negative d).toFloat =
      Pattern.toFloat negative (Pattern.nearest d.steps.1 d.steps.2) := by
  rw [toFloat, Decimal.toFloat, Decimal.pattern_eq]

/-- A literal is a finite double if it is a decimal that does not round to infinity. -/
theorem isFinite_toFloat_iff {literal : Literal} :
    literal.toFloat.isFinite = true ↔ ∃ negative d, literal = finite negative d ∧
      Pattern.nearest d.steps.1 d.steps.2 < Pattern.infinity := by
  cases literal with
  | finite negative d =>
      rw [toFloat_finite]
      rcases Nat.lt_or_eq_of_le (Pattern.nearest_le_infinity d.steps.1 d.steps.2) with
        within | beyond
      · exact iff_of_true (Double.isFinite_toFloat negative within) ⟨negative, d, rfl, within⟩
      · refine iff_of_false ?_ ?_
        · rw [beyond, Double.not_isFinite_iff, Double.isInf_toFloat_iff negative (Nat.le_refl _)]
          exact .inr rfl
        · intro ⟨_, _, same, within⟩
          cases same
          exact Nat.ne_of_lt within beyond
  | infinite negative =>
      refine iff_of_false ?_ fun ⟨_, _, same, _⟩ => nomatch same
      rw [Double.not_isFinite_iff]
      exact .inr ((Double.isInf_toFloat_iff negative (Nat.le_refl _)).2 rfl)
  | notANumber => exact iff_of_false (by decide +kernel) fun ⟨_, _, same, _⟩ => nomatch same

/-- A text is a decimal that denotes a double: the closest one, with the sign of the decimal. -/
inductive Denotes : List Char → Float → Prop
  | mk {text : List Char} {negative : Bool} {d : Decimal} {b : Nat}
      (spelled : Spells text (.finite negative d))
      (closest : Pattern.IsClosest d.steps.1 d.steps.2 b) :
    Denotes text (Pattern.toFloat negative b)

/-- What a decimal denotes is what it is read as. -/
theorem denotes_iff {text : List Char} {x : Float} :
    Denotes text x ↔
      ∃ negative d, parse? text = some (finite negative d) ∧ (finite negative d).toFloat = x := by
  constructor
  · intro denotes
    cases denotes with
    | @mk negative d _ spelled closest =>
        refine ⟨negative, d, parse?_eq_some_iff.2 spelled, ?_⟩
        rw [toFloat_finite, (Pattern.isClosest_iff d.steps_pos).1 closest]
  · rintro ⟨negative, d, read, rfl⟩
    rw [toFloat_finite]
    exact .mk (parse?_eq_some_iff.1 read) (Pattern.nearest_isClosest d.steps_pos)

theorem Denotes.read {text : List Char} {x : Float} (denotes : Denotes text x) :
    (parse? text).map toFloat = some x := by
  obtain ⟨negative, d, read, rfl⟩ := denotes_iff.1 denotes
  rw [read, Option.map_some]

/-- A text denotes one double only. -/
theorem Denotes.unique {text : List Char} {x y : Float} (denotes : Denotes text x)
    (denotes' : Denotes text y) : x = y :=
  Option.some.inj (denotes.read.symm.trans denotes'.read)

/-- What is read as a finite double denotes it. -/
theorem denotes_of_read {text : List Char} {x : Float} (read : (parse? text).map toFloat = some x)
    (finite : x.isFinite = true) : Denotes text x := by
  obtain ⟨literal, spelled, rfl⟩ := Option.map_eq_some_iff.1 read
  obtain ⟨negative, d, rfl, -⟩ := isFinite_toFloat_iff.1 finite
  exact denotes_iff.2 ⟨negative, d, spelled, rfl⟩

end Literal

/-- In every style, what is written for a finite double denotes it. -/
theorem Style.denotes_writeChars (style : Style) {x : Float} (finite : x.isFinite = true) :
    Literal.Denotes (style.writeChars x) x :=
  Literal.denotes_of_read (style.parse?_writeChars finite) finite

end Timings
