import Timings.Proofs.Statistics

/-!
What the clamp of a variance hides.

A variance that is not above zero counts as zero. It may be below zero, which is rounding. But
it may also be no number: this happens exactly if the sum of the squares and the square of the
mean overflow both, and then a standard deviation of zero is shown for values however far
apart (`RunningState.far_values_have_no_deviation`). Squares of values up to `1e145` in size
cannot do it, however many there are: a sum that comes near the end of the doubles does not
grow by them any more (`RunningState.clamp_hides_overflow`).
-/

namespace Timings

namespace Double

open Float.Model (Format UnpackedFloat)
open Pattern (Canonical infinity nearest toFloat units)

/-! ## Doubles by their size -/

theorem abs_toFloat (negative : Bool) {b : Nat} (finite : b < infinity) :
    (toFloat negative b).abs = toFloat false b := by
  change Float.ofModel (Float.Model.pack (toFloat negative b).toModel.unpack.abs) = _
  rcases unpack_toFloat negative finite with ⟨rfl, zero⟩ | ⟨m, e, pos, unpacked, canonical, whole⟩
  · rw [zero]
    exact ofModel_pack_zero .positive
  · have packed := ofModel_pack_finite .positive canonical pos
    rw [← whole, Nat.min_eq_left (Nat.le_of_lt finite)] at packed
    rw [unpacked]
    exact packed

/-- Larger doubles have larger patterns. -/
theorem le_of_toFloat_le {b c : Nat} (finite : b < infinity) (finite' : c < infinity)
    (le : toFloat false b ≤ toFloat false c) : b ≤ c := by
  obtain ⟨start, stop, here, there, order⟩ := le_iff_rank.1 le
  have here : place (toFloat false b).toModel.unpack = some start := here
  have there : place (toFloat false c).toModel.unpack = some stop := there
  rcases unpack_toFloat false finite with ⟨rfl, -⟩ | ⟨m, e, pos, unpacked, canonical, rfl⟩
  · exact Nat.zero_le c
  rw [unpacked] at here
  rcases unpack_toFloat false finite' with ⟨rfl, zero⟩ | ⟨m', e', pos', unpacked', canonical', rfl⟩
  · rw [zero] at there
    cases here
    cases there
    rw [Prod.Lex.toLex_le_toLex] at order
    omega
  · rw [unpacked'] at there
    obtain ⟨bits, -⟩ := canonical
    obtain ⟨-, normal⟩ := canonical'
    cases here
    cases there
    rw [Prod.Lex.toLex_le_toLex, Prod.Lex.toLex_le_toLex] at order
    omega

/-! ## Above zero, or not -/

theorem less_zero_iff {x : Float} : Scalar.less (Scalar.ofNat 0) x = true ↔ 0 < x :=
  decide_eq_true_iff

theorem sqrt_zero : Scalar.sqrt (Scalar.ofNat 0 : Float) = 0 := by decide +kernel

theorem pos_or_le_zero_or_isNaN (x : Float) : 0 < x ∨ x ≤ 0 ∨ x.isNaN = true := by
  cases here : Ranked.rank x with
  | none =>
      refine .inr (.inr ?_)
      change Scalar.isNaN x = true
      rw [Ranked.isNaN_eq, here]
      rfl
  | some a =>
      rcases lt_or_ge (toLex (0, toLex (0, 0))) a with above | below
      · exact .inl (less_zero_iff.1 ((Ranked.less_iff_lt rank_zero here).2 above))
      · exact .inr (.inl (le_iff_rank.2 ⟨a, _, here, rank_zero, below⟩))

theorem not_pos_of_le_zero_or_isNaN {x : Float} (other : x ≤ 0 ∨ x.isNaN = true) : ¬0 < x := by
  intro above
  have above := less_zero_iff.2 above
  rcases other with below | none
  · obtain ⟨a, zero, here, there, order⟩ := le_iff_rank.1 below
    rw [show Ranked.rank (0 : Float) = _ from rank_zero] at there
    cases there
    exact absurd ((Ranked.less_iff_lt rank_zero here).1 above) (not_lt.2 order)
  · rw [(Unsigned.of_pos above).isNaN] at none
    cases none

/-! ## Squares that are lost in a sum -/

/-- The pattern of `1e145`. -/
def moderate : Nat := Pattern.ofFloat 1e145

theorem toFloat_moderate : (1e145 : Float) = toFloat false moderate := by decide +kernel

/-- The pattern of `2 ^ 969`, a quarter of `2 ^ 971`, the last step between two doubles. -/
def quarter : Nat := 1992 * 2 ^ 52

/-- The square of a double up to `1e145` in size is at most `2 ^ 969`. -/
theorem nearest_square_le {b : Nat} (size : b ≤ moderate) :
    nearest (units b * units b) stepsOfOne ≤ quarter := by
  apply Pattern.nearest_le stepsOfOne_pos
  have steps := Pattern.units_le_iff.2 size
  calc units b * units b ≤ units moderate * units moderate := Nat.mul_le_mul steps steps
    _ ≤ units quarter * stepsOfOne := by decide +kernel

/-- A finite sum does not overflow by less than half the last step of the doubles. -/
theorem nearest_sum_lt_infinity {b c : Nat} (finite : b < infinity) (small : c ≤ quarter) :
    nearest (units b + units c) 1 < infinity := by
  have last : infinity - 1 + 1 = infinity := by decide
  have step : 2 * units quarter + units (infinity - 1) < units infinity := by decide +kernel
  have sum := Pattern.units_le_iff.2 (Nat.le_sub_one_of_lt finite)
  have square := Pattern.units_le_iff.2 small
  have rounded := @Pattern.nearest_le_of_lt_middle (units b + units c) 1 (infinity - 1) Nat.one_pos
    (by rw [last]; omega)
  omega

end Double

/-! ## Variances -/

namespace RunningState

open Double (Unsigned)
open Pattern (infinity)

/-- The sum of the squares is finite, and without a minus. -/
def SquaresFinite (s : RunningState Float) : Prop :=
  ∃ b < infinity, s.sumSquares = Pattern.toFloat false b

/-- Squares of moderate values are lost in a sum before it overflows. -/
theorem SquaresFinite.observe {s : RunningState Float} {x : Float} (known : s.SquaresFinite)
    (finite : x.isFinite = true) (size : x.abs ≤ 1e145) : (s.observe x).SquaresFinite := by
  obtain ⟨b, bounded, sum⟩ := known
  obtain ⟨negative, c, within, rfl⟩ := Double.exists_toFloat_of_isFinite finite
  rw [Double.abs_toFloat negative within, Double.toFloat_moderate] at size
  have moderate := Double.le_of_toFloat_le within (by decide +kernel) size
  have square := Double.nearest_square_le moderate
  refine ⟨_, Double.nearest_sum_lt_infinity bounded square, ?_⟩
  change s.sumSquares + _ * _ = _
  rw [sum, Double.toFloat_square negative (Nat.le_of_lt within),
    Double.toFloat_add (Nat.le_of_lt bounded) (Pattern.nearest_le_infinity _ _)]

theorem SquaresFinite.foldl_observe {s : RunningState Float} {xs : List Float}
    (known : s.SquaresFinite) (finite : AllFinite xs) (size : ∀ x ∈ xs, x.abs ≤ 1e145) :
    (xs.foldl RunningState.observe s).SquaresFinite := by
  induction xs generalizing s with
  | nil => exact known
  | cons x xs ih =>
      have step := known.observe (finite x List.mem_cons_self) (size x List.mem_cons_self)
      exact ih step (fun y inside => finite y (List.mem_cons_of_mem x inside))
        fun y inside => size y (List.mem_cons_of_mem x inside)

theorem squaresFinite_ofList {xs : List Float} (finite : AllFinite xs)
    (size : ∀ x ∈ xs, x.abs ≤ 1e145) : (ofList xs).SquaresFinite := by
  have start : (empty : RunningState Float).SquaresFinite := ⟨0, by decide, by decide +kernel⟩
  exact start.foldl_observe finite size

/-- A variance is no number exactly if it is the difference of two overflows. -/
theorem isNaN_variance_iff {s : RunningState Float} (sums : s.Summable) (seen : 0 < s.count)
    (word : s.count < 2 ^ 64) :
    s.variance.isNaN = true ↔ s.sumSquares.isInf = true ∧ (s.mean * s.mean).isInf = true := by
  obtain ⟨b, within, squares⟩ := sums.sumSquares
  obtain ⟨c, within', square⟩ := Unsigned.square (Double.isNaN_div_count sums.sum seen word)
  have square : s.mean * s.mean = Pattern.toFloat false c := square
  obtain ⟨q, less, quotient, kept⟩ := Double.exists_quotient_count false within seen word
  have difference : s.variance = Pattern.toFloat false q - Pattern.toFloat false c := by
    rw [variance, populationVariance, squares, quotient, square]
  rw [difference, square, squares, Double.isNaN_sub_iff (Nat.le_trans less within) within',
    Double.isInf_toFloat_iff false within, Double.isInf_toFloat_iff false within']
  omega

/-- **What the clamp hides.** The standard deviation of a summary is the root of the variance
if this is above zero, and else zero: the variance may be below zero, and it may be no number.
The latter happens exactly if the squares overflow in their sum and in the square of the mean,
and it does not happen to values up to `1e145` in size, however many there are. -/
theorem clamp_hides_overflow {xs : List Float} (nonempty : xs ≠ []) (finite : AllFinite xs)
    (word : xs.length < 2 ^ 64) :
    let s := ofList xs
    (∃ t, s.summarize = some t ∧ (0 < s.variance → t.stddev = s.variance.sqrt) ∧
      (s.variance ≤ 0 ∨ s.variance.isNaN = true → t.stddev = 0)) ∧
    (0 < s.variance ∨ s.variance ≤ 0 ∨ s.variance.isNaN = true) ∧
    (s.variance.isNaN = true ↔ s.sumSquares.isInf = true ∧ (s.mean * s.mean).isInf = true) ∧
    ((∀ x ∈ xs, x.abs ≤ 1e145) → s.variance.isNaN = false) := by
  intro s
  have known := represents_ofList nonempty finite
  have overflow := isNaN_variance_iff (summable_ofList finite) known.count_pos
    (known.count ▸ word)
  refine ⟨⟨_, summarize_eq_some known.count_pos, ?_, ?_⟩, Double.pos_or_le_zero_or_isNaN _,
    overflow, ?_⟩
  · intro above
    rw [Scalar.atLeastZero, if_pos (Double.less_zero_iff.2 above)]
    rfl
  · intro other
    have below := Double.not_pos_of_le_zero_or_isNaN other
    rw [Scalar.atLeastZero, if_neg (mt Double.less_zero_iff.1 below)]
    exact Double.sqrt_zero
  · intro size
    obtain ⟨b, bounded, sum⟩ := squaresFinite_ofList finite size
    rw [← Bool.not_eq_true]
    intro none
    have infinite := (overflow.1 none).1
    rw [sum, Double.isInf_toFloat false bounded] at infinite
    cases infinite

/-- The largest values of moderate size, of both signs. -/
theorem moderate_values_have_deviation :
    [1e145, -1e145, 0] ≠ ([] : List Float) ∧ AllFinite [1e145, -1e145, 0] ∧
      [1e145, -1e145, (0 : Float)].length < 2 ^ 64 ∧
      (∀ x ∈ [1e145, -1e145, (0 : Float)], x.abs ≤ 1e145) ∧
      (ofList [1e145, -1e145, 0] : RunningState Float).variance.isNaN = false := by
  have nonempty : [1e145, -1e145, 0] ≠ ([] : List Float) := List.cons_ne_nil _ _
  have finite : AllFinite [1e145, -1e145, 0] := by decide +kernel
  have word : [1e145, -1e145, (0 : Float)].length < 2 ^ 64 := by decide
  have size : ∀ x ∈ [1e145, -1e145, (0 : Float)], x.abs ≤ 1e145 := by decide +kernel
  exact ⟨nonempty, finite, word, size, (clamp_hides_overflow nonempty finite word).2.2.2 size⟩

/-- Two values, one three times the other, are reported without any deviation. -/
theorem far_values_have_no_deviation :
    AllFinite [1e200, 3e200] ∧
      (ofList [1e200, 3e200] : RunningState Float).variance.isNaN = true ∧
      (ofList [1e200, 3e200] : RunningState Float).summarize =
        some ⟨2, 2e200, 0, 1e200, 3e200⟩ := by
  refine ⟨by decide +kernel, by decide +kernel, by decide +kernel⟩

end RunningState

end Timings
