import Timings.Proofs.Closest
import Timings.Proofs.Sizes

/-!
# The middle of two numbers

Half a sum of doubles is rounded twice, for the sum and for the half. But as long as the sum is
finite, the half is what the exact middle is rounded to (`Double.isMiddle_half_sum`): half of a
short sum is not rounded before, and a long one loses its last bits only once
(`Pattern.nearest_half`). When the sum overflows, its half is infinite, although the middle of
finite numbers is not (`Double.half_sum_of_overflow`).
-/

namespace Timings.Double

open Pattern (infinity nearest nearest_half toFloat units units_inj)

variable {x y : Float} {b : Nat}

/-! ## Halves -/

/-- The pattern of the number two. -/
def two : Nat := 1024 * 2 ^ 52

theorem two_eq : (2 : Float) = toFloat false two := by decide +kernel

theorem units_two : units two = 2 * stepsOfOne := by decide +kernel

theorem isFinite_iff_lt_infinity (negative : Bool) (within : b ≤ infinity) :
    (toFloat negative b).isFinite = true ↔ b < infinity := by
  rw [isFinite_iff_size (isNaN_toFloat negative within), size_toFloat negative within,
    Pattern.units_lt_iff]

/-- The half of a finite number is rounded once. -/
theorem toFloat_div_two (negative : Bool) (finite : b < infinity) :
    toFloat negative b / 2 = toFloat negative (nearest (units b) 2) := by
  have quotient := toFloat_div negative false finite (by decide : two < infinity) (by decide)
  rw [two_eq, quotient, Bool.xor_false, units_two,
    Pattern.nearest_mul_mul_right _ _ stepsOfOne_pos]

theorem nearest_half_lt_infinity (finite : b < infinity) : nearest (units b) 2 < infinity :=
  Nat.lt_of_le_of_lt (Pattern.nearest_le Nat.two_pos (by omega)) finite

/-! ## Middles -/

/-- A finite double is closest to the middle of two others: no double differs less from it, and
of two that differ as much this is the even one. Distances are doubled, so that the middle is
the sum. -/
structure IsMiddle (x y m : Float) : Prop where
  finite : m.isFinite = true
  closest : ∀ z : Float, z.isFinite = true →
    (2 * worth m - (worth x + worth y)).natAbs ≤ (2 * worth z - (worth x + worth y)).natAbs
  even : ∀ z : Float, z.isFinite = true → worth z ≠ worth m →
    (2 * worth m - (worth x + worth y)).natAbs = (2 * worth z - (worth x + worth y)).natAbs →
    Pattern.ofFloat m % 2 = 0

/-- The pattern closest to half of a sum, with the sign of the sum, is closest to the middle. -/
theorem isMiddle_of_isClosest {negative : Bool} {sum : Int} (total : worth x + worth y = sum)
    (finite : b < infinity) (closest : Pattern.IsClosest sum.natAbs 2 b)
    (signed : steps negative b = if sum < 0 then -(units b : Int) else units b) :
    IsMiddle x y (toFloat negative b) := by
  have worth_eq := (worth_toFloat negative finite.le).trans signed
  -- a double with the other sign is not closer than zero
  have zero := closest.closest 0 (Nat.zero_le _)
  unfold Pattern.distance at zero
  rw [units_zero] at zero
  refine ⟨isFinite_toFloat negative finite, ?_, ?_⟩
  · intro z known
    obtain ⟨negative', c, below, rfl⟩ := exists_toFloat_of_isFinite known
    have nearer := closest.closest c below.le
    unfold Pattern.distance at nearer
    rw [total, worth_eq, worth_toFloat negative' below.le]
    cases negative' <;> simp only [steps_true, steps_false] <;> split <;> omega
  · intro z known other same
    obtain ⟨negative', c, below, rfl⟩ := exists_toFloat_of_isFinite known
    have pattern : Pattern.ofFloat (toFloat negative b) = b :=
      units_inj.1 (size_toFloat negative finite.le)
    rw [worth_toFloat negative' below.le] at other same
    rw [worth_eq] at other same
    rw [total] at same
    have apart : units c ≠ units b ∧
        Pattern.distance sum.natAbs 2 b = Pattern.distance sum.natAbs 2 c := by
      unfold Pattern.distance
      revert other same
      cases negative' <;> simp only [steps_true, steps_false] <;> split <;> omega
    rw [pattern]
    exact closest.even c below.le (mt (congrArg units) apart.1) apart.2

/-- A sum of finite numbers: its sign, and the pattern that it is rounded to. -/
theorem exists_sum (finite : x.isFinite = true) (finite' : y.isFinite = true) :
    ∃ negative, x + y = toFloat negative (nearest (worth x + worth y).natAbs 1) ∧
      (worth x + worth y ≠ 0 → negative = decide (worth x + worth y < 0)) := by
  obtain ⟨negative, b, below, rfl⟩ := exists_toFloat_of_isFinite finite
  obtain ⟨negative', c, below', rfl⟩ := exists_toFloat_of_isFinite finite'
  rw [worth_toFloat negative below.le, worth_toFloat negative' below'.le]
  exact ⟨_, toFloat_add_signed negative negative' below below', fun nonzero => if_neg nonzero⟩

/-- **Middles.** Half of a sum that is finite is the double closest to the middle. -/
theorem isMiddle_half_sum (finite : x.isFinite = true) (finite' : y.isFinite = true)
    (known : (x + y).isFinite = true) : IsMiddle x y ((x + y) / 2) := by
  obtain ⟨negative, sum, side⟩ := exists_sum finite finite'
  have below : nearest (worth x + worth y).natAbs 1 < infinity := by
    rw [sum, isFinite_iff_lt_infinity negative (Pattern.nearest_le_infinity _ _)] at known
    exact known
  rw [sum, toFloat_div_two negative below]
  refine isMiddle_of_isClosest rfl (nearest_half_lt_infinity below) ?_ ?_
  · rw [Pattern.isClosest_iff Nat.two_pos, nearest_half below]
  · rw [nearest_half below]
    by_cases zero : worth x + worth y = 0
    · rw [zero, Int.natAbs_zero, nearest_zero Nat.two_pos, units_zero,
        steps_eq_zero_iff.2 rfl]
      rfl
    · rw [side zero, steps]
      simp only [decide_eq_true_eq]

/-- Half of a sum of finite numbers that overflows is infinite. -/
theorem half_sum_of_overflow (finite : x.isFinite = true) (finite' : y.isFinite = true)
    (overflow : (x + y).isFinite = false) :
    ∃ negative, (x + y) / 2 = toFloat negative infinity := by
  obtain ⟨negative, sum, -⟩ := exists_sum finite finite'
  have within := Pattern.nearest_le_infinity (worth x + worth y).natAbs 1
  have full : nearest (worth x + worth y).natAbs 1 = infinity := by
    by_contra other
    have below := (isFinite_iff_lt_infinity negative within).2 (Nat.lt_of_le_of_ne within other)
    rw [sum, below] at overflow
    cases overflow
  refine ⟨negative, ?_⟩
  rw [sum, full]
  cases negative <;> decide +kernel

end Timings.Double
