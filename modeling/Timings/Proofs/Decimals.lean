import Timings.Decimal.Shortest
import Timings.Proofs.Patterns

/-!
Decimals and the patterns they round to.

A decimal with zeros behind its digits rounds to the same pattern (`pattern_scaled`), and
the shortest decimal of a pattern rounds to the pattern (`pattern_shortest`). The searches
for it may end on any grid, also on that of all digits.
-/

namespace Timings.Decimal

open Pattern (infinity units nearest)

/-! ## Steps -/

theorem steps_eq (d : Decimal) :
    d.steps = (d.digits * 10 ^ d.exponent.toNat * 2 ^ 1074, 10 ^ (-d.exponent).toNat) := by
  unfold steps
  split
  · have none : (-d.exponent).toNat = 0 := by omega
    rw [none, Nat.pow_zero]
  · have none : d.exponent.toNat = 0 := by omega
    rw [none, Nat.pow_zero, Nat.mul_one]

/-- A decimal with digits and of a moderate size rounds by its steps. -/
theorem pattern_eq_nearest {d : Decimal} (digits : d.digits ≠ 0) (low : d.exponent ≤ 400)
    (high : -400 ≤ d.exponent + d.digits.log2) :
    d.pattern = nearest d.steps.1 d.steps.2 := by
  rw [pattern, if_neg digits, if_neg (by omega), if_neg (by omega)]

theorem moderate_of_pattern {d : Decimal} (digits : d.digits ≠ 0) (small : d.pattern < infinity)
    (large : d.pattern ≠ 0) : d.exponent ≤ 400 ∧ -400 ≤ d.exponent + d.digits.log2 := by
  unfold pattern at small large
  rw [if_neg digits] at small large
  by_cases low : 400 < d.exponent
  · rw [if_pos low] at small
    exact absurd small (Nat.lt_irrefl _)
  · rw [if_neg low] at large
    by_cases high : d.exponent + d.digits.log2 < -400
    · rw [if_pos high] at large
      exact absurd rfl large
    · omega

/-- A factor of ten goes from the numerator to the digits or away from the denominator. -/
theorem nearest_tens (n unit : Nat) {k i j i' j' : Nat} (same : k + i + j' = i' + j) :
    nearest (n * 10 ^ k * 10 ^ i * unit) (10 ^ j) = nearest (n * 10 ^ i' * unit) (10 ^ j') := by
  have powers := congrArg (10 ^ ·) same
  simp only [Nat.pow_add] at powers
  refine Pattern.nearest_congr (Nat.pow_pos (by decide)) (Nat.pow_pos (by decide)) ?_
  calc n * 10 ^ k * 10 ^ i * unit * 10 ^ j'
      = n * unit * (10 ^ k * 10 ^ i * 10 ^ j') := by ac_rfl
    _ = n * unit * (10 ^ i' * 10 ^ j) := by rw [powers]
    _ = n * 10 ^ i' * unit * 10 ^ j := by ac_rfl

theorem le_log2_mul_pow_five {n : Nat} (positive : 0 < n) (k : Nat) :
    k ≤ (n * 5 ^ k).log2 := by
  have fives : 0 < 5 ^ k := Nat.pow_pos (by decide)
  rw [Nat.le_log2 (Nat.mul_ne_zero (by omega) (by omega))]
  calc 2 ^ k ≤ 5 ^ k := Nat.pow_le_pow_left (by decide) k
    _ ≤ n * 5 ^ k := Nat.le_mul_of_pos_left _ positive

theorem nearest_mul_pow_five {b : Nat} (finite : b ≤ infinity) (k : Nat) :
    nearest (units b * 5 ^ k * 10 ^ 0 * 2 ^ k) (10 ^ k) = b := by
  have tens : units b * 5 ^ k * 10 ^ 0 * 2 ^ k = units b * 10 ^ k := by
    rw [Nat.pow_zero, Nat.mul_one, Nat.mul_assoc, ← Nat.mul_pow]
  rw [tens]
  exact Pattern.nearest_units_mul finite (Nat.pow_pos (by decide))

/-- Zeros behind the digits of a decimal do not change what it rounds to. -/
theorem pattern_scaled {d : Decimal} (small : d.pattern < infinity)
    (large : d.digits ≠ 0 → d.pattern ≠ 0) (k : Nat) :
    pattern ⟨d.digits * 10 ^ k, d.exponent - k⟩ = d.pattern := by
  by_cases digits : d.digits = 0
  · rw [pattern, pattern, if_pos digits, digits, Nat.zero_mul, if_pos rfl]
  · obtain ⟨low, high⟩ := moderate_of_pattern digits small (large digits)
    have tens : 2 ^ k ≤ 10 ^ k := Nat.pow_le_pow_left (by decide) k
    have positive : 0 < 10 ^ k := Nat.pow_pos (by decide)
    have digits' : d.digits * 10 ^ k ≠ 0 := Nat.mul_ne_zero digits (by omega)
    have longer : d.digits.log2 + k ≤ (d.digits * 10 ^ k).log2 := by
      rw [Nat.le_log2 digits', Nat.pow_add]
      exact Nat.mul_le_mul (Nat.log2_self_le digits) tens
    rw [pattern_eq_nearest digits low high,
      pattern_eq_nearest digits' (by dsimp only; omega) (by dsimp only; omega), steps_eq, steps_eq]
    exact nearest_tens _ _ (by dsimp only; omega)

/-- All digits of a finite pattern read back. The number of places is kept apart from its
value, so that no power of it is computed. -/
theorem pattern_all_places {b places : Nat} (finite : b ≤ infinity) (all : places = 1074) :
    pattern ⟨units b * 5 ^ places, -places⟩ = b := by
  by_cases zero : b = 0
  · have nothing : units b * 5 ^ places = 0 := by
      rw [zero]
      exact Nat.zero_mul _
    rw [pattern, if_pos nothing, zero]
  · have positive := Pattern.units_pos zero
    have many := le_log2_mul_pow_five positive places
    have digits : units b * 5 ^ places ≠ 0 :=
      Nat.mul_ne_zero (by omega) (Nat.ne_of_gt (Nat.pow_pos (by decide)))
    rw [pattern_eq_nearest digits (by dsimp only; omega) (by dsimp only; omega), steps_eq, ← all]
    have whole : (-(places : Int)).toNat = 0 := by omega
    have behind : (- -(places : Int)).toNat = places := by omega
    rw [whole, behind]
    exact nearest_mul_pow_five finite places

theorem pattern_exactly {b : Nat} (finite : b ≤ infinity) : (exactly b).pattern = b :=
  @pattern_all_places b 1074 finite rfl

/-! ## The shortest decimal -/

theorem nearer_eq (tie : Tie) (b n : Nat) (k : Int) :
    nearer tie b n k = ⟨n, k⟩ ∨ nearer tie b n k = ⟨n + 1, k⟩ := by
  unfold nearer
  split
  · exact .inl rfl
  · exact .inr rfl
  · exact .inr rfl
  · rcases Nat.mod_two_eq_zero_or_one n with even | odd
    · rw [even]
      exact .inl rfl
    · rw [odd]
      exact .inr rfl

/-- Whatever grid the search ends on, what it gives reads back. -/
theorem pattern_shortestFrom (tie : Tie) {b : Nat} (finite : b ≤ infinity) (grids : Nat) (k : Int) :
    (shortestFrom tie b grids k).pattern = b := by
  induction grids generalizing k with
  | zero => exact pattern_exactly finite
  | succ grids ih =>
      rw [shortestFrom]
      split
      · rename_i below above
        rcases nearer_eq tie b (floorAt b k) k with same | same
        · rw [same]
          exact eq_of_beq below
        · rw [same]
          exact eq_of_beq above
      · rename_i below _
        exact eq_of_beq below
      · rename_i _ above
        exact eq_of_beq above
      · exact ih (k - 1)

theorem pattern_shortest (tie : Tie) {b : Nat} (finite : b ≤ infinity) :
    (shortest tie b).pattern = b := by
  unfold shortest
  split
  · rename_i zero
    rw [zero]
    rfl
  · exact pattern_shortestFrom tie finite _ _

end Timings.Decimal
