import Timings.Decimal.Pattern

/-!
Patterns and the numbers they are worth.

Larger patterns are worth more (`units_lt_succ`), and `below` is the other direction of
`units` (`below_units`). So rounding the number of a finite pattern gives the pattern again
(`nearest_units_mul`), however the number is written as a fraction (`nearest_congr`).
-/

namespace Timings.Pattern

/-! ## Steps -/

theorem units_of_lt {b : Nat} (small : b < 2 ^ 52) : units b = b := if_pos small

/-- The pattern with mantissa `m` and `e + 1` in its high bits. -/
theorem units_scaled {m : Nat} (mantissa : m < 2 ^ 52) (e : Nat) :
    units (m + (e + 1) * 2 ^ 52) = (2 ^ 52 + m) * 2 ^ e := by
  have low : (m + (e + 1) * 2 ^ 52) % 2 ^ 52 = m := by omega
  have high : (m + (e + 1) * 2 ^ 52) / 2 ^ 52 - 1 = e := by omega
  rw [units, if_neg (by omega), low, high]

/-- A pattern counts steps itself, or it has a mantissa and an exponent. -/
theorem small_or_scaled (b : Nat) :
    b < 2 ^ 52 ∨ ∃ m e, m < 2 ^ 52 ∧ b = m + (e + 1) * 2 ^ 52 := by
  by_cases small : b < 2 ^ 52
  · exact .inl small
  · exact .inr ⟨b % 2 ^ 52, b / 2 ^ 52 - 1, by omega, by omega⟩

/-- From one pattern to the next the worth grows by one step, scaled by the exponent. -/
theorem units_succ (b : Nat) : units (b + 1) = units b + 2 ^ (b / 2 ^ 52 - 1) := by
  rcases small_or_scaled b with small | ⟨m, e, mantissa, rfl⟩
  · have unscaled : b / 2 ^ 52 - 1 = 0 := by omega
    rw [units_of_lt small, unscaled]
    by_cases last : b + 1 < 2 ^ 52
    · exact units_of_lt last
    · have next : b + 1 = 0 + (0 + 1) * 2 ^ 52 := by omega
      rw [next, units_scaled (by decide)]
  · have exponent : (m + (e + 1) * 2 ^ 52) / 2 ^ 52 - 1 = e := by omega
    rw [units_scaled mantissa, exponent, ← Nat.succ_mul]
    by_cases last : m + 1 < 2 ^ 52
    · have next : m + (e + 1) * 2 ^ 52 + 1 = (m + 1) + (e + 1) * 2 ^ 52 := by omega
      rw [next, units_scaled last]
      rfl
    · have next : m + (e + 1) * 2 ^ 52 + 1 = 0 + (e + 1 + 1) * 2 ^ 52 := by omega
      have doubled : 2 ^ (e + 1) = 2 * 2 ^ e := Nat.pow_succ'
      have full : (2 ^ 52 + 0) * 2 = (2 ^ 52 + m).succ := by omega
      rw [next, units_scaled (by decide), doubled, ← Nat.mul_assoc, full]

theorem units_lt_succ (b : Nat) : units b < units (b + 1) := by
  have step := Nat.two_pow_pos (b / 2 ^ 52 - 1)
  rw [units_succ]
  omega

theorem below_units (b : Nat) : below (units b) = b := by
  rcases small_or_scaled b with small | ⟨m, e, mantissa, rfl⟩
  · rw [units_of_lt small]
    have whole : b.log2 - 52 = 0 := by
      by_cases zero : b = 0
      · rw [zero]
        rfl
      · have bits := (Nat.log2_lt zero).2 small
        omega
    rw [below, whole, Nat.pow_zero, Nat.div_one, Nat.zero_mul]
    rfl
  · rw [units_scaled mantissa]
    have positive : 0 < 2 ^ e := Nat.two_pow_pos e
    have bits : ((2 ^ 52 + m) * 2 ^ e).log2 = 52 + e := by
      have nonzero : (2 ^ 52 + m) * 2 ^ e ≠ 0 := Nat.mul_ne_zero (by omega) (by omega)
      refine (Nat.log2_eq_iff nonzero).2 ⟨?_, ?_⟩
      · rw [Nat.pow_add]
        exact Nat.mul_le_mul_right _ (by omega)
      · rw [Nat.add_right_comm, Nat.pow_add]
        exact Nat.mul_lt_mul_of_pos_right (by omega) positive
    have dropped : 52 + e - 52 = e := by omega
    rw [below, bits, dropped, Nat.mul_div_cancel _ positive]
    omega

theorem units_pos {b : Nat} (nonzero : b ≠ 0) : 0 < units b := by
  rcases Nat.eq_zero_or_pos (units b) with nothing | positive
  · have back := below_units b
    rw [nothing] at back
    exact absurd back.symm nonzero
  · exact positive

/-- A pattern other than zero is worth at least the step to the next one. -/
theorem two_pow_le_units {b : Nat} (nonzero : b ≠ 0) : 2 ^ (b / 2 ^ 52 - 1) ≤ units b := by
  unfold units
  split
  · have unscaled : b / 2 ^ 52 - 1 = 0 := by omega
    rw [unscaled]
    omega
  · exact Nat.le_mul_of_pos_left _ (by omega)

theorem units_succ_le {b : Nat} (nonzero : b ≠ 0) : units (b + 1) ≤ 2 * units b := by
  have step := two_pow_le_units nonzero
  rw [units_succ]
  omega

/-! ## Rounding -/

/-- The number of a finite pattern rounds to the pattern, and overflow to `infinity`. -/
theorem nearest_units_mul {b den : Nat} (finite : b ≤ infinity) (positive : 0 < den) :
    nearest (units b * den) den = b := by
  have less : 2 * (units b * den) < den * (units b + units (b + 1)) := by
    have next := Nat.mul_lt_mul_of_pos_left (units_lt_succ b) positive
    rw [Nat.mul_add, Nat.mul_comm (units b) den]
    omega
  rw [nearest, Nat.mul_div_cancel _ positive, below_units, if_pos less, Nat.min_eq_left finite]

theorem nearest_mul_mul_right (num den : Nat) {k : Nat} (positive : 0 < k) :
    nearest (num * k) (den * k) = nearest num den := by
  have scaled (total : Nat) : den * k * total = den * total * k := Nat.mul_right_comm ..
  have doubled : 2 * (num * k) = 2 * num * k := (Nat.mul_assoc ..).symm
  simp only [nearest, Nat.mul_div_mul_right num den positive, scaled, doubled,
    Nat.mul_lt_mul_right positive]

/-- Equal fractions round to one pattern. -/
theorem nearest_congr {num den num' den' : Nat} (positive : 0 < den) (positive' : 0 < den')
    (same : num * den' = num' * den) : nearest num den = nearest num' den' := by
  rw [← nearest_mul_mul_right num den positive', same, Nat.mul_comm den den',
    nearest_mul_mul_right num' den' positive]

end Timings.Pattern
