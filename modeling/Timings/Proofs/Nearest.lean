import Timings.Proofs.Rounding

/-!
Rounding keeps order.

Patterns are ordered as the steps they are worth, and `below` is the last one that is not
worth more than a number of steps (`units_below_le`, `lt_units_below_succ`). So a number that
a pattern is not below rounds to no larger one (`nearest_le`), and the other way round
(`le_nearest`). What stays below the middle between a pattern and the next one does not reach
the next one either (`nearest_le_of_lt_middle`), and what is above the middle does
(`lt_nearest_of_middle_lt`), so of two numbers the larger rounds to no smaller pattern
(`nearest_mono`). Short numbers times powers of two are not rounded at all (`exists_units`), and
a half may be rounded before it is taken or after (`nearest_half`).
-/

namespace Timings.Pattern

/-! ## Patterns in their order -/

theorem units_lt_iff {b c : Nat} : units b < units c ↔ b < c :=
  (strictMono_nat_of_lt_succ units_lt_succ).lt_iff_lt

theorem units_le_iff {b c : Nat} : units b ≤ units c ↔ b ≤ c :=
  (strictMono_nat_of_lt_succ units_lt_succ).le_iff_le

theorem units_inj {b c : Nat} : units b = units c ↔ b = c :=
  (strictMono_nat_of_lt_succ units_lt_succ).injective.eq_iff

/-- The mantissa and the exponent that a number of steps is cut off to. -/
theorem exists_canonical_below (u : Nat) : ∃ m e, Canonical m e ∧ below u = m + e * 2 ^ 52 ∧
    m * 2 ^ e ≤ u ∧ u < (m + 1) * 2 ^ e := by
  refine ⟨u / 2 ^ (u.log2 - 52), u.log2 - 52, ⟨?_, ?_⟩, rfl, Nat.div_mul_le_self _ _, ?_⟩
  · rw [Nat.div_lt_iff_lt_mul (Nat.two_pow_pos _), ← Nat.pow_add]
    exact Nat.lt_of_lt_of_le Nat.lt_log2_self (Nat.pow_le_pow_right (by decide) (by omega))
  · by_cases short : u.log2 ≤ 52
    · exact .inl (by omega)
    · have nonzero : u ≠ 0 := by
        rintro rfl
        exact short (Nat.zero_le _)
      have kept : 52 + (u.log2 - 52) = u.log2 := by omega
      refine .inr ((Nat.le_div_iff_mul_le (Nat.two_pow_pos _)).2 ?_)
      rw [← Nat.pow_add, kept]
      exact Nat.log2_self_le nonzero
  · exact Nat.lt_mul_of_div_lt (Nat.lt_succ_self _) (Nat.two_pow_pos _)

theorem units_below_le (u : Nat) : units (below u) ≤ u := by
  obtain ⟨m, e, canonical, cut, lower, -⟩ := exists_canonical_below u
  rw [cut, units_mantissa (Nat.le_of_lt canonical.bits) canonical.normal]
  exact lower

theorem lt_units_below_succ (u : Nat) : u < units (below u + 1) := by
  obtain ⟨m, e, canonical, cut, -, upper⟩ := exists_canonical_below u
  have normal := canonical.normal
  rw [cut, Nat.add_right_comm, units_mantissa canonical.bits (by omega)]
  exact upper

/-! ## Numbers that round in order -/

variable {num den b : Nat}

theorem nearest_le_infinity (num den : Nat) : nearest num den ≤ infinity := Nat.min_le_right _ _

/-- Rounding goes to the pattern below a number or to the next one, if these are finite. -/
theorem exists_rounded (num den : Nat) : ∃ r, nearest num den = min r infinity ∧
    below (num / den) ≤ r ∧ r ≤ below (num / den) + 1 := by
  refine ⟨_, rfl, ?_, ?_⟩
  · split
    · omega
    · split <;> omega
  · split
    · omega
    · split <;> omega

/-- A number below the middle of two patterns rounds to the lower one at most. -/
theorem nearest_le_of_lt_middle (positive : 0 < den)
    (less : 2 * num < den * (units b + units (b + 1))) : nearest num den ≤ b := by
  have lower := units_below_le (num / den)
  have multiple := Nat.div_mul_le_self num den
  obtain ⟨r, rounded, -, next⟩ := exists_rounded num den
  rcases Nat.lt_trichotomy (below (num / den)) b with smaller | same | larger
  · omega
  · unfold nearest
    dsimp only
    rw [same, if_pos less]
    exact Nat.min_le_left _ _
  · -- then the number is worth the upper pattern, which is beyond the middle
    have upper : units (b + 1) * den ≤ num :=
      Nat.le_trans (Nat.mul_le_mul_right _ (Nat.le_trans (units_le_iff.2 larger) lower)) multiple
    have order := Nat.mul_lt_mul_of_pos_left (units_lt_succ b) positive
    rw [Nat.mul_add] at less
    rw [Nat.mul_comm] at upper
    omega

theorem nearest_le (positive : 0 < den) (le : num ≤ units b * den) : nearest num den ≤ b := by
  apply nearest_le_of_lt_middle positive
  have order := Nat.mul_lt_mul_of_pos_left (units_lt_succ b) positive
  rw [Nat.mul_comm] at le
  rw [Nat.mul_add]
  omega

theorem le_nearest (finite : b ≤ infinity) (positive : 0 < den) (le : units b * den ≤ num) :
    b ≤ nearest num den := by
  have worth : units b ≤ num / den := (Nat.le_div_iff_mul_le positive).2 le
  have reached : b ≤ below (num / den) := by
    have upper := lt_units_below_succ (num / den)
    exact Nat.lt_succ_iff.1 (units_lt_iff.1 (Nat.lt_of_le_of_lt worth upper))
  obtain ⟨r, rounded, above, -⟩ := exists_rounded num den
  omega

theorem nearest_eq_infinity (positive : 0 < den) (le : units infinity * den ≤ num) :
    nearest num den = infinity :=
  Nat.le_antisymm (nearest_le_infinity _ _) (le_nearest (Nat.le_refl _) positive le)

/-- A number above the middle of two finite patterns rounds to the upper one at least. -/
theorem lt_nearest_of_middle_lt (finite : b < infinity) (positive : 0 < den)
    (greater : den * (units b + units (b + 1)) < 2 * num) : b < nearest num den := by
  obtain ⟨r, rounded, above, -⟩ := exists_rounded num den
  rcases Nat.lt_trichotomy (below (num / den)) b with smaller | same | larger
  · -- then the number is not worth the lower pattern, which is short of the middle
    have upper : num < units b * den := by
      have next := lt_units_below_succ (num / den)
      have worth := Nat.lt_of_lt_of_le next (units_le_iff.2 smaller)
      exact (Nat.div_lt_iff_lt_mul positive).1 worth
    have order := Nat.mul_lt_mul_of_pos_left (units_lt_succ b) positive
    rw [Nat.mul_add] at greater
    rw [Nat.mul_comm] at upper
    omega
  · unfold nearest
    dsimp only
    rw [same, if_neg (by omega), if_pos greater]
    omega
  · omega

/-- Of two fractions with one denominator the larger rounds to no smaller pattern. -/
theorem nearest_mono (positive : 0 < den) {num num' : Nat} (le : num ≤ num') :
    nearest num den ≤ nearest num' den := by
  by_contra less
  have finite : nearest num' den < infinity := by
    have within := nearest_le_infinity num den
    omega
  have above : ¬2 * num < den * (units (nearest num' den) + units (nearest num' den + 1)) :=
    fun below => less (nearest_le_of_lt_middle positive below)
  have below : ¬den * (units (nearest num' den) + units (nearest num' den + 1)) < 2 * num' :=
    fun above => Nat.lt_irrefl _ (lt_nearest_of_middle_lt finite positive above)
  obtain rfl : num = num' := by omega
  exact less (Nat.le_refl _)

/-! ## Short numbers -/

/-- A number of at most 53 bits, times a power of two, is what a pattern is worth. -/
theorem exists_units {n : Nat} (short : n ≤ 2 ^ 53) (k : Nat) : ∃ b, units b = n * 2 ^ k := by
  by_cases zero : n = 0
  · refine ⟨0, ?_⟩
    rw [zero, Nat.zero_mul]
    rfl
  · have bits : n * 2 ^ min (52 - n.log2) k ≤ 2 ^ 53 := by
      by_cases full : n = 2 ^ 53
      · have log2 : n.log2 = 53 := by rw [full, Nat.log2_two_pow]
        rw [log2, full]
        simp
      · have log2 := Double.log2_le_of_lt (by omega : n < 2 ^ (52 + 1))
        calc n * 2 ^ min (52 - n.log2) k ≤ 2 ^ (n.log2 + 1) * 2 ^ (52 - n.log2) :=
              Nat.mul_le_mul (Nat.le_of_lt Nat.lt_log2_self)
                (Nat.pow_le_pow_right (by decide) (Nat.min_le_left _ _))
          _ = 2 ^ 53 := by
            rw [← Nat.pow_add]
            congr 1
            omega
    have normal : k - min (52 - n.log2) k = 0 ∨ 2 ^ 52 ≤ n * 2 ^ min (52 - n.log2) k := by
      by_cases least : k ≤ 52 - n.log2
      · exact .inl (by omega)
      · refine .inr ?_
        rw [Nat.min_eq_left (by omega)]
        calc 2 ^ 52 ≤ 2 ^ (n.log2 + (52 - n.log2)) := Nat.pow_le_pow_right (by decide) (by omega)
          _ = 2 ^ n.log2 * 2 ^ (52 - n.log2) := Nat.pow_add ..
          _ ≤ n * 2 ^ (52 - n.log2) := Nat.mul_le_mul_right _ (Nat.log2_self_le zero)
    refine ⟨_, (units_mantissa bits normal).trans ?_⟩
    rw [Nat.mul_assoc, ← Nat.pow_add]
    congr 2
    omega

/-! ## Halves -/

/-- One more in the exponent is twice the worth. -/
theorem units_add_two_pow (normal : 2 ^ 52 ≤ b) : units (b + 2 ^ 52) = 2 * units b := by
  have low : (b + 2 ^ 52) % 2 ^ 52 = b % 2 ^ 52 := Nat.add_mod_right ..
  have high : (b + 2 ^ 52) / 2 ^ 52 - 1 = b / 2 ^ 52 - 1 + 1 := by omega
  have doubled : 2 ^ (b / 2 ^ 52 - 1 + 1) = 2 * 2 ^ (b / 2 ^ 52 - 1) := Nat.pow_succ'
  rw [units, units, if_neg (by omega), if_neg (by omega), low, high, doubled, Nat.mul_left_comm]

/-- A number of more bits than a mantissa has is cut off as its half is, with one more in the
exponent. -/
theorem below_eq_below_half {n : Nat} (long : 2 ^ 53 ≤ n) :
    2 ^ 52 ≤ below (n / 2) ∧ below n = below (n / 2) + 2 ^ 52 := by
  have half : 2 ^ 52 ≤ n / 2 := by omega
  have bits : n.log2 = (n / 2).log2 + 1 := by
    rw [Nat.log2_def, if_pos (by omega)]
  have some_bits : 52 ≤ (n / 2).log2 := (Nat.le_log2 (by omega)).2 half
  have dropped : n.log2 - 52 = (n / 2).log2 - 52 + 1 := by omega
  constructor
  · have mantissa : 2 ^ 52 ≤ n / 2 / 2 ^ ((n / 2).log2 - 52) := by
      rw [Nat.le_div_iff_mul_le (Nat.two_pow_pos _), ← Nat.pow_add]
      have whole : 52 + ((n / 2).log2 - 52) = (n / 2).log2 := by omega
      rw [whole]
      exact Nat.log2_self_le (by omega)
    unfold below
    omega
  · have doubled : 2 ^ ((n / 2).log2 - 52 + 1) = 2 * 2 ^ ((n / 2).log2 - 52) := Nat.pow_succ'
    rw [below, below, dropped, doubled, ← Nat.div_div_eq_div_mul]
    omega

/-- A short number is not rounded. -/
theorem units_nearest_short {n : Nat} (short : n ≤ 2 ^ 53) : units (nearest n 1) = n := by
  obtain ⟨b, worth⟩ := exists_units short 0
  rw [Nat.pow_zero, Nat.mul_one] at worth
  have largest := @units_mantissa (2 ^ 53) 0 (Nat.le_refl _) (.inl rfl)
  rw [Nat.zero_mul, Nat.add_zero, Nat.pow_zero, Nat.mul_one] at largest
  have least : b ≤ 2 ^ 53 := by
    rw [← units_le_iff, worth, largest]
    exact short
  have finite : b ≤ infinity := Nat.le_trans least (by decide)
  have rounded := nearest_units_mul finite Nat.one_pos
  rw [worth, Nat.mul_one] at rounded
  rw [rounded, worth]

/-- A long number and its half are rounded in the same way. -/
theorem exists_rounded_half {n : Nat} (long : 2 ^ 53 ≤ n) :
    ∃ r, 2 ^ 52 ≤ r ∧ nearest n 2 = min r infinity ∧ nearest n 1 = min (r + 2 ^ 52) infinity := by
  obtain ⟨normal, cut⟩ := below_eq_below_half long
  unfold nearest
  dsimp only
  rw [Nat.div_one, Nat.one_mul, cut, Nat.add_right_comm, units_add_two_pow normal,
    units_add_two_pow (by omega), ← Nat.mul_add]
  generalize below (n / 2) = b at normal
  generalize 2 * (units b + units (b + 1)) = middle
  rcases Nat.lt_trichotomy (2 * n) middle with less | same | greater
  · rw [if_pos less, if_pos less]
    exact ⟨b, normal, rfl, rfl⟩
  · rw [if_neg (by omega), if_neg (by omega), if_neg (by omega), if_neg (by omega)]
    refine ⟨b + b % 2, by omega, rfl, ?_⟩
    have even : b + 2 ^ 52 + (b + 2 ^ 52) % 2 = b + b % 2 + 2 ^ 52 := by omega
    rw [even]
  · rw [if_neg (by omega), if_pos greater, if_neg (by omega), if_pos greater]
    exact ⟨b + 1, by omega, rfl, rfl⟩

/-- Half of a number that was rounded to a finite pattern is the rounded half of it. -/
theorem nearest_half {n : Nat} (finite : nearest n 1 < infinity) :
    nearest (units (nearest n 1)) 2 = nearest n 2 := by
  by_cases short : n ≤ 2 ^ 53
  · rw [units_nearest_short short]
  · obtain ⟨r, normal, half, whole⟩ := exists_rounded_half (Nat.le_of_not_le short)
    have kept : nearest n 1 = r + 2 ^ 52 := by omega
    rw [kept, units_add_two_pow normal, Nat.mul_comm, nearest_units_mul (by omega) Nat.two_pos]
    omega

end Timings.Pattern
