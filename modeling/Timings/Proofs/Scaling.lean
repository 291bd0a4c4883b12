import Timings.Proofs.Arithmetic
import Timings.Proofs.Decimals
import Timings.Proofs.Finite
import Timings.Proofs.Nearest

/-!
Scaled digits.

The double of a numeral is that of its digits, scaled by a power of ten. For a word whose
digits and power are both doubles this is one rounding, so it is the double nearest to the
decimal (`assemble_of_direct`). Longer digits and other powers are rounded twice.
-/

namespace Timings

open Pattern (infinity nearest toFloat units)
open Double (places places_eq stepsOfOne stepsOfOne_pos)

/-! ## Patterns of exact numbers -/

namespace Pattern

/-- A moderate number of steps is a finite double. -/
theorem nearest_lt_infinity {num den k : Nat} (bounded : num / den < 2 ^ (k + 1))
    (moderate : k ≤ 2000) : nearest num den < infinity := by
  have bits := Double.log2_le_of_lt bounded
  have leading : num / den / 2 ^ ((num / den).log2 - 52) < 2 ^ 53 := by
    rw [Nat.div_lt_iff_lt_mul (Nat.two_pow_pos _), ← Nat.pow_add]
    exact Nat.lt_of_lt_of_le Nat.lt_log2_self (Nat.pow_le_pow_right (by decide) (by omega))
  have limit : infinity = 2047 * 2 ^ 52 := rfl
  have small : below (num / den) < 2 ^ 53 + 2000 * 2 ^ 52 := by
    unfold below
    omega
  unfold nearest
  dsimp only
  split
  · omega
  · split <;> omega

/-- Overflow is measured against a power of two. -/
theorem units_infinity : units infinity = 2 ^ (Double.places + 1024) := by
  have places := places_eq
  generalize Double.places = p at places ⊢
  have parts : infinity = 2 ^ 52 + (p + 972) * 2 ^ 52 := by
    rw [places]
    rfl
  have exponents : 52 + (p + 972) = p + 1024 := by omega
  rw [parts, units_mantissa (by decide) (.inr (Nat.le_refl _)), ← Nat.pow_add, exponents]

/-- A number of at most 53 bits is a double. -/
theorem exists_units_eq {n : Nat} (short : n ≤ 2 ^ 53) :
    ∃ b < infinity, units b = n * stepsOfOne := by
  obtain ⟨b, worth⟩ := exists_units short Double.places
  refine ⟨b, ?_, worth⟩
  rw [← units_lt_iff, worth, units_infinity]
  calc n * 2 ^ Double.places ≤ 2 ^ 53 * 2 ^ Double.places := Nat.mul_le_mul_right _ short
    _ = 2 ^ (53 + Double.places) := (Nat.pow_add ..).symm
    _ < 2 ^ (Double.places + 1024) := Nat.pow_lt_pow_right (by decide) (by omega)

end Pattern

/-! ## Decimals -/

namespace Decimal

theorem pattern_eq_nearest_steps {d : Decimal} (digits : d.digits ≠ 0) (low : d.exponent ≤ 400)
    (high : -400 ≤ d.exponent + d.digits.log2) :
    d.pattern =
      nearest (d.digits * 10 ^ d.exponent.toNat * stepsOfOne) (10 ^ (-d.exponent).toNat) := by
  rw [pattern_eq_nearest digits low high, steps_eq, stepsOfOne, places_eq]

/-- The digits fit a word, and the decimal is zero, or an integer as written, or its digits
and its power of ten are doubles. -/
def Direct (d : Decimal) : Prop :=
  d.digits < 2 ^ 64 ∧
    (d.digits = 0 ∨ d.exponent = 0 ∨ d.digits ≤ 2 ^ 53 ∧ d.exponent.natAbs ≤ 22)

instance (d : Decimal) : Decidable d.Direct :=
  inferInstanceAs (Decidable (d.digits < 2 ^ 64 ∧
    (d.digits = 0 ∨ d.exponent = 0 ∨ d.digits ≤ 2 ^ 53 ∧ d.exponent.natAbs ≤ 22)))

end Decimal

namespace Json

open Decimal (Direct)

/-! ## Scaling -/

theorem toFloat_ofNat {n : Nat} (fits : n < 2 ^ 64) :
    (UInt64.ofNat n).toFloat = toFloat false (nearest (n * stepsOfOne) 1) := by
  rw [Double.toFloat_word, UInt64.toNat_ofNat_of_lt' fits]

/-- A word is the double nearest to it. -/
theorem toFloat_word_eq_pattern {n : Nat} (fits : n < 2 ^ 64) :
    (UInt64.ofNat n).toFloat = toFloat false (Decimal.pattern ⟨n, 0⟩) := by
  rw [toFloat_ofNat fits]
  by_cases zero : n = 0
  · rw [zero, Nat.zero_mul, Double.nearest_zero Nat.one_pos]
    rfl
  · have rounds := @Decimal.pattern_eq_nearest_steps ⟨n, 0⟩ zero (by dsimp only; omega)
      (by dsimp only; omega)
    rw [rounds]
    dsimp only
    rw [Int.toNat_zero, Nat.pow_zero, Nat.mul_one]
    rfl

/-- The powers of ten that numbers are scaled by are neither infinite nor zero. -/
theorem pattern_tenTo_bounds {k : Nat} (small : k ≤ 308) :
    Decimal.pattern ⟨1, k⟩ < infinity ∧ Decimal.pattern ⟨1, k⟩ ≠ 0 := by
  rcases Nat.eq_zero_or_pos k with rfl | positive
  · decide +kernel
  · obtain ⟨large, finite⟩ := pattern_tenTo positive small
    exact ⟨finite, by omega⟩

/-- Powers of ten up to the twenty-second are doubles. -/
theorem units_tenTo {k : Nat} (short : k ≤ 22) :
    units (Decimal.pattern ⟨1, k⟩) = 10 ^ k * stepsOfOne := by
  have all : ∀ k < (23 : Nat), units (Decimal.pattern ⟨1, k⟩) = 10 ^ k * stepsOfOne := by
    decide +kernel
  exact all k (by omega)

theorem scale_zero (e : Int) : scale (toFloat false 0) e = some (toFloat false 0) := by
  have nothing : units 0 = 0 := rfl
  have finite : 0 < infinity := by decide
  unfold scale
  by_cases small : e.natAbs ≤ 308
  · obtain ⟨bounded, nonzero⟩ := pattern_tenTo_bounds small
    rw [if_pos small]
    by_cases up : 0 ≤ e
    · have power : tenTo e.toNat = toFloat false (Decimal.pattern ⟨1, e.natAbs⟩) := by
        rw [← Int.toNat_of_nonneg up, Int.toNat_natCast, Int.natAbs_natCast]
        rfl
      have product : toFloat false 0 * tenTo e.toNat = toFloat false 0 := by
        rw [power, Double.toFloat_mul _ _ finite bounded, nothing, Nat.zero_mul,
          Double.nearest_zero stepsOfOne_pos]
        rfl
      rw [if_pos up, product]
      dsimp only
      rw [Double.isInf_toFloat false finite]
      rfl
    · have quotient : toFloat false 0 / tenTo e.natAbs = toFloat false 0 := by
        change _ / toFloat false (Decimal.pattern ⟨1, e.natAbs⟩) = _
        rw [Double.toFloat_div _ _ finite bounded nonzero, nothing, Nat.zero_mul,
          Double.nearest_zero (Pattern.units_pos nonzero)]
        rfl
      rw [if_neg up, quotient]
  · have zero : (toFloat false 0 == 0) = true := by decide +kernel
    rw [if_neg small, if_pos zero]

theorem scale_eq_of_up {b c : Nat} {k : Nat} (finite : b < infinity) (short : k ≤ 22)
    (product : nearest (units b * (10 ^ k * stepsOfOne)) stepsOfOne = c) (bounded : c < infinity) :
    scale (toFloat false b) k = some (toFloat false c) := by
  have scaled : toFloat false b * tenTo k = toFloat false c := by
    obtain ⟨power, -⟩ := pattern_tenTo_bounds (by omega : k ≤ 308)
    change _ * toFloat false (Decimal.pattern ⟨1, k⟩) = _
    rw [Double.toFloat_mul _ _ finite power, units_tenTo short, product]
    rfl
  unfold scale
  rw [Int.natAbs_natCast, if_pos (by omega), if_pos (Int.natCast_nonneg k), Int.toNat_natCast,
    scaled]
  dsimp only
  rw [Double.isInf_toFloat false bounded]
  rfl

theorem scale_eq_of_down {b c : Nat} {e : Int} (finite : b < infinity) (down : e < 0)
    (short : e.natAbs ≤ 22)
    (quotient : nearest (units b * stepsOfOne) (10 ^ e.natAbs * stepsOfOne) = c) :
    scale (toFloat false b) e = some (toFloat false c) := by
  have scaled : toFloat false b / tenTo e.natAbs = toFloat false c := by
    obtain ⟨power, nonzero⟩ := pattern_tenTo_bounds (by omega : e.natAbs ≤ 308)
    change _ / toFloat false (Decimal.pattern ⟨1, e.natAbs⟩) = _
    rw [Double.toFloat_div _ _ finite power nonzero, units_tenTo short, quotient]
    rfl
  unfold scale
  rw [if_pos (by omega), if_neg (by omega), scaled]

/-- A direct decimal rounds to a finite double. -/
theorem pattern_lt_infinity_of_direct {d : Decimal} (direct : d.Direct) (digits : d.digits ≠ 0) :
    d.pattern < infinity := by
  obtain ⟨fits, kind⟩ := direct
  have moderate : d.exponent.natAbs ≤ 22 := by omega
  have places := places_eq
  rw [Decimal.pattern_eq_nearest_steps digits (by omega) (by omega)]
  refine @Pattern.nearest_lt_infinity _ _ (137 + Double.places) ?_ (by omega)
  have tens : 10 ^ d.exponent.toNat ≤ 2 ^ 74 :=
    Nat.le_trans (Nat.pow_le_pow_right (by decide) (by omega : d.exponent.toNat ≤ 22)) (by decide)
  calc d.digits * 10 ^ d.exponent.toNat * stepsOfOne / 10 ^ (-d.exponent).toNat
      ≤ d.digits * 10 ^ d.exponent.toNat * stepsOfOne := Nat.div_le_self _ _
    _ ≤ d.digits * 2 ^ 74 * stepsOfOne := Nat.mul_le_mul_right _ (Nat.mul_le_mul_left _ tens)
    _ < 2 ^ 64 * 2 ^ 74 * stepsOfOne :=
      Nat.mul_lt_mul_of_pos_right (Nat.mul_lt_mul_of_pos_right fits (by decide)) stepsOfOne_pos
    _ = 2 ^ (137 + Double.places + 1) := by
      rw [stepsOfOne, ← Nat.pow_add, ← Nat.pow_add]
      congr 1
      omega

/-- An exact word and an exact power of ten are scaled with one rounding. -/
theorem scale_exact {d : Decimal} (digits : d.digits ≠ 0) (bits : d.digits ≤ 2 ^ 53)
    (power : d.exponent.natAbs ≤ 22) (finite : d.pattern < infinity) :
    scale (UInt64.ofNat d.digits).toFloat d.exponent = some (toFloat false d.pattern) := by
  have rounds := Decimal.pattern_eq_nearest_steps digits (by omega) (by omega)
  obtain ⟨b, bounded, steps⟩ := Pattern.exists_units_eq bits
  have word : nearest (d.digits * stepsOfOne) 1 = b := by
    rw [← steps, ← Nat.mul_one (units b)]
    exact Pattern.nearest_units_mul (Nat.le_of_lt bounded) Nat.one_pos
  rw [toFloat_ofNat (by omega), word]
  by_cases up : 0 ≤ d.exponent
  · obtain ⟨k, raised⟩ := Int.eq_ofNat_of_zero_le up
    have none : (-d.exponent).toNat = 0 := by omega
    rw [none, raised, Int.toNat_natCast, Nat.pow_zero] at rounds
    rw [raised]
    refine scale_eq_of_up bounded (by omega) ?_ finite
    rw [rounds, steps]
    refine Pattern.nearest_congr stepsOfOne_pos Nat.one_pos ?_
    rw [Nat.mul_one]
    ac_rfl
  · have none : d.exponent.toNat = 0 := by omega
    have lowered : (-d.exponent).toNat = d.exponent.natAbs := by omega
    rw [none, lowered, Nat.pow_zero, Nat.mul_one] at rounds
    refine scale_eq_of_down bounded (by omega) power ?_
    rw [rounds, steps]
    exact Pattern.nearest_mul_mul_right _ _ stepsOfOne_pos

/-- The digits of a direct decimal, scaled by its power of ten, give the pattern it rounds
to. -/
theorem scale_of_direct {d : Decimal} (direct : d.Direct) :
    d.pattern < infinity ∧
      scale (UInt64.ofNat d.digits).toFloat d.exponent = some (toFloat false d.pattern) := by
  by_cases digits : d.digits = 0
  · have nothing : d.pattern = 0 := by rw [Decimal.pattern, if_pos digits]
    rw [nothing, digits, toFloat_word_eq_pattern (by decide)]
    exact ⟨by decide, scale_zero d.exponent⟩
  have finite := pattern_lt_infinity_of_direct direct digits
  obtain ⟨fits, kind⟩ := direct
  refine ⟨finite, ?_⟩
  by_cases whole : d.exponent = 0
  · -- the word is rounded, and multiplied by one
    have same : d.pattern = Decimal.pattern ⟨d.digits, 0⟩ := by rw [← whole]
    rw [toFloat_word_eq_pattern fits, ← same, whole]
    refine scale_eq_of_up (k := 0) finite (by decide) ?_ finite
    rw [Nat.pow_zero, Nat.one_mul]
    exact Pattern.nearest_units_mul (Nat.le_of_lt finite) stepsOfOne_pos
  · exact scale_exact digits (by omega) (by omega) finite

/-- **Direct decimals.** A numeral with these digits and this power of ten is read as the
double nearest to it. -/
theorem assemble_of_direct {d : Decimal} (direct : d.Direct) (minus : Bool) :
    assemble minus d.digits d.exponent = .ok (d.toFloat minus) := by
  obtain ⟨finite, scaled⟩ := scale_of_direct direct
  unfold assemble
  rw [scaled]
  cases minus with
  | false => rfl
  | true =>
      change Except.ok (-toFloat false d.pattern) = _
      rw [Double.neg_toFloat false finite]
      rfl

end Json

end Timings
