import Mathlib
import Timings.Proofs.Doubles
import Timings.Proofs.Patterns

/-!
Rounding is to the nearest pattern.

Doubles are rounded by shifting a mantissa, with two bits that keep what matters of the
bits that are dropped. These bits say of a fraction what its nearest natural number depends
on (`Approximates`), and shifts keep it so. So a rounded double has the pattern that is
nearest to the exact number (`ofModel_roundWithAccuracy`), which is the rounding literals
are read with.
-/

namespace Timings

open Float.Model (Format UnpackedFloat totalExponent)
open Float.Model.UnpackedFloat (Accuracy ExtendedMantissa Sign shiftToTargetExponent
  roundWithAccuracy)

/-! ## Patterns by mantissa and exponent -/

namespace Pattern

/-- A mantissa of 53 bits, or a shorter one with the least exponent. -/
structure Canonical (m e : Nat) : Prop where
  bits : m < 2 ^ 53
  normal : e = 0 ∨ 2 ^ 52 ≤ m

/-- The next mantissa may have one bit more. -/
theorem units_mantissa {m e : Nat} (bits : m ≤ 2 ^ 53) (normal : e = 0 ∨ 2 ^ 52 ≤ m) :
    units (m + e * 2 ^ 52) = m * 2 ^ e := by
  by_cases small : m < 2 ^ 52
  · obtain rfl : e = 0 := by omega
    rw [Nat.zero_mul, Nat.add_zero, units_of_lt small, Nat.pow_zero, Nat.mul_one]
  · by_cases full : m = 2 ^ 53
    · have next : m + e * 2 ^ 52 = 0 + (e + 1 + 1) * 2 ^ 52 := by omega
      have doubled : 2 ^ (e + 1) = 2 * 2 ^ e := Nat.pow_succ'
      rw [next, units_scaled (by decide), doubled, full, ← Nat.mul_assoc]
    · have split : m + e * 2 ^ 52 = (m - 2 ^ 52) + (e + 1) * 2 ^ 52 := by omega
      have whole : 2 ^ 52 + (m - 2 ^ 52) = m := by omega
      rw [split, units_scaled (by omega), whole]

theorem below_mantissa {m e u : Nat} (canonical : Canonical m e) (lower : m * 2 ^ e ≤ u)
    (upper : u < (m + 1) * 2 ^ e) : below u = m + e * 2 ^ 52 := by
  obtain ⟨bits, normal⟩ := canonical
  have quotient : u / 2 ^ e = m :=
    Nat.div_eq_of_lt_le lower upper
  rcases Nat.eq_zero_or_pos e with rfl | positive
  · rw [Nat.pow_zero, Nat.div_one] at quotient
    have short : u.log2 - 52 = 0 := by
      have log2 := Double.log2_le_of_lt (quotient ▸ bits : u < 2 ^ (52 + 1))
      omega
    rw [below, short, Nat.pow_zero, Nat.div_one, quotient]
  · have large : 2 ^ 52 ≤ m := by omega
    have nonzero : u ≠ 0 := by
      have some_bit : 0 < m * 2 ^ e := Nat.mul_pos (by omega) (Nat.two_pow_pos e)
      omega
    have log2 : u.log2 = 52 + e := by
      refine (Nat.log2_eq_iff nonzero).2 ⟨?_, ?_⟩
      · rw [Nat.pow_add]
        exact Nat.le_trans (Nat.mul_le_mul_right _ large) lower
      · rw [Nat.add_right_comm, Nat.pow_add]
        exact Nat.lt_of_lt_of_le upper (Nat.mul_le_mul_right _ bits)
    have dropped : 52 + e - 52 = e := by omega
    rw [below, log2, dropped, quotient]

/-- The natural number nearest to a fraction, a tie going to the even one. -/
def halfEven (num den : Nat) : Nat :=
  let middle := den * (2 * (num / den) + 1)
  if 2 * num < middle then num / den
  else if middle < 2 * num then num / den + 1
  else num / den + num / den % 2

theorem le_halfEven (num den : Nat) : num / den ≤ halfEven num den := by
  unfold halfEven
  dsimp only
  split
  · omega
  · split <;> omega

theorem halfEven_le (num den : Nat) : halfEven num den ≤ num / den + 1 := by
  unfold halfEven
  dsimp only
  split
  · omega
  · split <;> omega

/-- A number of steps rounds to a pattern as its mantissa rounds to a natural number. -/
theorem nearest_mantissa {num den e : Nat} (positive : 0 < den)
    (canonical : Canonical (num / den) e) :
    nearest (num * 2 ^ e) den = min (halfEven num den + e * 2 ^ 52) infinity := by
  have power : 0 < 2 ^ e := Nat.two_pow_pos e
  have lower : num / den * 2 ^ e ≤ num * 2 ^ e / den := by
    rw [Nat.le_div_iff_mul_le positive, Nat.mul_right_comm]
    exact Nat.mul_le_mul_right _ (Nat.div_mul_le_self num den)
  have upper : num * 2 ^ e / den < (num / den + 1) * 2 ^ e := by
    rw [Nat.div_lt_iff_lt_mul positive, Nat.mul_right_comm]
    exact Nat.mul_lt_mul_of_pos_right (Nat.lt_mul_of_div_lt (Nat.lt_succ_self _) positive) power
  have here := units_mantissa (Nat.le_of_lt canonical.bits) canonical.normal
  have next : units (num / den + e * 2 ^ 52 + 1) = (num / den + 1) * 2 ^ e := by
    have bits := canonical.bits
    have normal := canonical.normal
    rw [Nat.add_right_comm]
    exact units_mantissa bits (by omega)
  have middle : den * (num / den * 2 ^ e + (num / den + 1) * 2 ^ e) =
      den * (2 * (num / den) + 1) * 2 ^ e := by
    rw [← Nat.add_mul, Nat.mul_assoc]
    congr 2
    omega
  have doubled : 2 * (num * 2 ^ e) = 2 * num * 2 ^ e := (Nat.mul_assoc ..).symm
  have parity : (num / den + e * 2 ^ 52) % 2 = num / den % 2 := by omega
  simp only [nearest, below_mantissa canonical lower upper, here, next, middle, doubled,
    Nat.mul_lt_mul_right power, parity, halfEven]
  congr 1
  split
  · rfl
  · split <;> omega

end Pattern

/-! ## Mantissas with dropped bits -/

namespace Double

/-- A mantissa with its round bit is the whole part of twice a fraction, and the sticky bit
tells whether anything is left of it. -/
structure Approximates (em : ExtendedMantissa) (num den : Nat) : Prop where
  doubled : 2 * em.mantissa + em.roundBit.toNat = 2 * num / den
  sticky : em.stickyBit = decide (2 * num % den ≠ 0)

theorem Approximates.mantissa {em : ExtendedMantissa} {num den : Nat}
    (approx : Approximates em num den) : em.mantissa = num / den := by
  have whole : 2 * num / den / 2 = num / den := by
    rw [Nat.div_div_eq_div_mul, Nat.mul_comm den, Nat.mul_div_mul_left _ _ (by decide)]
  have bit := Bool.toNat_le em.roundBit
  have doubled := approx.doubled
  omega

/-- What is left of a fraction, by the round bit and what is left of twice the fraction. -/
theorem Approximates.rest {em : ExtendedMantissa} {num den : Nat}
    (approx : Approximates em num den) :
    2 * (num % den) = den * em.roundBit.toNat + 2 * num % den := by
  have twice := Nat.div_add_mod (2 * num) den
  have once := Nat.div_add_mod num den
  rw [← approx.doubled, approx.mantissa, Nat.mul_add, Nat.mul_left_comm] at twice
  omega

theorem Approximates.shiftRightOne {em : ExtendedMantissa} {num den : Nat} (positive : 0 < den)
    (approx : Approximates em num den) : Approximates em.shiftRightOne num (den * 2) where
  doubled := by
    have halved : 2 * num / (den * 2) = num / den := by
      rw [Nat.mul_comm den, Nat.mul_div_mul_left _ _ (by decide)]
    have bit : (em.mantissa % 2 != 0).toNat = em.mantissa % 2 := by
      rcases Nat.mod_two_eq_zero_or_one em.mantissa with even | odd
      · rw [even]
        rfl
      · rw [odd]
        rfl
    change 2 * (em.mantissa / 2) + (em.mantissa % 2 != 0).toNat = _
    rw [halved, bit, ← approx.mantissa]
    omega
  sticky := by
    have rest := approx.rest
    have halved : 2 * num % (den * 2) = 2 * (num % den) := by
      rw [Nat.mul_comm den, Nat.mul_mod_mul_left]
    change (em.roundBit || em.stickyBit) = _
    rw [halved, rest, approx.sticky]
    cases em.roundBit with
    | false => simp
    | true =>
        have something : den * true.toNat + 2 * num % den ≠ 0 := by
          rw [Bool.toNat_true]
          omega
        rw [decide_eq_true something]
        rfl

theorem Approximates.shiftRight {em : ExtendedMantissa} {num den : Nat} (positive : 0 < den)
    (approx : Approximates em num den) (k : Nat) : Approximates (em >>> k) num (den * 2 ^ k) := by
  induction k with
  | zero =>
      rw [Nat.pow_zero, Nat.mul_one]
      exact approx
  | succ k ih =>
      rw [Nat.pow_succ, ← Nat.mul_assoc]
      exact ih.shiftRightOne (Nat.mul_pos positive (Nat.two_pow_pos k))

/-- The two bits decide between the whole part and the next number as the fraction does. -/
theorem Approximates.roundedMantissa {em : ExtendedMantissa} {num den : Nat}
    (positive : 0 < den) (approx : Approximates em num den) :
    em.roundedMantissa = Pattern.halfEven num den := by
  have mantissa := approx.mantissa
  have doubled := approx.doubled
  have sticky := approx.sticky
  have twice := Nat.div_add_mod (2 * num) den
  have below := Nat.mod_lt (2 * num) positive
  rw [← doubled] at twice
  obtain ⟨m, round, left⟩ := em
  dsimp only at mantissa doubled sticky twice
  subst mantissa
  unfold Pattern.halfEven ExtendedMantissa.roundedMantissa
  dsimp only
  cases round with
  | false =>
      have less : 2 * num < den * (2 * (num / den) + 1) := by
        rw [Bool.toNat_false, Nat.add_zero] at twice
        rw [Nat.mul_add, Nat.mul_one]
        omega
      rw [if_pos less]
      cases left <;> rfl
  | true =>
      rw [Bool.toNat_true] at twice
      have least : ¬2 * num < den * (2 * (num / den) + 1) := by omega
      rw [if_neg least]
      cases left with
      | false =>
          have none : 2 * num % den = 0 := by simpa using sticky.symm
          rw [if_neg (by omega)]
          rfl
      | true =>
          have some_left : 2 * num % den ≠ 0 := by simpa using sticky.symm
          rw [if_pos (by omega)]
          rfl

theorem approximates_exact (m : Nat) :
    Approximates (.ofMantissaAndAccuracy m .exact) m 1 where
  doubled := (Nat.div_one _).symm
  sticky := by
    rw [Nat.mod_one]
    rfl

/-! ## Packing -/

/-- Whether a sign is the minus. -/
def isMinus : Sign → Bool
  | .negative => true
  | .positive => false

theorem toNat_packComponents (s : Sign) (e : BitVec 11) (m : BitVec 52) :
    (UnpackedFloat.packComponents Format.binary64 s e m).toNat =
      (if isMinus s then Pattern.signBit else 0) + (m.toNat + e.toNat * 2 ^ 52) := by
  have mantissa := m.isLt
  have exponent := e.isLt
  unfold UnpackedFloat.packComponents
  rw [BitVec.toNat_append, BitVec.toNat_append, ← Nat.shiftLeft_add_eq_or_of_lt mantissa,
    ← Nat.shiftLeft_add_eq_or_of_lt exponent, Nat.shiftLeft_eq, Nat.shiftLeft_eq]
  cases s with
  | negative =>
      change (1 * 2 ^ 11 + e.toNat) * 2 ^ 52 + m.toNat = 2 ^ 63 + _
      omega
  | positive =>
      change (0 * 2 ^ 11 + e.toNat) * 2 ^ 52 + m.toNat = 0 + _
      omega

/-- A packed double by its bits. -/
theorem ofModel_pack {u : UnpackedFloat} {s : Sign} {e : BitVec 11} {m : BitVec 52}
    (packed : UnpackedFloat.pack Format.binary64 u =
      UnpackedFloat.packComponents Format.binary64 s e m) :
    Float.ofModel (Float.Model.pack u) =
      Pattern.toFloat (isMinus s) (m.toNat + e.toNat * 2 ^ 52) := by
  have bits : (if isMinus s then Pattern.signBit + (m.toNat + e.toNat * 2 ^ 52)
      else m.toNat + e.toNat * 2 ^ 52) =
        (Float.ofModel (Float.Model.pack u)).toBits.toNat := by
    change _ = (UnpackedFloat.pack Format.binary64 u).toNat
    rw [packed, toNat_packComponents]
    cases s with
    | negative => rfl
    | positive => exact (Nat.zero_add _).symm
  rw [Pattern.toFloat, bits, UInt64.ofNat_toNat, Float.ofBits_toBits]

theorem ofModel_pack_zero (s : Sign) :
    Float.ofModel (Float.Model.pack (.zero s)) = Pattern.toFloat (isMinus s) 0 :=
  @ofModel_pack (.zero s) s 0 0 rfl

/-- A finite number whose mantissa is in place is packed into its pattern, or into that of
infinity. -/
theorem ofModel_pack_finite (s : Sign) {m e : Nat} (canonical : Pattern.Canonical m e)
    (pos : 0 < m) :
    Float.ofModel (Float.Model.pack (.finite s m (e - 1074) pos)) =
      Pattern.toFloat (isMinus s) (min (m + e * 2 ^ 52) Pattern.infinity) := by
  obtain ⟨bits, normal⟩ := canonical
  have packed := pack_finite s m (e - 1074) pos
  have infinity : Pattern.infinity = 0 + 2047 * 2 ^ 52 := rfl
  by_cases large : 971 < (e : Int) - 1074
  · rw [if_pos large] at packed
    have beyond : min (m + e * 2 ^ 52) Pattern.infinity = 0 + 2047 * 2 ^ 52 := by omega
    rw [ofModel_pack packed, beyond]
    rfl
  · have within : min (m + e * 2 ^ 52) Pattern.infinity = m + e * 2 ^ 52 := by omega
    rw [if_neg large] at packed
    by_cases full : m.log2 + 1 = 53
    · rw [if_pos full] at packed
      have low : 2 ^ 52 ≤ m := (Nat.le_log2 (by omega)).1 (by omega)
      rw [ofModel_pack packed, within, BitVec.toNat_ofNat, BitVec.toNat_ofNat]
      congr 1
      omega
    · rw [if_neg full] at packed
      have high : m < 2 ^ 52 := by
        have log2 := log2_le_of_lt (bits : m < 2 ^ (52 + 1))
        exact (Nat.log2_lt (by omega)).1 (by omega)
      obtain rfl : e = 0 := by omega
      rw [ofModel_pack packed, within, BitVec.toNat_ofNat, Nat.mod_eq_of_lt high]
      rfl

/-! ## Rounding -/

/-- The second shift only makes room for a carry. -/
theorem shiftToTargetExponent_rounded {m e : Nat} (bits : m ≤ 2 ^ 53) :
    shiftToTargetExponent Format.binary64 m (e - 1074) .exact =
      if m = 2 ^ 53 then (⟨2 ^ 52, false, false⟩, ((e + 1 : Nat) : Int) - 1074)
      else (⟨m, false, false⟩, (e : Int) - 1074) := by
  unfold shiftToTargetExponent UnpackedFloat.shiftToExponent
  dsimp only
  rw [targetExponent_eq, totalExponent]
  by_cases full : m = 2 ^ 53
  · have carry : (max ((m.log2 : Int) + 1 + (e - 1074) - 53) (-1074) - (e - 1074)).toNat = 1 := by
      have log2 : m.log2 = 53 := by
        rw [full]
        decide
      omega
    rw [if_pos full, carry, full]
    congr 1
    omega
  · have still : (max ((m.log2 : Int) + 1 + (e - 1074) - 53) (-1074) - (e - 1074)).toNat = 0 := by
      have log2 := log2_le_of_lt (by omega : m < 2 ^ (52 + 1))
      omega
    rw [if_neg full, still]
    congr 1
    omega

/-- The first shift leads to an exponent from `-1074` on, and leaves a mantissa in place. -/
theorem shiftToTargetExponent_long {m : Nat} {e : Int} (accuracy : Accuracy)
    (long : 2 ^ 52 ≤ m ∨ e ≤ -1074) :
    ∃ k place : Nat, shiftToTargetExponent Format.binary64 m e accuracy =
        (ExtendedMantissa.ofMantissaAndAccuracy m accuracy >>> k, (place : Int) - 1074) ∧
      e + k = place - 1074 ∧ Pattern.Canonical (m / 2 ^ k) place := by
  have bits := mantissa_shiftToTargetExponent_lt m e accuracy
  unfold shiftToTargetExponent UnpackedFloat.shiftToExponent at bits ⊢
  dsimp only at bits ⊢
  rw [mantissa_shiftRight, mantissa_ofMantissaAndAccuracy] at bits
  rw [targetExponent_eq, totalExponent] at bits ⊢
  have log2 : 2 ^ 52 ≤ m → 52 ≤ m.log2 := fun large => (Nat.le_log2 (by omega)).2 large
  generalize shift : (max ((m.log2 : Int) + 1 + e - 53) (-1074) - e).toNat = k at bits ⊢
  have exponent : e + (k : Int) = max ((m.log2 : Int) + 1 + e - 53) (-1074) := by omega
  refine ⟨k, (e + k + 1074).toNat, ?_, ?_, bits, ?_⟩
  · congr 1
    omega
  · omega
  · by_cases least : (m.log2 : Int) + 1 + e - 53 ≤ -1074
    · omega
    · refine .inr ((Nat.le_div_iff_mul_le (Nat.two_pow_pos k)).2 ?_)
      have kept : 52 + k = m.log2 := by omega
      have nonzero : m ≠ 0 := by
        rintro rfl
        rw [Nat.log2_zero] at kept
        omega
      rw [← Nat.pow_add, kept]
      exact Nat.log2_self_le nonzero

/-- **Rounding.** A mantissa that is long enough, with what is dropped of it, rounds to
the nearest pattern. -/
theorem ofModel_roundWithAccuracy (s : Sign) {m num den : Nat} {e : Int} {accuracy : Accuracy}
    (positive : 0 < den) (approx : Approximates (.ofMantissaAndAccuracy m accuracy) num den)
    (long : 2 ^ 52 ≤ m ∨ e ≤ -1074) :
    Float.ofModel (Float.Model.pack (roundWithAccuracy Format.binary64 s m e accuracy)) =
      Pattern.toFloat (isMinus s)
        (Pattern.nearest (num * 2 ^ (e + 1074).toNat) (den * 2 ^ (-(e + 1074)).toNat)) := by
  obtain ⟨k, place, first, exponent, canonical⟩ := shiftToTargetExponent_long accuracy long
  have shifted := approx.shiftRight positive k
  have divisor : 0 < den * 2 ^ k := Nat.mul_pos positive (Nat.two_pow_pos k)
  have mantissa : num / (den * 2 ^ k) = m / 2 ^ k := by
    rw [← shifted.mantissa, mantissa_shiftRight, mantissa_ofMantissaAndAccuracy]
  have powers : 2 ^ (e + 1074).toNat * 2 ^ k = 2 ^ place * 2 ^ (-(e + 1074)).toNat := by
    rw [← Nat.pow_add, ← Nat.pow_add]
    congr 1
    omega
  have steps : Pattern.nearest (num * 2 ^ (e + 1074).toNat) (den * 2 ^ (-(e + 1074)).toNat) =
      Pattern.nearest (num * 2 ^ place) (den * 2 ^ k) := by
    refine Pattern.nearest_congr (Nat.mul_pos positive (Nat.two_pow_pos _)) divisor ?_
    calc num * 2 ^ (e + 1074).toNat * (den * 2 ^ k)
        = num * den * (2 ^ (e + 1074).toNat * 2 ^ k) := by ac_rfl
      _ = num * den * (2 ^ place * 2 ^ (-(e + 1074)).toNat) := by rw [powers]
      _ = num * 2 ^ place * (den * 2 ^ (-(e + 1074)).toNat) := by ac_rfl
  rw [steps, Pattern.nearest_mantissa divisor (mantissa ▸ canonical)]
  -- what is rounded is as long as the mantissa, or has one bit more
  have rounded := shifted.roundedMantissa divisor
  have lower := Pattern.le_halfEven num (den * 2 ^ k)
  have upper := Pattern.halfEven_le num (den * 2 ^ k)
  rw [mantissa] at lower upper
  generalize Pattern.halfEven num (den * 2 ^ k) = r at rounded lower upper ⊢
  obtain ⟨bits, normal⟩ := canonical
  have second := @shiftToTargetExponent_rounded r place (by omega)
  unfold roundWithAccuracy
  simp only [first, rounded, second]
  by_cases full : r = 2 ^ 53
  · have carried : Pattern.Canonical (2 ^ 52) (place + 1) := ⟨by decide, .inr (Nat.le_refl _)⟩
    have same : 2 ^ 52 + (place + 1) * 2 ^ 52 = 2 ^ 53 + place * 2 ^ 52 := by omega
    simp only [if_pos full]
    rw [dif_neg (by decide), ofModel_pack_finite s carried (by decide), same, full]
  · simp only [if_neg full]
    by_cases zero : r = 0
    · obtain rfl : place = 0 := by omega
      rw [dif_pos zero, ofModel_pack_zero, zero]
      rfl
    · have kept : Pattern.Canonical r place := ⟨by omega, by omega⟩
      rw [dif_neg zero, ofModel_pack_finite s kept]

end Double

end Timings
