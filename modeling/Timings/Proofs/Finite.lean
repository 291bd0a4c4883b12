import Timings.Measurement
import Timings.Proofs.Arithmetic
import Timings.Proofs.Decimals
import Timings.Proofs.Nearest
import Timings.Proofs.Outcomes

/-!
Only finite numbers are read.

A numeral beyond the doubles is refused where its digits are scaled, so every double
that reaches a measurement is finite. This holds of any text, a numeral or not: it is
followed from the scaling outwards, scanner by scanner.
-/

namespace Timings.Json

open Double (places_eq stepsOfOne)

/-! ## Scaling -/

/-- The powers of ten that numbers are scaled by are not below eight, and finite. -/
theorem pattern_tenTo {k : Nat} (pos : 0 < k) (small : k ≤ 308) :
    1026 * 2 ^ 52 ≤ Decimal.pattern ⟨1, k⟩ ∧ Decimal.pattern ⟨1, k⟩ < Pattern.infinity := by
  have rounds : Decimal.pattern ⟨1, k⟩ = Pattern.nearest (10 ^ k * stepsOfOne) 1 := by
    have none : (-(k : Int)).toNat = 0 := by omega
    rw [Decimal.pattern_eq_nearest Nat.one_ne_zero (by dsimp only; omega) (by dsimp only; omega),
      Decimal.steps_eq, stepsOfOne, places_eq]
    dsimp only
    rw [none, Int.toNat_natCast, Nat.one_mul, Nat.pow_zero]
  rw [rounds]
  constructor
  · have eight : Pattern.units (1026 * 2 ^ 52) * 1 ≤ 10 ^ 1 * stepsOfOne := by decide +kernel
    have least := Nat.mul_le_mul_right stepsOfOne (Nat.pow_le_pow_right (by decide : 0 < 10) pos)
    exact Pattern.le_nearest (by decide) Nat.one_pos (Nat.le_trans eight least)
  · have last : 10 ^ 308 * stepsOfOne ≤ Pattern.units (Pattern.infinity - 1) * 1 := by
      decide +kernel
    have most := Nat.mul_le_mul_right stepsOfOne (Nat.pow_le_pow_right (by decide : 0 < 10) small)
    have rounded := Pattern.nearest_le Nat.one_pos (Nat.le_trans most last)
    exact Nat.lt_of_le_of_lt rounded (by decide)

theorem atLeastEight_tenTo {k : Nat} (pos : 0 < k) (small : k ≤ 308) :
    Double.atLeastEight (tenTo k) = true := by
  obtain ⟨large, finite⟩ := pattern_tenTo pos small
  exact Double.atLeastEight_toFloat large finite

theorem isFinite_tenTo {k : Nat} (small : k ≤ 308) : (tenTo k).isFinite = true := by
  rcases Nat.eq_zero_or_pos k with rfl | pos
  · decide +kernel
  · exact Double.isFinite_of_atLeastEight (atLeastEight_tenTo pos small)

theorem isFinite_scale {x y : Float} {e : Int} (finite : x.isFinite = true)
    (scaled : scale x e = some y) : y.isFinite = true := by
  fun_induction scale x e with
  | case1 x e small up product infinite => cases scaled
  | case2 x e small up product bounded =>
    obtain rfl := Option.some.inj scaled
    have number := Double.isNaN_mul finite (isFinite_tenTo (k := e.toNat) (by omega))
    exact Double.isFinite_of_not_isInf number (by simpa using bounded)
  | case3 x e small down =>
    cases scaled
    exact Double.isFinite_div finite (atLeastEight_tenTo (by omega) small)
  | case4 x e large zero =>
    cases scaled
    exact finite
  | case5 x e large zero up => cases scaled
  | case6 x e large zero down ih =>
    exact ih (Double.isFinite_div finite (atLeastEight_tenTo (by decide) (by decide))) scaled

theorem isFinite_assemble {minus : Bool} {digits : Nat} {e : Int} {x : Float}
    (read : assemble minus digits e = .ok x) : x.isFinite = true := by
  unfold assemble at read
  split at read
  · cases read
  · rename_i y scaled
    cases read
    have finite := isFinite_scale (Double.isFinite_word _) scaled
    cases minus with
    | false => exact finite
    | true => exact Double.isFinite_neg finite

/-! ## Scanners -/

theorem isFinite_scanPower {minus : Bool} {digits : Nat} {start : Int} {down : Bool}
    {cs rest : List Char} {x : Float}
    (read : scanPower minus digits start down cs = .ok (x, rest)) : x.isFinite = true := by
  unfold scanPower at read
  split at read
  · cases read
  · split at read
    · split at read
      · obtain ⟨y, assembled, same⟩ := bind_eq_ok_iff.1 read
        cases same
        exact isFinite_assemble assembled
      · split at read
        · cases read
        · cases read
          cases minus <;> decide +kernel
    · cases read

theorem isFinite_scanExponent {minus : Bool} {digits : Nat} {start : Int} {cs rest : List Char}
    {x : Float} (read : scanExponent minus digits start cs = .ok (x, rest)) :
    x.isFinite = true := by
  unfold scanExponent at read
  split at read <;> exact isFinite_scanPower read

theorem isFinite_scanScaled {minus : Bool} {digits : Nat} {e : Int} {cs rest : List Char}
    {x : Float} (read : scanScaled minus digits e cs = .ok (x, rest)) : x.isFinite = true := by
  unfold scanScaled at read
  split at read
  · exact isFinite_scanExponent read
  · exact isFinite_scanExponent read
  · obtain ⟨y, assembled, same⟩ := bind_eq_ok_iff.1 read
    cases same
    exact isFinite_assemble assembled

theorem isFinite_scanFraction {minus : Bool} {digits : Nat} {e : Int} {cs rest : List Char}
    {x : Float} (read : scanFraction minus digits e cs = .ok (x, rest)) : x.isFinite = true := by
  unfold scanFraction at read
  split at read
  · cases read
  · split at read
    · exact isFinite_scanScaled read
    · cases read

theorem isFinite_scanLong {minus : Bool} {digits : Nat} {e : Int} {cs rest : List Char}
    {x : Float} (read : scanLong minus digits e cs = .ok (x, rest)) : x.isFinite = true := by
  induction cs generalizing e with
  | nil => exact isFinite_scanScaled read
  | cons c cs ih =>
    unfold scanLong at read
    split at read
    · exact ih read
    · split at read
      · exact isFinite_scanFraction read
      · exact isFinite_scanScaled read

/-- Whether the double of a number is finite. -/
def Number.IsFinite (number : Number) : Prop := (Measurement.Number.toFloat number).isFinite = true

theorem Number.isFinite_ofInteger (minus : Bool) (digits : Nat) :
    (Number.ofInteger minus digits).IsFinite := by
  unfold Number.ofInteger
  split
  · exact Double.isFinite_word _
  · split
    · exact Double.isFinite_neg (Double.isFinite_word _)
    · exact Double.isFinite_neg (Double.isFinite_word _)

theorem isFinite_scanAfterWhole {minus : Bool} {digits : Nat} {cs rest : List Char}
    {number : Number} (read : scanAfterWhole minus digits cs = .ok (number, rest)) :
    number.IsFinite := by
  unfold scanAfterWhole at read
  split at read
  · obtain ⟨⟨x, rest'⟩, scanned, same⟩ := map_eq_ok_iff.1 read
    cases same
    exact isFinite_scanFraction scanned
  · obtain ⟨⟨x, rest'⟩, scanned, same⟩ := map_eq_ok_iff.1 read
    cases same
    exact isFinite_scanExponent scanned
  · obtain ⟨⟨x, rest'⟩, scanned, same⟩ := map_eq_ok_iff.1 read
    cases same
    exact isFinite_scanExponent scanned
  · cases read
    exact Number.isFinite_ofInteger _ _

theorem isFinite_scanWhole {minus : Bool} {digits : Nat} {cs rest : List Char} {number : Number}
    (read : scanWhole minus digits cs = .ok (number, rest)) : number.IsFinite := by
  induction cs generalizing digits with
  | nil => exact isFinite_scanAfterWhole read
  | cons c cs ih =>
    unfold scanWhole at read
    split at read
    · split at read
      · obtain ⟨⟨x, rest'⟩, scanned, same⟩ := map_eq_ok_iff.1 read
        cases same
        exact isFinite_scanLong scanned
      · exact ih read
    · exact isFinite_scanAfterWhole read

/-- **Only finite numbers.** A numeral that is read denotes a finite double. -/
theorem isFinite_of_scanNumeral? {cs rest : List Char} {number : Number}
    (read : scanNumeral? cs = some (.ok (number, rest))) : number.IsFinite := by
  have unsigned : ∀ {minus : Bool} {cs : List Char},
      scanUnsigned minus cs = .ok (number, rest) → number.IsFinite := by
    intro minus cs read
    unfold scanUnsigned at read
    split at read
    · cases read
    · split at read
      · split at read
        · exact isFinite_scanAfterWhole read
        · split at read
          · cases read
          · exact isFinite_scanAfterWhole read
      · split at read
        · exact isFinite_scanWhole read
        · cases read
  unfold scanNumeral? at read
  split at read
  · cases read
  · split at read
    · exact unsigned (Option.some.inj read)
    · split at read
      · exact unsigned (Option.some.inj read)
      · cases read

end Timings.Json
