import Timings.Proofs.Rounding

/-!
Arithmetic on doubles, by their patterns.

A finite double is worth the steps of its pattern. A product, a quotient and a word as a
double are the patterns nearest to the exact number of steps (`toFloat_mul`, `toFloat_div`,
`toFloat_word`); a minus in front changes the sign alone (`neg_toFloat`).
-/

namespace Timings.Double

open Float.Model (Format UnpackedFloat totalExponent)
open Float.Model.UnpackedFloat (Sign)
open Pattern (Canonical infinity nearest toFloat units)

/-! ## Patterns, unpacked -/

/-- The sign of a double, minus or not. -/
def signOf (negative : Bool) : Sign := if negative then .negative else .positive

theorem isMinus_signOf (negative : Bool) : isMinus (signOf negative) = negative := by
  cases negative <;> rfl

theorem exists_canonical (b : Nat) : ∃ m e, Canonical m e ∧ b = m + e * 2 ^ 52 := by
  by_cases small : b < 2 ^ 52
  · exact ⟨b, 0, ⟨by omega, .inl rfl⟩, by omega⟩
  · exact ⟨2 ^ 52 + b % 2 ^ 52, b / 2 ^ 52 - 1, ⟨by omega, .inr (by omega)⟩, by omega⟩

theorem finite_congr {s s' : Sign} {m m' : Nat} {e e' : Int} {pos : 0 < m} {pos' : 0 < m'}
    (sign : s = s') (mantissa : m = m') (exponent : e = e') :
    UnpackedFloat.finite s m e pos = .finite s' m' e' pos' := by
  subst sign mantissa exponent
  rfl

/-- A mantissa of 53 bits is stored without its first one. -/
theorem unpack_full (s : Sign) {m e : Nat} (low : 2 ^ 52 ≤ m) (bits : m < 2 ^ 53)
    (finite : e < 2046) (pos : 0 < m) :
    UnpackedFloat.unpack Format.binary64 (UnpackedFloat.packComponents Format.binary64 s
      (BitVec.ofNat 11 ((e : Int) - 1074 + 1075).toNat) (BitVec.ofNat 52 m)) =
        .finite s m (e - 1074) pos := by
  have stored : (BitVec.ofNat 11 ((e : Int) - 1074 + 1075).toNat).toNat = e + 1 := by
    rw [BitVec.toNat_ofNat, Nat.mod_eq_of_lt (by omega)]
    omega
  have differs : ∀ c : BitVec 11, e + 1 ≠ c.toNat →
      BitVec.ofNat 11 ((e : Int) - 1074 + 1075).toNat ≠ c := by
    rintro c other rfl
    exact other stored.symm
  have ones := differs (-1#11) (by change e + 1 ≠ 2047; omega)
  have zeros := differs 0#11 (by change e + 1 ≠ 0; omega)
  have leading : (1#1 ++ BitVec.ofNat 52 m).toNat = m := by
    rw [BitVec.toNat_append, ← Nat.shiftLeft_add_eq_or_of_lt (BitVec.isLt _), Nat.shiftLeft_eq,
      BitVec.toNat_ofNat]
    change 1 * 2 ^ 52 + m % 2 ^ 52 = m
    omega
  have bias : ((Format.binary64.exponentBias : Int) + (52 : Nat)) = 1075 := rfl
  unfold UnpackedFloat.unpack
  simp only [UnpackedFloat.unpackExponent_packComponents,
    UnpackedFloat.unpackMantissa_packComponents, UnpackedFloat.unpackSign_packComponents,
    if_neg ones, if_neg zeros, UnpackedFloat.Sign.ofBitVec_toBitVec]
  refine finite_congr rfl leading ?_
  rw [stored, bias]
  omega

/-- A shorter mantissa is stored as it is, with the least exponent. -/
theorem unpack_short (s : Sign) {m : Nat} (high : m < 2 ^ 52) (pos : 0 < m) :
    UnpackedFloat.unpack Format.binary64 (UnpackedFloat.packComponents Format.binary64 s 0#11
      (BitVec.ofNat 52 m)) = .finite s m ((0 : Nat) - 1074) pos := by
  have stored : (BitVec.ofNat 52 m).toNat = m := by
    rw [BitVec.toNat_ofNat, Nat.mod_eq_of_lt high]
  have something : BitVec.ofNat 52 m ≠ 0#52 := by
    intro same
    have values := congrArg BitVec.toNat same
    rw [stored] at values
    change m = 0 at values
    omega
  unfold UnpackedFloat.unpack
  simp only [UnpackedFloat.unpackExponent_packComponents,
    UnpackedFloat.unpackMantissa_packComponents, UnpackedFloat.unpackSign_packComponents,
    UnpackedFloat.Sign.ofBitVec_toBitVec]
  rw [if_neg (by decide), if_pos trivial, dif_neg something]
  exact finite_congr rfl stored rfl

/-- Unpacking undoes packing, for a finite number whose mantissa is in place. -/
theorem unpack_pack_finite (s : Sign) {m e : Nat} (canonical : Canonical m e)
    (finite : m + e * 2 ^ 52 < infinity) (pos : 0 < m) :
    (Float.Model.pack (.finite s m (e - 1074) pos)).unpack = .finite s m (e - 1074) pos := by
  obtain ⟨bits, normal⟩ := canonical
  have infinity : infinity = 2047 * 2 ^ 52 := rfl
  change UnpackedFloat.unpack Format.binary64 (UnpackedFloat.pack Format.binary64 _) = _
  rw [pack_finite, if_neg (by omega)]
  by_cases full : m.log2 + 1 = 53
  · have low : 2 ^ 52 ≤ m := (Nat.le_log2 (by omega)).1 (by omega)
    rw [if_pos full]
    exact unpack_full s low bits (by omega) pos
  · have high : m < 2 ^ 52 := by
      have log2 := log2_le_of_lt (bits : m < 2 ^ (52 + 1))
      exact (Nat.log2_lt (by omega)).1 (by omega)
    obtain rfl : e = 0 := by omega
    rw [if_neg full]
    exact unpack_short s high pos

/-- A finite pattern as a number: it is zero, or it has a mantissa and an exponent. -/
theorem unpack_toFloat (negative : Bool) {b : Nat} (finite : b < infinity) :
    b = 0 ∧ (toFloat negative b).toModel.unpack = .zero (signOf negative) ∨
      ∃ m e pos, (toFloat negative b).toModel.unpack =
          .finite (signOf negative) m ((e : Nat) - 1074) pos ∧
        Canonical m e ∧ b = m + e * 2 ^ 52 := by
  obtain ⟨m, e, canonical, rfl⟩ := exists_canonical b
  rcases Nat.eq_zero_or_pos m with rfl | pos
  · obtain rfl : e = 0 := by
      have normal := canonical.normal
      omega
    have packed := ofModel_pack_zero (signOf negative)
    rw [isMinus_signOf] at packed
    refine .inl ⟨rfl, ?_⟩
    rw [Nat.zero_mul, Nat.add_zero, ← packed]
    exact UnpackedFloat.unpack_packedZero
  · have packed := ofModel_pack_finite (signOf negative) canonical pos
    rw [isMinus_signOf, Nat.min_eq_left (Nat.le_of_lt finite)] at packed
    refine .inr ⟨m, e, pos, ?_, canonical, rfl⟩
    rw [← packed]
    exact unpack_pack_finite _ canonical finite pos

theorem isInf_toFloat (negative : Bool) {b : Nat} (finite : b < infinity) :
    (toFloat negative b).isInf = false := by
  unfold Float.isInf Float.Model.isInf
  rcases unpack_toFloat negative finite with ⟨-, zero⟩ | ⟨m, e, pos, unpacked, -, -⟩
  · rw [zero]
    rfl
  · rw [unpacked]
    rfl

/-- The doubles from the pattern of eight on are at least eight. -/
theorem atLeastEight_toFloat {b : Nat} (large : 1026 * 2 ^ 52 ≤ b) (finite : b < infinity) :
    atLeastEight (toFloat false b) = true := by
  rcases unpack_toFloat false finite with ⟨rfl, -⟩ | ⟨m, e, pos, unpacked, canonical, rfl⟩
  · omega
  · obtain ⟨bits, normal⟩ := canonical
    have log2 : m.log2 = 52 := (Nat.log2_eq_iff (by omega)).2 ⟨by omega, bits⟩
    rw [atLeastEight, unpacked]
    refine decide_eq_true ?_
    rw [totalExponent, log2]
    omega

theorem units_canonical {m e : Nat} (canonical : Canonical m e) :
    units (m + e * 2 ^ 52) = m * 2 ^ e :=
  Pattern.units_mantissa (Nat.le_of_lt canonical.bits) canonical.normal

theorem nearest_zero {den : Nat} (positive : 0 < den) : nearest 0 den = 0 := by
  have rounded := Pattern.nearest_units_mul (Nat.zero_le infinity) positive
  have nothing : units 0 * den = 0 := Nat.zero_mul den
  rw [nothing] at rounded
  exact rounded

/-- The binary places of a step behind the point. They are kept apart from their number, so
that no power of it is computed. -/
@[irreducible]
def places : Nat := 1074

theorem places_eq : places = 1074 := by rw [places]

/-- The number of steps in one. -/
def stepsOfOne : Nat := 2 ^ places

theorem stepsOfOne_pos : 0 < stepsOfOne := Nat.two_pow_pos places

/-! ## Operations -/

theorem neg_toFloat (negative : Bool) {b : Nat} (finite : b < infinity) :
    -toFloat negative b = toFloat (!negative) b := by
  have sign : isMinus (-signOf negative) = !negative := by cases negative <;> rfl
  change Float.ofModel (Float.Model.pack (toFloat negative b).toModel.unpack.neg) = _
  rcases unpack_toFloat negative finite with ⟨rfl, zero⟩ | ⟨m, e, pos, unpacked, canonical, rfl⟩
  · rw [zero, ← sign]
    exact ofModel_pack_zero _
  · have packed := ofModel_pack_finite (-signOf negative) canonical pos
    rw [Nat.min_eq_left (Nat.le_of_lt finite), sign] at packed
    rw [unpacked, ← packed]
    rfl

/-- **Products.** A product is rounded once, from the exact number of steps. -/
theorem toFloat_mul (negative negative' : Bool) {b c : Nat} (finite : b < infinity)
    (finite' : c < infinity) :
    toFloat negative b * toFloat negative' c =
      toFloat (negative ^^ negative') (nearest (units b * units c) stepsOfOne) := by
  have sign : isMinus (signOf negative * signOf negative') = (negative ^^ negative') := by
    cases negative <;> cases negative' <;> rfl
  change Float.ofModel (Float.Model.pack (UnpackedFloat.mul Format.binary64
    (toFloat negative b).toModel.unpack (toFloat negative' c).toModel.unpack)) = _
  rcases unpack_toFloat negative finite with ⟨rfl, zero⟩ | ⟨m, e, pos, unpacked, canonical, rfl⟩
  · have nothing : units 0 * units c = 0 := Nat.zero_mul _
    rw [zero, nothing, nearest_zero stepsOfOne_pos, ← sign]
    rcases unpack_toFloat negative' finite' with ⟨-, zero'⟩ | ⟨m', e', pos', unpacked', -, -⟩
    · rw [zero']
      exact ofModel_pack_zero _
    · rw [unpacked']
      exact ofModel_pack_zero _
  rcases unpack_toFloat negative' finite' with
    ⟨rfl, zero'⟩ | ⟨m', e', pos', unpacked', canonical', rfl⟩
  · have nothing : units (m + e * 2 ^ 52) * units 0 = 0 := Nat.mul_zero _
    rw [unpacked, zero', nothing, nearest_zero stepsOfOne_pos, ← sign]
    exact ofModel_pack_zero _
  · have long : 2 ^ 52 ≤ m * m' ∨ (e : Int) - 1074 + (e' - 1074) ≤ -1074 := by
      have normal := canonical.normal
      have normal' := canonical'.normal
      by_cases large : 2 ^ 52 ≤ m
      · exact .inl (Nat.le_trans large (Nat.le_mul_of_pos_right m pos'))
      · by_cases large' : 2 ^ 52 ≤ m'
        · exact .inl (Nat.le_trans large' (Nat.le_mul_of_pos_left m' pos))
        · omega
    have rounded := ofModel_roundWithAccuracy (signOf negative * signOf negative')
      Nat.one_pos (approximates_exact (m * m')) long
    rw [unpacked, unpacked', UnpackedFloat.mul, rounded, sign, units_canonical canonical,
      units_canonical canonical']
    refine congrArg (toFloat _) (Pattern.nearest_congr
      (Nat.mul_pos Nat.one_pos (Nat.two_pow_pos _)) stepsOfOne_pos ?_)
    have powers : 2 ^ ((e : Int) - 1074 + (e' - 1074) + 1074).toNat * stepsOfOne =
        2 ^ e * 2 ^ e' * 2 ^ (-((e : Int) - 1074 + (e' - 1074) + 1074)).toNat := by
      have places := places_eq
      rw [stepsOfOne, ← Nat.pow_add, ← Nat.pow_add, ← Nat.pow_add]
      congr 1
      omega
    rw [Nat.mul_assoc, powers, Nat.one_mul]
    ac_rfl

/-- What is left of a division decides how twice the dividend is divided. -/
theorem approximates_quotient (m : Nat) {n : Nat} (positive : 0 < n) :
    Approximates (.ofMantissaAndAccuracy (m / n) (UnpackedFloat.accuracyOfFraction (m % n) n))
      m n := by
  have parts := Nat.div_add_mod m n
  have less := Nat.mod_lt m positive
  generalize m / n = q at *
  generalize m % n = r at *
  subst parts
  have doubled : ∀ {bit : Nat} {rest : Nat}, 2 * r = n * bit + rest → rest < n →
      2 * (n * q + r) / n = 2 * q + bit ∧ 2 * (n * q + r) % n = rest := by
    intro bit rest split small
    refine (Nat.div_mod_unique positive).2 ⟨?_, small⟩
    rw [Nat.mul_add n, Nat.mul_left_comm n 2 q]
    omega
  unfold UnpackedFloat.accuracyOfFraction
  by_cases zero : r = 0
  · obtain ⟨quotient, rest⟩ := @doubled 0 0 (by omega) positive
    rw [if_pos zero]
    exact ⟨quotient.symm, by rw [rest]; rfl⟩
  · rw [if_neg zero]
    rcases Nat.lt_trichotomy (2 * r) n with below | half | above
    · obtain ⟨quotient, rest⟩ := @doubled 0 (2 * r) (by omega) below
      have left : 2 * r ≠ 0 := by omega
      rw [Nat.compare_eq_lt.2 below]
      exact ⟨quotient.symm, by rw [rest, decide_eq_true left]; rfl⟩
    · obtain ⟨quotient, rest⟩ := @doubled 1 0 (by omega) positive
      rw [Nat.compare_eq_eq.2 half]
      exact ⟨quotient.symm, by rw [rest]; rfl⟩
    · obtain ⟨quotient, rest⟩ := @doubled 1 (2 * r - n) (by omega) (by omega)
      have left : 2 * r - n ≠ 0 := by omega
      rw [Nat.compare_eq_gt.2 above]
      exact ⟨quotient.symm, by rw [rest, decide_eq_true left]; rfl⟩

/-- The dividend is made long enough for the quotient to have all bits of a mantissa. -/
theorem quotient_long {m n shift : Nat} (some_bit : m ≠ 0) (positive : 0 < n)
    (enough : n.log2 + 53 ≤ m.log2 + shift) : 2 ^ 52 ≤ m <<< shift / n := by
  rw [Nat.le_div_iff_mul_le positive, Nat.shiftLeft_eq]
  calc 2 ^ 52 * n ≤ 2 ^ 52 * 2 ^ (n.log2 + 1) :=
        Nat.mul_le_mul_left _ (Nat.le_of_lt Nat.lt_log2_self)
    _ = 2 ^ (n.log2 + 53) := by rw [← Nat.pow_add, Nat.add_comm, Nat.add_assoc]
    _ ≤ 2 ^ (m.log2 + shift) := Nat.pow_le_pow_right (by decide) enough
    _ = 2 ^ m.log2 * 2 ^ shift := Nat.pow_add ..
    _ ≤ m * 2 ^ shift := Nat.mul_le_mul_right _ (Nat.log2_self_le some_bit)

/-- **Quotients.** A quotient by a number other than zero is rounded once as well. -/
theorem toFloat_div (negative negative' : Bool) {b c : Nat} (finite : b < infinity)
    (finite' : c < infinity) (nonzero : c ≠ 0) :
    toFloat negative b / toFloat negative' c =
      toFloat (negative ^^ negative') (nearest (units b * stepsOfOne) (units c)) := by
  have sign : isMinus (signOf negative / signOf negative') = (negative ^^ negative') := by
    cases negative <;> cases negative' <;> rfl
  change Float.ofModel (Float.Model.pack (UnpackedFloat.div Format.binary64
    (toFloat negative b).toModel.unpack (toFloat negative' c).toModel.unpack)) = _
  rcases unpack_toFloat negative' finite' with
    ⟨rfl, -⟩ | ⟨m', e', pos', unpacked', canonical', rfl⟩
  · exact absurd rfl nonzero
  rcases unpack_toFloat negative finite with ⟨rfl, zero⟩ | ⟨m, e, pos, unpacked, canonical, rfl⟩
  · have nothing : units 0 * stepsOfOne = 0 := Nat.zero_mul _
    rw [zero, unpacked', nothing, nearest_zero (Pattern.units_pos nonzero), ← sign]
    exact ofModel_pack_zero _
  · have some_bit : m ≠ 0 := Nat.ne_of_gt pos
    have divisor : 0 < m' * 2 ^ e' := Nat.mul_pos pos' (Nat.two_pow_pos e')
    rw [unpacked, unpacked', UnpackedFloat.div, UnpackedFloat.divCore,
      units_canonical canonical, units_canonical canonical', ← sign]
    dsimp only
    rw [targetExponent_eq, totalExponent, totalExponent]
    generalize target : min ((e : Int) - 1074 - (e' - 1074)) (max ((m.log2 : Int) + 1 +
      (e - 1074) - (m'.log2 + 1 + (e' - 1074)) - 53) (-1074)) = t
    generalize shift : ((e : Int) - 1074 - (e' - 1074) - t).toNat = k
    have long : 2 ^ 52 ≤ m <<< k / m' ∨ t ≤ -1074 := by
      by_cases least : t ≤ -1074
      · exact .inr least
      · exact .inl (quotient_long some_bit pos' (by omega))
    have rounded := ofModel_roundWithAccuracy (signOf negative / signOf negative') pos'
      (approximates_quotient (m <<< k) pos') long
    rw [rounded]
    refine congrArg (toFloat _) (Pattern.nearest_congr
      (Nat.mul_pos pos' (Nat.two_pow_pos _)) divisor ?_)
    have powers : 2 ^ k * 2 ^ (t + 1074).toNat * 2 ^ e' =
        2 ^ e * stepsOfOne * 2 ^ (-(t + 1074)).toNat := by
      have places := places_eq
      rw [stepsOfOne, ← Nat.pow_add, ← Nat.pow_add, ← Nat.pow_add, ← Nat.pow_add]
      congr 1
      omega
    rw [Nat.shiftLeft_eq]
    calc m * 2 ^ k * 2 ^ (t + 1074).toNat * (m' * 2 ^ e')
        = m * m' * (2 ^ k * 2 ^ (t + 1074).toNat * 2 ^ e') := by ac_rfl
      _ = m * m' * (2 ^ e * stepsOfOne * 2 ^ (-(t + 1074)).toNat) := by rw [powers]
      _ = m * 2 ^ e * stepsOfOne * (m' * 2 ^ (-(t + 1074)).toNat) := by ac_rfl

/-- A mantissa that is made long enough is rounded once. -/
theorem ofModel_round (s : Sign) {m : Nat} (nonzero : m ≠ 0) (e : Int) :
    Float.ofModel (Float.Model.pack (UnpackedFloat.round Format.binary64 s m e)) =
      toFloat (isMinus s) (nearest (m * 2 ^ (e + 1074).toNat) (2 ^ (-(e + 1074)).toNat)) := by
  unfold UnpackedFloat.round UnpackedFloat.decreaseExponent
  dsimp only
  rw [targetExponent_eq, totalExponent]
  generalize shift : (e - max ((m.log2 : Int) + 1 + e - 53) (-1074)).toNat = k
  have long : 2 ^ 52 ≤ m <<< k ∨ e - (k : Int) ≤ -1074 := by
    by_cases least : e - (k : Int) ≤ -1074
    · exact .inr least
    · refine .inl ?_
      rw [Nat.shiftLeft_eq]
      calc 2 ^ 52 ≤ 2 ^ (m.log2 + k) := Nat.pow_le_pow_right (by decide) (by omega)
        _ = 2 ^ m.log2 * 2 ^ k := Nat.pow_add ..
        _ ≤ m * 2 ^ k := Nat.mul_le_mul_right _ (Nat.log2_self_le nonzero)
  rw [ofModel_roundWithAccuracy s Nat.one_pos (approximates_exact (m <<< k)) long]
  refine congrArg (toFloat _) (Pattern.nearest_congr
    (Nat.mul_pos Nat.one_pos (Nat.two_pow_pos _)) (Nat.two_pow_pos _) ?_)
  have powers : 2 ^ k * 2 ^ (e - (k : Int) + 1074).toNat * 2 ^ (-(e + 1074)).toNat =
      2 ^ (e + 1074).toNat * 2 ^ (-(e - (k : Int) + 1074)).toNat := by
    rw [← Nat.pow_add, ← Nat.pow_add, ← Nat.pow_add]
    congr 1
    omega
  rw [Nat.shiftLeft_eq, Nat.one_mul]
  calc m * 2 ^ k * 2 ^ (e - (k : Int) + 1074).toNat * 2 ^ (-(e + 1074)).toNat
      = m * (2 ^ k * 2 ^ (e - (k : Int) + 1074).toNat * 2 ^ (-(e + 1074)).toNat) := by ac_rfl
    _ = m * (2 ^ (e + 1074).toNat * 2 ^ (-(e - (k : Int) + 1074)).toNat) := by rw [powers]
    _ = m * 2 ^ (e + 1074).toNat * 2 ^ (-(e - (k : Int) + 1074)).toNat := by ac_rfl

/-- A natural number of steps of any size is rounded once. -/
theorem ofModel_normalize (m : Nat) (e : Int) :
    Float.ofModel (Float.Model.pack
        (UnpackedFloat.normalize Format.binary64 (m : Int) e .positive)) =
      toFloat false (nearest (m * 2 ^ (e + 1074).toNat) (2 ^ (-(e + 1074)).toNat)) := by
  unfold UnpackedFloat.normalize
  split
  case h_1 less =>
    have negative := Int.compare_eq_lt.1 less
    omega
  case h_2 zero =>
    have nothing : m = 0 := by
      have value := Int.compare_eq_eq.1 zero
      omega
    rw [nothing, Nat.zero_mul, nearest_zero (Nat.two_pow_pos _)]
    exact ofModel_pack_zero _
  case h_3 above =>
    have positive : m ≠ 0 := by
      have value := Int.compare_eq_gt.1 above
      omega
    rw [Int.toNat_natCast]
    exact ofModel_round .positive positive e

/-- A word as a double is the pattern nearest to it. -/
theorem toFloat_word (n : UInt64) :
    n.toFloat = toFloat false (nearest (n.toNat * stepsOfOne) 1) := by
  have one : 2 ^ ((0 : Int) + 1074).toNat = stepsOfOne := by
    have places := places_eq
    rw [stepsOfOne]
    congr 1
    omega
  have rounded := ofModel_normalize n.toNat 0
  rw [one] at rounded
  exact rounded

end Timings.Double
