import Timings.Proofs.Nearest
import Timings.Proofs.Notation
import Timings.Proofs.Represented
import Timings.Proofs.Scaling

/-!
Doubles without a minus.

What is no NaN is a sign and a pattern up to that of infinity (`exists_toFloat`). Unsigned
doubles are those without a minus, infinity among them. Their sums and roots are unsigned
again, and so is the square of any number: an overflow gives infinity, and no other infinity is
there to undo it. Only a difference of them can be no number, that of two infinities
(`isNaN_sub_iff`).
-/

namespace Timings.Double

open Float.Model (Format UnpackedFloat totalExponent)
open Float.Model.UnpackedFloat (Sign)
open Pattern (Canonical infinity nearest toFloat units)

/-! ## Numbers by sign and pattern -/

theorem unpack_infinity (negative : Bool) :
    (toFloat negative infinity).toModel.unpack = .infinity (signOf negative) := by
  cases negative <;> rfl

theorem ofModel_pack_infinity (negative : Bool) :
    Float.ofModel (Float.Model.pack (.infinity (signOf negative))) = toFloat negative infinity := by
  have packed := @ofModel_pack (.infinity (signOf negative)) (signOf negative) (-1#11) 0#52 rfl
  rw [isMinus_signOf] at packed
  exact packed

/-- A pattern up to that of infinity as a number: it is zero, has a mantissa and an exponent,
or is infinite. -/
theorem unpack_cases (negative : Bool) {b : Nat} (within : b ≤ infinity) :
    b = 0 ∧ (toFloat negative b).toModel.unpack = .zero (signOf negative) ∨
      (∃ m e pos, (toFloat negative b).toModel.unpack =
          .finite (signOf negative) m ((e : Nat) - 1074) pos ∧
        Canonical m e ∧ b = m + e * 2 ^ 52) ∨
      b = infinity ∧ (toFloat negative b).toModel.unpack = .infinity (signOf negative) := by
  rcases Nat.lt_or_eq_of_le within with finite | rfl
  · rcases unpack_toFloat negative finite with zero | nonzero
    · exact .inl zero
    · exact .inr (.inl nonzero)
  · exact .inr (.inr ⟨rfl, unpack_infinity negative⟩)

/-- A double whose pattern is not beyond infinity is a number. -/
theorem isNaN_toFloat (negative : Bool) {b : Nat} (within : b ≤ infinity) :
    (toFloat negative b).isNaN = false := by
  unfold Float.isNaN Float.Model.isNaN
  rcases unpack_cases negative within with ⟨-, zero⟩ | ⟨m, e, pos, unpacked, -, -⟩ | ⟨-, top⟩
  · rw [zero]
    rfl
  · rw [unpacked]
    rfl
  · rw [top]
    rfl

theorem ofFloat_le_infinity {x : Float} (number : x.isNaN = false) :
    Pattern.ofFloat x ≤ infinity := by
  by_cases finite : x.isFinite = true
  · exact Nat.le_of_lt (Pattern.ofFloat_lt_infinity finite)
  · -- all bits of the exponent are set, and none of the mantissa
    have exponent : @UnpackedFloat.unpackExponent Format.binary64 x.toBits.toBitVec = -1#_ := by
      by_contra other
      exact finite (isFinite_unpack_iff.2 other)
    have mantissa : @UnpackedFloat.unpackMantissa Format.binary64 x.toBits.toBitVec = 0#_ := by
      by_contra other
      have none : x.isNaN = true := isNaN_unpack_iff.2 ⟨exponent, other⟩
      rw [number] at none
      cases none
    have low : x.toBits.toNat % 2 ^ 52 = 0 := by
      have bits := congrArg BitVec.toNat mantissa
      unfold UnpackedFloat.unpackMantissa at bits
      rw [BitVec.toNat_cast, BitVec.extractLsb_toNat] at bits
      exact bits
    have limit : infinity = 2047 * 2 ^ 52 := rfl
    unfold Pattern.ofFloat Pattern.signBit
    omega

/-- What is no NaN is a sign and a pattern up to that of infinity. -/
theorem exists_toFloat {x : Float} (number : x.isNaN = false) :
    ∃ negative, ∃ b ≤ infinity, x = toFloat negative b :=
  ⟨_, _, ofFloat_le_infinity number, (Pattern.toFloat_ofFloat x).symm⟩

theorem exists_toFloat_of_isFinite {x : Float} (finite : x.isFinite = true) :
    ∃ negative, ∃ b < infinity, x = toFloat negative b :=
  ⟨_, _, Pattern.ofFloat_lt_infinity finite, (Pattern.toFloat_ofFloat x).symm⟩

theorem isFinite_toFloat (negative : Bool) {b : Nat} (finite : b < infinity) :
    (toFloat negative b).isFinite = true :=
  isFinite_of_not_isInf (isNaN_toFloat negative (Nat.le_of_lt finite))
    (isInf_toFloat negative finite)

/-- A number is infinite when its pattern is that of infinity. -/
theorem isInf_toFloat_iff (negative : Bool) {b : Nat} (within : b ≤ infinity) :
    (toFloat negative b).isInf = true ↔ b = infinity := by
  rcases Nat.lt_or_eq_of_le within with finite | rfl
  · rw [isInf_toFloat negative finite]
    exact iff_of_false Bool.false_ne_true (Nat.ne_of_lt finite)
  · refine iff_of_true ?_ rfl
    unfold Float.isInf Float.Model.isInf
    rw [unpack_infinity]
    rfl

/-- The side of zero on which a number stands, by its sign. Only the zeros stand there. -/
theorem exists_rank_toFloat (negative : Bool) {b : Nat} (within : b ≤ infinity) :
    ∃ side inner, Ranked.rank (toFloat negative b) = some (toLex (side, inner)) ∧
      (if negative then side ≤ 0 else 0 ≤ side) ∧ (side = 0 → inner = toLex (0, 0)) := by
  change ∃ side inner, place (toFloat negative b).toModel.unpack = some (toLex (side, inner)) ∧ _
  rcases unpack_cases negative within with ⟨-, zero⟩ | ⟨m, e, pos, unpacked, -, -⟩ | ⟨-, top⟩
  · rw [zero]
    refine ⟨0, _, rfl, ?_, fun _ => rfl⟩
    cases negative <;> decide
  · rw [unpacked]
    cases negative with
    | false => exact ⟨1, _, rfl, by decide, (absurd · (by decide))⟩
    | true => exact ⟨-1, _, rfl, by decide, (absurd · (by decide))⟩
  · rw [top]
    cases negative with
    | false => exact ⟨2, _, rfl, by decide, by decide⟩
    | true => exact ⟨-2, _, rfl, by decide, by decide⟩

/-! ## Doubles without a minus -/

/-- A number without a minus, which may be infinite. -/
def Unsigned (x : Float) : Prop := ∃ b ≤ infinity, x = toFloat false b

theorem rank_zero : Ranked.rank (Scalar.ofNat 0 : Float) = some (toLex (0, toLex (0, 0))) := by
  decide +kernel

namespace Unsigned

variable {x y : Float}

theorem zero : Unsigned (Scalar.ofNat 0) := ⟨0, Nat.zero_le _, by decide +kernel⟩

theorem isNaN (unsigned : Unsigned x) : x.isNaN = false := by
  obtain ⟨b, within, rfl⟩ := unsigned
  exact isNaN_toFloat false within

/-- No number without a minus is below zero. -/
theorem zero_le (unsigned : Unsigned x) : 0 ≤ x := by
  obtain ⟨b, within, rfl⟩ := unsigned
  obtain ⟨side, inner, here, above, origin⟩ := exists_rank_toFloat false within
  refine le_iff_rank.2 ⟨_, _, rank_zero, here, Prod.Lex.toLex_le_toLex.2 ?_⟩
  rcases eq_or_lt_of_le (above : 0 ≤ side) with same | beyond
  · exact .inr ⟨same, (origin same.symm).ge⟩
  · exact .inl beyond

/-- What is above zero is a number without a minus. -/
theorem of_pos (above : Scalar.less (Scalar.ofNat 0) x = true) : Unsigned x := by
  obtain ⟨start, place, zero, here, less⟩ := (Ranked.less_iff _ _).1 above
  obtain ⟨negative, b, within, rfl⟩ := exists_toFloat (isNaN_of_rank here)
  cases negative with
  | false => exact ⟨b, within, rfl⟩
  | true =>
      obtain ⟨side, inner, there, below, origin⟩ := exists_rank_toFloat true within
      rw [rank_zero] at zero
      rw [there] at here
      cases zero
      cases here
      rcases Prod.Lex.toLex_lt_toLex.1 less with beyond | ⟨same, behind⟩
      · exact absurd (below : side ≤ 0) (not_le.2 beyond)
      · rw [origin same.symm] at behind
        exact absurd behind (lt_irrefl _)

end Unsigned

/-! ## Sums -/

theorem signOf_false : signOf false = .positive := rfl

/-- An unpacked number without a minus. -/
def Plus : UnpackedFloat → Prop
  | .notANumber => False
  | .infinity s | .zero s | .finite s _ _ _ => s = .positive

theorem plus_toFloat {b : Nat} (within : b ≤ infinity) : Plus (toFloat false b).toModel.unpack := by
  rcases unpack_cases false within with ⟨-, zero⟩ | ⟨m, e, pos, unpacked, -, -⟩ | ⟨-, top⟩
  · rw [zero]
    rfl
  · rw [unpacked]
    rfl
  · rw [top]
    rfl

theorem plus_roundWithAccuracy (m : Nat) (e : Int) (accuracy : UnpackedFloat.Accuracy) :
    Plus (UnpackedFloat.roundWithAccuracy Format.binary64 .positive m e accuracy) := by
  rcases roundWithAccuracy_eq_zero_or_finite .positive m e accuracy with
    zero | ⟨m', pos, rounded⟩
  · rw [zero]
    rfl
  · rw [rounded]
    rfl

section Neutral

variable {u : UnpackedFloat}

theorem Plus.zero_add (plus : Plus u) :
    UnpackedFloat.add Format.binary64 (.zero .positive) u = u := by
  cases u with
  | notANumber => exact plus.elim
  | infinity s => rfl
  | zero s =>
    cases plus
    rfl
  | finite s m e pos => rfl

theorem Plus.add_zero (plus : Plus u) :
    UnpackedFloat.add Format.binary64 u (.zero .positive) = u := by
  cases u with
  | notANumber => exact plus.elim
  | infinity s => rfl
  | zero s =>
    cases plus
    rfl
  | finite s m e pos => rfl

theorem Plus.infinity_add (plus : Plus u) :
    UnpackedFloat.add Format.binary64 (.infinity .positive) u = .infinity .positive := by
  cases u with
  | notANumber => exact plus.elim
  | infinity s =>
    cases plus
    rfl
  | zero s => rfl
  | finite s m e pos => rfl

end Neutral

theorem ofModel_pack_unpack (x : Float) :
    Float.ofModel (Float.Model.pack x.toModel.unpack) = x := by
  obtain ⟨bits, valid⟩ := x
  have same := UnpackedFloat.pack_unpack_of_valid valid
  unfold Float.Model.pack Float.Model.unpack
  simp only [same]

/-- Steps of two mantissas with the smaller of their exponents. -/
theorem ofModel_add_finite {m e m' e' : Nat} (pos : 0 < m) (pos' : 0 < m') :
    Float.ofModel (Float.Model.pack (UnpackedFloat.add Format.binary64
        (.finite .positive m ((e : Int) - 1074) pos)
        (.finite .positive m' ((e' : Int) - 1074) pos'))) =
      toFloat false (nearest (m * 2 ^ e + m' * 2 ^ e') 1) := by
  unfold UnpackedFloat.add UnpackedFloat.decreaseExponent
  dsimp only
  generalize least : min ((e : Int) - 1074) ((e' : Int) - 1074) = t
  generalize first : ((e : Int) - 1074 - t).toNat = k
  generalize second : ((e' : Int) - 1074 - t).toNat = k'
  have mantissa : Sign.positive.apply ((m <<< k : Nat) : Int) +
      Sign.positive.apply ((m' <<< k' : Nat) : Int) = ((m <<< k + m' <<< k' : Nat) : Int) := rfl
  rw [mantissa, ofModel_normalize]
  refine congrArg (toFloat _) ?_
  have exact : (-(t + 1074)).toNat = 0 := by omega
  have place : k + (t + 1074).toNat = e := by omega
  have place' : k' + (t + 1074).toNat = e' := by omega
  rw [exact, Nat.pow_zero, Nat.shiftLeft_eq, Nat.shiftLeft_eq, Nat.add_mul, Nat.mul_assoc,
    Nat.mul_assoc, ← Nat.pow_add, ← Nat.pow_add, place, place']

theorem nearest_units {b : Nat} (within : b ≤ infinity) : nearest (units b) 1 = b := by
  have rounded := Pattern.nearest_units_mul within Nat.one_pos
  rwa [Nat.mul_one] at rounded

theorem units_zero : units 0 = 0 := rfl

/-- **Sums.** A sum of numbers without a minus is rounded once from the exact number of
steps, and overflows to infinity. -/
theorem toFloat_add {b c : Nat} (within : b ≤ infinity) (within' : c ≤ infinity) :
    toFloat false b + toFloat false c = toFloat false (nearest (units b + units c) 1) := by
  have overflow {b c : Nat} (infinite : b = infinity ∨ c = infinity) :
      nearest (units b + units c) 1 = infinity := by
    apply Pattern.nearest_eq_infinity Nat.one_pos
    rcases infinite with rfl | rfl <;> omega
  change Float.ofModel (Float.Model.pack (UnpackedFloat.add Format.binary64
    (toFloat false b).toModel.unpack (toFloat false c).toModel.unpack)) = _
  have plus := plus_toFloat within
  have plus' := plus_toFloat within'
  rcases unpack_cases false within with
    ⟨rfl, zero⟩ | ⟨m, e, pos, unpacked, canonical, whole⟩ | ⟨infinite, top⟩
  · rw [units_zero, Nat.zero_add, nearest_units within', zero, signOf_false,
      plus'.zero_add]
    exact ofModel_pack_unpack _
  · rcases unpack_cases false within' with
      ⟨rfl, zero'⟩ | ⟨m', e', pos', unpacked', canonical', whole'⟩ | ⟨infinite', top'⟩
    · rw [units_zero, Nat.add_zero, nearest_units within, zero', signOf_false,
        plus.add_zero]
      exact ofModel_pack_unpack _
    · rw [unpacked, unpacked', whole, whole', units_canonical canonical,
        units_canonical canonical']
      exact ofModel_add_finite pos pos'
    · rw [overflow (.inr infinite'), unpacked, top']
      exact ofModel_pack_infinity false
  · rw [overflow (.inl infinite), top, signOf_false, plus'.infinity_add]
    exact ofModel_pack_infinity false

theorem isNaN_normalize (m : Int) (e : Int) (s : Sign) :
    (UnpackedFloat.normalize Format.binary64 m e s).isNaN = false := by
  unfold UnpackedFloat.normalize
  split
  · exact isNaN_roundWithAccuracy _ _ _ _
  · rfl
  · exact isNaN_roundWithAccuracy _ _ _ _

/-- A finite number added to a number gives a number, whatever their signs. -/
theorem isNaN_add {x y : Float} (number : x.isNaN = false) (finite : y.isFinite = true) :
    (x + y).isNaN = false := by
  have number : x.toModel.unpack.isNaN = false := number
  have range : InRange y.toModel.unpack := inRange_unpack finite
  refine isNaN_pack ?_
  generalize x.toModel.unpack = u at number
  generalize y.toModel.unpack = v at range
  cases v with
  | notANumber => exact range.elim
  | infinity s' => exact range.elim
  | zero s' =>
    cases u with
    | notANumber => cases number
    | infinity s => rfl
    | zero s => cases s <;> cases s' <;> rfl
    | finite s m e pos => rfl
  | finite s' m' e' pos' =>
    cases u with
    | notANumber => cases number
    | infinity s => rfl
    | zero s => rfl
    | finite s m e pos => exact isNaN_normalize _ _ _

/-! ## Counts -/

theorem exists_units_eq_stepsOfOne : ∃ b < infinity, units b = stepsOfOne := by
  obtain ⟨b, finite, one⟩ := @Pattern.exists_units_eq 1 (by decide)
  rw [Nat.one_mul] at one
  exact ⟨b, finite, one⟩

theorem stepsOfOne_le_units_infinity : stepsOfOne ≤ units infinity := by
  obtain ⟨b, finite, one⟩ := exists_units_eq_stepsOfOne
  rw [← one]
  exact Pattern.units_le_iff.2 (Nat.le_of_lt finite)

/-- A natural number that is too long for a mantissa is rounded from its digits. -/
theorem ofNat_of_long {n : Nat} (long : 2 ^ 53 ≤ n) :
    (Scalar.ofNat n : Float) = toFloat false (nearest (n * stepsOfOne) 1) := by
  have bits : (2 : Int) ^ Format.binary64.exponentBits = 2048 := rfl
  change Float.ofScientific n false 0 = _
  unfold Float.ofScientific
  rw [dif_neg (by omega)]
  change Float.ofModel (Float.Model.pack (UnpackedFloat.ofScientific Format.binary64 n 0)) = _
  unfold UnpackedFloat.ofScientific
  rw [dif_neg (by omega), if_neg (by decide), if_neg (by omega), if_pos (by decide)]
  unfold UnpackedFloat.mul
  dsimp only
  have full : 2 ^ 52 ≤ n <<< 53 * 10 ^ (0 : Int).toNat := by
    rw [Nat.shiftLeft_eq, Int.toNat_zero, Nat.pow_zero, Nat.mul_one]
    omega
  have rounded := ofModel_roundWithAccuracy (e := -53 + 0) (.positive * .positive) Nat.one_pos
    (approximates_exact (n <<< 53 * 10 ^ (0 : Int).toNat)) (.inl full)
  refine rounded.trans (congrArg (toFloat _) (Pattern.nearest_congr
    (Nat.mul_pos Nat.one_pos (Nat.two_pow_pos _)) Nat.one_pos ?_))
  have powers : 2 ^ 53 * 2 ^ ((-53 + 0 : Int) + 1074).toNat =
      stepsOfOne * 2 ^ (-((-53 + 0 : Int) + 1074)).toNat := by
    have places := places_eq
    rw [stepsOfOne, ← Nat.pow_add, ← Nat.pow_add]
    congr 1
    omega
  rw [Nat.shiftLeft_eq, Int.toNat_zero, Nat.pow_zero, Nat.mul_one, Nat.mul_one, Nat.one_mul,
    Nat.mul_assoc, powers, Nat.mul_assoc]

/-- A natural number as a double is the pattern nearest to it. -/
theorem ofNat_eq_nearest (n : Nat) :
    (Scalar.ofNat n : Float) = toFloat false (nearest (n * stepsOfOne) 1) := by
  by_cases short : n < 2 ^ 53
  · have word : n < 2 ^ 64 := by omega
    obtain ⟨power, -⟩ := Json.pattern_tenTo_bounds (Nat.zero_le 308)
    have finite : nearest (n * stepsOfOne) 1 < infinity := by
      obtain ⟨b, finite, steps⟩ := Pattern.exists_units_eq (Nat.le_of_lt short)
      rw [← steps, nearest_units (Nat.le_of_lt finite)]
      exact finite
    have one : Float.ofBits 4607182418800017408 =
        toFloat false (Decimal.pattern ⟨1, (0 : Nat)⟩) := by
      decide +kernel
    change Float.ofScientific n false 0 = _
    unfold Float.ofScientific
    rw [dif_pos ⟨short, Nat.zero_le 22⟩, if_neg Bool.false_ne_true]
    change (UInt64.ofNat n).toFloat * Float.ofBits 4607182418800017408 = _
    rw [one, Json.toFloat_ofNat word, toFloat_mul false false finite power,
      Json.units_tenTo (Nat.zero_le 22), Nat.pow_zero, Nat.one_mul,
      Pattern.nearest_units_mul (Nat.le_of_lt finite) stepsOfOne_pos]
    rfl
  · exact ofNat_of_long (Nat.le_of_not_lt short)

/-- A count of values, which fits a word, is finite and at least one as a double. -/
theorem nearest_count {n : Nat} (some_value : 0 < n) (word : n < 2 ^ 64) :
    nearest (n * stepsOfOne) 1 < infinity ∧ stepsOfOne ≤ units (nearest (n * stepsOfOne) 1) := by
  constructor
  · have bits := places_eq
    refine @Pattern.nearest_lt_infinity _ _ (63 + places) ?_ (by omega)
    rw [Nat.div_one, Nat.add_right_comm, Nat.pow_add]
    exact Nat.mul_lt_mul_of_pos_right word stepsOfOne_pos
  · obtain ⟨one, finite, steps⟩ := exists_units_eq_stepsOfOne
    rw [← steps, Pattern.units_le_iff]
    apply Pattern.le_nearest (Nat.le_of_lt finite) Nat.one_pos
    rw [steps, Nat.mul_one]
    exact Nat.le_mul_of_pos_left stepsOfOne some_value

theorem exists_count {n : Nat} (some_value : 0 < n) (word : n < 2 ^ 64) :
    ∃ c < infinity, stepsOfOne ≤ units c ∧ (Scalar.ofNat n : Float) = toFloat false c :=
  ⟨_, (nearest_count some_value word).1, (nearest_count some_value word).2, ofNat_eq_nearest n⟩

/-! ## Squares, quotients by a count, and roots -/

/-- **Squares.** The square of a number has no minus. It is rounded once from the exact number
of steps, and overflows to infinity. -/
theorem toFloat_square (negative : Bool) {b : Nat} (within : b ≤ infinity) :
    toFloat negative b * toFloat negative b =
      toFloat false (nearest (units b * units b) stepsOfOne) := by
  rcases Nat.lt_or_eq_of_le within with finite | rfl
  · rw [toFloat_mul negative negative finite finite, Bool.xor_self]
  · rw [Pattern.nearest_eq_infinity stepsOfOne_pos
      (Nat.mul_le_mul_left _ stepsOfOne_le_units_infinity)]
    change Float.ofModel (Float.Model.pack (UnpackedFloat.mul Format.binary64
      (toFloat negative infinity).toModel.unpack (toFloat negative infinity).toModel.unpack)) = _
    rw [unpack_infinity, ← ofModel_pack_infinity]
    cases negative <;> rfl

/-- A quotient by at least one has the sign of the dividend and is no larger, but what is
infinite stays so. -/
theorem exists_quotient (negative : Bool) {b c : Nat} (within : b ≤ infinity)
    (finite : c < infinity) (least : stepsOfOne ≤ units c) :
    ∃ q ≤ b, toFloat negative b / toFloat false c = toFloat negative q ∧
      (b = infinity → q = infinity) := by
  have nonzero : c ≠ 0 := by
    rintro rfl
    exact absurd least (Nat.not_le_of_gt stepsOfOne_pos)
  rcases Nat.lt_or_eq_of_le within with below | rfl
  · refine ⟨nearest (units b * stepsOfOne) (units c),
      Pattern.nearest_le (Pattern.units_pos nonzero) (Nat.mul_le_mul_left _ least), ?_,
      fun infinite => absurd infinite (Nat.ne_of_lt below)⟩
    rw [toFloat_div negative false below finite nonzero, Bool.xor_false]
  · refine ⟨infinity, Nat.le_refl _, ?_, fun _ => rfl⟩
    change Float.ofModel (Float.Model.pack (UnpackedFloat.div Format.binary64
      (toFloat negative infinity).toModel.unpack (toFloat false c).toModel.unpack)) = _
    rcases unpack_toFloat false finite with ⟨rfl, -⟩ | ⟨m, e, pos, unpacked, -, -⟩
    · exact absurd rfl nonzero
    · rw [unpacked, unpack_infinity, ← ofModel_pack_infinity]
      cases negative <;> rfl

theorem exists_quotient_count (negative : Bool) {b n : Nat} (within : b ≤ infinity)
    (some_value : 0 < n) (word : n < 2 ^ 64) :
    ∃ q ≤ b, toFloat negative b / Scalar.ofNat n = toFloat negative q ∧
      (b = infinity → q = infinity) := by
  obtain ⟨c, finite, least, count⟩ := exists_count some_value word
  rw [count]
  exact exists_quotient negative within finite least

theorem isNaN_div_count {x : Float} {n : Nat} (number : x.isNaN = false) (some_value : 0 < n)
    (word : n < 2 ^ 64) : (x / Scalar.ofNat n).isNaN = false := by
  obtain ⟨negative, b, within, rfl⟩ := exists_toFloat number
  obtain ⟨q, less, quotient, -⟩ := exists_quotient_count negative within some_value word
  rw [quotient]
  exact isNaN_toFloat negative (Nat.le_trans less within)

theorem isNaN_sub_unpacked {u v : UnpackedFloat} (number : u.isNaN = false)
    (number' : v.isNaN = false) (finite : InRange u ∨ InRange v) :
    (UnpackedFloat.sub Format.binary64 u v).isNaN = false := by
  cases u with
  | notANumber => cases number
  | infinity s =>
    cases v with
    | notANumber => cases number'
    | infinity s' => exact (finite.elim id id).elim
    | zero s' => rfl
    | finite s' m' e' pos' => rfl
  | zero s =>
    cases v with
    | notANumber => cases number'
    | infinity s' => rfl
    | zero s' => cases s <;> cases s' <;> rfl
    | finite s' m' e' pos' => rfl
  | finite s m e pos =>
    cases v with
    | notANumber => cases number'
    | infinity s' => rfl
    | zero s' => rfl
    | finite s' m' e' pos' => exact isNaN_normalize _ _ _

/-- One infinity taken from another is no number, and any other difference is one. -/
theorem isNaN_sub_iff {b c : Nat} (within : b ≤ infinity) (within' : c ≤ infinity) :
    (toFloat false b - toFloat false c).isNaN = true ↔ b = infinity ∧ c = infinity := by
  by_cases both : b = infinity ∧ c = infinity
  · refine iff_of_true ?_ both
    rw [both.1, both.2]
    decide +kernel
  · have finite : InRange (toFloat false b).toModel.unpack ∨
        InRange (toFloat false c).toModel.unpack := by
      rcases Nat.lt_or_eq_of_le within with below | infinite
      · exact .inl (inRange_unpack (isFinite_toFloat false below))
      · have below : c < infinity := by omega
        exact .inr (inRange_unpack (isFinite_toFloat false below))
    have number : (toFloat false b - toFloat false c).isNaN = false :=
      isNaN_pack (isNaN_sub_unpacked (isNaN_toFloat false within) (isNaN_toFloat false within')
        finite)
    rw [number]
    exact iff_of_false Bool.false_ne_true both

namespace Unsigned

variable {x y : Float}

theorem add (unsigned : Unsigned x) (unsigned' : Unsigned y) : Unsigned (x + y) := by
  obtain ⟨b, within, rfl⟩ := unsigned
  obtain ⟨c, within', rfl⟩ := unsigned'
  exact ⟨_, Pattern.nearest_le_infinity _ _, toFloat_add within within'⟩

theorem square (number : x.isNaN = false) : Unsigned (x * x) := by
  obtain ⟨negative, b, within, rfl⟩ := exists_toFloat number
  exact ⟨_, Pattern.nearest_le_infinity _ _, toFloat_square negative within⟩

theorem of_packComponents {u : UnpackedFloat} {e : BitVec 11} {m : BitVec 52}
    (packed : UnpackedFloat.pack Format.binary64 u =
      UnpackedFloat.packComponents Format.binary64 .positive e m)
    (within : e.toNat ≤ 2046) : Unsigned (Float.ofModel (Float.Model.pack u)) := by
  have limit : infinity = 2047 * 2 ^ 52 := rfl
  have mantissa := m.isLt
  have bits := ofModel_pack packed
  rw [show isMinus .positive = false from rfl] at bits
  exact ⟨_, by omega, bits⟩

theorem of_pack_finite (m : Nat) (e : Int) (pos : 0 < m) :
    Unsigned (Float.ofModel (Float.Model.pack (.finite .positive m e pos))) := by
  have packed := pack_finite .positive m e pos
  by_cases large : 971 < e
  · rw [if_pos large] at packed
    exact ⟨infinity, Nat.le_refl _, @ofModel_pack _ .positive (-1#11) 0#52 packed⟩
  · rw [if_neg large] at packed
    split at packed
    · refine of_packComponents packed ?_
      rw [BitVec.toNat_ofNat]
      exact Nat.le_trans (Nat.mod_le _ _) (by omega)
    · exact of_packComponents packed (Nat.zero_le _)

theorem of_plus {u : UnpackedFloat} (plus : Plus u) :
    Unsigned (Float.ofModel (Float.Model.pack u)) := by
  cases u with
  | notANumber => exact plus.elim
  | infinity s =>
    cases plus
    exact ⟨infinity, Nat.le_refl _, ofModel_pack_infinity false⟩
  | zero s =>
    cases plus
    exact ⟨0, Nat.zero_le _, ofModel_pack_zero _⟩
  | finite s m e pos =>
    cases plus
    exact of_pack_finite m e pos

theorem sqrt (unsigned : Unsigned x) : Unsigned (Scalar.sqrt x) := by
  obtain ⟨b, within, rfl⟩ := unsigned
  have plus := plus_toFloat within
  apply of_plus
  generalize (toFloat false b).toModel.unpack = u at plus
  cases u with
  | notANumber => exact plus.elim
  | infinity s =>
    cases plus
    rfl
  | zero s => exact plus
  | finite s m e pos =>
    cases plus
    exact plus_roundWithAccuracy _ _ _

end Unsigned

end Timings.Double
