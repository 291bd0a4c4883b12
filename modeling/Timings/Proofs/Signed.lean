import Timings.Proofs.Clamped

/-!
# Doubles of either sign

A double with a sign is worth a whole number of steps, below zero with a minus (`steps`).
Numbers are ordered as their steps (`less_toFloat_iff`), infinities included, and a sum or a
difference of finite ones is rounded once from the exact number of steps (`toFloat_add_signed`,
`toFloat_sub_signed`). So two numbers that are equal differ at most in the sign of zero
(`eq_or_zero_of_beq`).
-/

namespace Timings.Double

open Float.Model (Format UnpackedFloat)
open Float.Model.UnpackedFloat (Sign)
open Pattern (Canonical infinity nearest toFloat units units_lt_iff)

variable {negative negative' : Bool} {b c : Nat}

/-! ## Steps with a sign -/

/-- The steps that a double with a sign is worth. -/
def steps (negative : Bool) (b : Nat) : Int := if negative then -(units b : Int) else units b

theorem steps_false (b : Nat) : steps false b = units b := rfl

theorem steps_true (b : Nat) : steps true b = -(units b : Int) := rfl

theorem natAbs_steps (negative : Bool) (b : Nat) : (steps negative b).natAbs = units b := by
  cases negative
  · rfl
  · rw [steps_true, Int.natAbs_neg, Int.natAbs_natCast]

theorem steps_not (negative : Bool) (b : Nat) : steps (!negative) b = -steps negative b := by
  cases negative
  · rfl
  · exact (Int.neg_neg _).symm

theorem units_eq_zero_iff : units b = 0 ↔ b = 0 := by
  constructor
  · intro nothing
    by_contra nonzero
    exact absurd nothing (Pattern.units_pos nonzero).ne'
  · intro zero
    rw [zero, units_zero]

/-- Patterns with signs are ordered as what they are worth. -/
theorem steps_lt_iff :
    steps negative b < steps negative' c ↔
      (if negative then -(b : Int) else b) < if negative' then -(c : Int) else c := by
  have less := @units_lt_iff b c
  have greater := @units_lt_iff c b
  have nothing := @units_eq_zero_iff b
  have nothing' := @units_eq_zero_iff c
  cases negative <;> cases negative' <;>
    simp only [steps, if_true, if_false, Bool.false_eq_true] <;> omega

/-! ## Order -/

/-- The place of a pattern with a sign, up to that of infinity. -/
inductive Placed : Bool → Nat → Place → Prop
  | zero (negative : Bool) : Placed negative 0 (toLex (0, toLex (0, 0)))
  | plus {m e : Nat} (pos : 0 < m) (bits : m < 2 ^ 53) (normal : e = 0 ∨ 2 ^ 52 ≤ m)
    (finite : m + e * 2 ^ 52 < infinity) :
    Placed false (m + e * 2 ^ 52) (toLex (1, toLex ((e : Int) - 1074, (m : Int))))
  | minus {m e : Nat} (pos : 0 < m) (bits : m < 2 ^ 53) (normal : e = 0 ∨ 2 ^ 52 ≤ m)
    (finite : m + e * 2 ^ 52 < infinity) :
    Placed true (m + e * 2 ^ 52) (toLex (-1, toLex (-((e : Int) - 1074), -(m : Int))))
  | infinity : Placed false infinity (toLex (2, toLex (0, 0)))
  | negInfinity : Placed true Pattern.infinity (toLex (-2, toLex (0, 0)))

theorem exists_placed (negative : Bool) (within : b ≤ infinity) :
    ∃ place, Ranked.rank (toFloat negative b) = some place ∧ Placed negative b place := by
  change ∃ p, place (toFloat negative b).toModel.unpack = some p ∧ _
  rcases Nat.lt_or_eq_of_le within with finite | rfl
  · rcases unpack_toFloat negative finite with
      ⟨rfl, zero⟩ | ⟨m, e, pos, unpacked, canonical, rfl⟩
    · rw [zero]
      exact ⟨_, rfl, .zero negative⟩
    · rw [unpacked]
      cases negative with
      | false => exact ⟨_, rfl, .plus pos canonical.bits canonical.normal finite⟩
      | true => exact ⟨_, rfl, .minus pos canonical.bits canonical.normal finite⟩
  · rw [unpack_infinity]
    cases negative with
    | false => exact ⟨_, rfl, .infinity⟩
    | true => exact ⟨_, rfl, .negInfinity⟩

theorem Placed.lt_iff {p q : Place} (here : Placed negative b p) (there : Placed negative' c q) :
    p < q ↔ steps negative b < steps negative' c := by
  have limit : Pattern.infinity = 2047 * 2 ^ 52 := rfl
  rw [steps_lt_iff]
  -- on one side of zero the exponents and the mantissas decide, as they make up the patterns
  cases here <;> cases there <;>
    simp only [Prod.Lex.toLex_lt_toLex, if_true, if_false, Bool.false_eq_true,
      true_and] <;> omega

/-- Numbers are ordered as what they are worth. -/
theorem less_toFloat_iff (within : b ≤ infinity) (within' : c ≤ infinity) :
    Scalar.less (toFloat negative b) (toFloat negative' c) = true ↔
      steps negative b < steps negative' c := by
  obtain ⟨p, here, placed⟩ := exists_placed negative within
  obtain ⟨q, there, placed'⟩ := exists_placed negative' within'
  rw [Ranked.less_iff_lt here there, placed.lt_iff placed']

/-- One double is worth one number of steps. -/
theorem steps_congr (within : b ≤ infinity) (within' : c ≤ infinity)
    (same : toFloat negative b = toFloat negative' c) : steps negative b = steps negative' c := by
  have less := @less_toFloat_iff negative negative' b c within within'
  have greater := @less_toFloat_iff negative' negative c b within' within
  have self := @less_toFloat_iff negative' negative' c c within' within'
  rw [same, self] at less greater
  omega

/-- Numbers that are equal differ at most in the sign of zero. -/
theorem eq_or_zero_of_beq (within : b ≤ infinity) (within' : c ≤ infinity)
    (equal : (toFloat negative b == toFloat negative' c) = true) :
    b = c ∧ (negative = negative' ∨ b = 0) := by
  obtain ⟨p, here, placed⟩ := exists_placed negative within
  obtain ⟨q, there, placed'⟩ := exists_placed negative' within'
  obtain ⟨place, left, right⟩ := beq_iff_rank.1 equal
  obtain rfl : p = q := Option.some.inj (here.symm.trans (left.trans (right.symm.trans there)))
  have notLess := mt (placed.lt_iff placed').2 (lt_irrefl p)
  have notGreater := mt (placed'.lt_iff placed).2 (lt_irrefl p)
  rw [steps_lt_iff] at notLess notGreater
  cases negative <;> cases negative' <;>
    simp only [if_true, if_false, Bool.false_eq_true, true_or, and_true] at * <;> omega

/-! ## Sums and differences -/

/-- An unpacked double that has this sign and this finite pattern. -/
def Unpacks (negative : Bool) (b : Nat) (u : UnpackedFloat) : Prop :=
  b = 0 ∧ u = .zero (signOf negative) ∨
    ∃ m e pos, u = .finite (signOf negative) m ((e : Nat) - 1074) pos ∧
      Canonical m e ∧ b = m + e * 2 ^ 52

theorem unpacks_toFloat (negative : Bool) (finite : b < infinity) :
    Unpacks negative b (toFloat negative b).toModel.unpack := unpack_toFloat negative finite

theorem Unpacks.neg {u : UnpackedFloat} (unpacks : Unpacks negative b u) :
    Unpacks (!negative) b u.neg := by
  have sign : -signOf negative = signOf !negative := by cases negative <;> rfl
  rcases unpacks with ⟨zero, rfl⟩ | ⟨m, e, pos, rfl, canonical, whole⟩
  · exact .inl ⟨zero, congrArg UnpackedFloat.zero sign⟩
  · exact .inr ⟨m, e, pos, finite_congr sign rfl rfl, canonical, whole⟩

/-- A double is determined by its sign and its pattern, also unpacked. -/
theorem Unpacks.pack {u : UnpackedFloat} (unpacks : Unpacks negative b u) (finite : b < infinity) :
    Float.ofModel (Float.Model.pack u) = toFloat negative b := by
  rcases unpacks with ⟨rfl, rfl⟩ | ⟨m, e, pos, rfl, canonical, rfl⟩
  · rw [ofModel_pack_zero, isMinus_signOf]
  · rw [ofModel_pack_finite _ canonical pos, isMinus_signOf, Nat.min_eq_left (Nat.le_of_lt finite)]

/-- Steps of either sign are rounded once. -/
theorem ofModel_normalize_signed (z : Int) (e : Int) :
    Float.ofModel (Float.Model.pack (UnpackedFloat.normalize Format.binary64 z e .positive)) =
      toFloat (decide (z < 0))
        (nearest (z.natAbs * 2 ^ (e + 1074).toNat) (2 ^ (-(e + 1074)).toNat)) := by
  rcases Int.lt_or_le z 0 with below | nonneg
  · have lower : compare z 0 = .lt := Int.compare_eq_lt.2 below
    have size : (-z).toNat = z.natAbs := by omega
    unfold UnpackedFloat.normalize
    rw [lower, decide_eq_true below]
    dsimp only
    rw [size]
    exact ofModel_round .negative (by omega) e
  · obtain ⟨m, rfl⟩ := Int.eq_ofNat_of_zero_le nonneg
    rw [decide_eq_false (Int.not_lt.2 nonneg)]
    exact ofModel_normalize m e

/-- The steps of a number with this sign and this mantissa. -/
theorem steps_canonical (negative : Bool) {m e : Nat} (canonical : Canonical m e) :
    steps negative (m + e * 2 ^ 52) = (signOf negative).apply m * 2 ^ e := by
  have worth := units_canonical canonical
  cases negative
  · rw [steps_false, worth, Int.natCast_mul, Int.natCast_pow]
    rfl
  · rw [steps_true, worth, Int.natCast_mul, Int.natCast_pow, ← Int.neg_mul]
    rfl

/-- The double that so many steps are rounded to; where there are none, its sign is given. -/
def rounded (zeroNegative : Bool) (z : Int) : Float :=
  toFloat (if z = 0 then zeroNegative else decide (z < 0)) (nearest z.natAbs 1)

theorem rounded_zero (zeroNegative : Bool) : rounded zeroNegative 0 = toFloat zeroNegative 0 := by
  rw [rounded, if_pos rfl, Int.natAbs_zero, nearest_zero Nat.one_pos]

theorem rounded_of_ne_zero {z : Int} (nonzero : z ≠ 0) (zeroNegative zeroNegative' : Bool) :
    rounded zeroNegative z = rounded zeroNegative' z := by
  rw [rounded, rounded, if_neg nonzero, if_neg nonzero]

theorem steps_eq_zero_iff : steps negative b = 0 ↔ b = 0 := by
  rw [← Int.natAbs_eq_zero, natAbs_steps, units_eq_zero_iff]

theorem rounded_steps (negative : Bool) (finite : b < infinity) :
    rounded negative (steps negative b) = toFloat negative b := by
  by_cases zero : b = 0
  · rw [steps_eq_zero_iff.2 zero, rounded_zero, zero]
  · have positive := Pattern.units_pos zero
    have sign : decide (steps negative b < 0) = negative := by
      cases negative
      · exact decide_eq_false (by rw [steps_false]; omega)
      · exact decide_eq_true (by rw [steps_true]; omega)
    rw [rounded, if_neg (mt steps_eq_zero_iff.1 zero), sign, natAbs_steps,
      nearest_units (Nat.le_of_lt finite)]

theorem rounded_mul_two_pow (zeroNegative : Bool) (z : Int) (k : Nat) :
    rounded zeroNegative (z * 2 ^ k) =
      toFloat (if z = 0 then zeroNegative else decide (z < 0)) (nearest (z.natAbs * 2 ^ k) 1) := by
  have power : (0 : Int) < 2 ^ k := Int.pow_pos (by decide)
  have zero : z * 2 ^ k = 0 ↔ z = 0 := by
    rw [Int.mul_eq_zero, or_iff_left power.ne']
  have below : z * 2 ^ k < 0 ↔ z < 0 :=
    ⟨fun product => neg_of_mul_neg_left product power.le,
      fun side => mul_neg_of_neg_of_pos side power⟩
  rw [rounded, Int.natAbs_mul, Int.natAbs_pow]
  simp only [zero, below]
  rfl

theorem apply_shiftLeft (s : Sign) (m k : Nat) :
    s.apply ((m <<< k : Nat) : Int) = s.apply m * 2 ^ k := by
  rw [Nat.shiftLeft_eq, Int.natCast_mul, Int.natCast_pow]
  cases s
  · exact (Int.neg_mul _ _).symm
  · rfl

/-- Exact sums of mantissas with the smaller of their exponents. -/
theorem Unpacks.add {u v : UnpackedFloat} (left : Unpacks negative b u)
    (right : Unpacks negative' c v) (finite : b < infinity) (finite' : c < infinity) :
    Float.ofModel (Float.Model.pack (UnpackedFloat.add Format.binary64 u v)) =
      rounded (negative && negative') (steps negative b + steps negative' c) := by
  have left' := left
  have right' := right
  rcases left with ⟨rfl, rfl⟩ | ⟨m, e, pos, rfl, canonical, whole⟩
  · rcases right with ⟨rfl, rfl⟩ | ⟨m', e', pos', rfl, canonical', whole'⟩
    · rw [steps_eq_zero_iff.2 rfl, steps_eq_zero_iff.2 rfl, Int.zero_add, rounded_zero]
      cases negative <;> cases negative' <;> exact ofModel_pack_zero _
    · have nonzero : c ≠ 0 := by omega
      rw [steps_eq_zero_iff.2 rfl, Int.zero_add,
        rounded_of_ne_zero (mt steps_eq_zero_iff.1 nonzero) _ negative', rounded_steps _ finite']
      exact right'.pack finite'
  · rcases right with ⟨rfl, rfl⟩ | ⟨m', e', pos', rfl, canonical', whole'⟩
    · have nonzero : b ≠ 0 := by omega
      rw [(@steps_eq_zero_iff negative' 0).2 rfl, Int.add_zero,
        rounded_of_ne_zero (mt steps_eq_zero_iff.1 nonzero) _ negative, rounded_steps _ finite]
      exact left'.pack finite
    · unfold UnpackedFloat.add UnpackedFloat.decreaseExponent
      dsimp only
      generalize least : min ((e : Int) - 1074) ((e' : Int) - 1074) = t
      generalize first : ((e : Int) - 1074 - t).toNat = k
      generalize second : ((e' : Int) - 1074 - t).toNat = k'
      generalize sum : (signOf negative).apply ((m <<< k : Nat) : Int) +
        (signOf negative').apply ((m' <<< k' : Nat) : Int) = z
      have exact : (-(t + 1074)).toNat = 0 := by omega
      have place : k + (t + 1074).toNat = e := by omega
      have place' : k' + (t + 1074).toNat = e' := by omega
      have total : steps negative b + steps negative' c = z * 2 ^ (t + 1074).toNat := by
        rw [whole, whole', steps_canonical negative canonical, steps_canonical negative' canonical',
          ← sum, apply_shiftLeft, apply_shiftLeft, Int.add_mul, Int.mul_assoc, Int.mul_assoc,
          ← pow_add, ← pow_add, place, place']
      have sign : z = 0 → (negative && negative') = false := by
        have size : 0 < m <<< k := Nat.shiftLeft_eq m k ▸ Nat.mul_pos pos (Nat.two_pow_pos k)
        cases negative <;> cases negative' <;> try exact fun _ => rfl
        change -((m <<< k : Nat) : Int) + -((m' <<< k' : Nat) : Int) = z at sum
        generalize m <<< k = n at size sum
        generalize m' <<< k' = n' at sum
        omega
      rw [ofModel_normalize_signed, total, rounded_mul_two_pow, exact, Nat.pow_zero]
      by_cases zero : z = 0
      · rw [if_pos zero, sign zero, zero]
        rfl
      · rw [if_neg zero]

theorem sub_eq_add_neg (u v : UnpackedFloat) :
    UnpackedFloat.sub Format.binary64 u v = UnpackedFloat.add Format.binary64 u v.neg := by
  cases u with
  | finite s m e pos =>
    cases v with
    | finite s' m' e' pos' =>
      have minus (n : Int) : -s'.apply n = (-s').apply n := by
        cases s'
        · exact Int.neg_neg n
        · rfl
      unfold UnpackedFloat.sub UnpackedFloat.add UnpackedFloat.neg
      dsimp only
      rw [Int.sub_eq_add_neg, minus]
    | notANumber | infinity | zero => rfl
  | notANumber | infinity | zero => cases v <;> rfl

/-- **Sums.** A sum of finite numbers is rounded once from the exact number of steps. It is a
negative zero only if both are. -/
theorem toFloat_add_signed (negative negative' : Bool) (finite : b < infinity)
    (finite' : c < infinity) :
    toFloat negative b + toFloat negative' c =
      rounded (negative && negative') (steps negative b + steps negative' c) :=
  (unpacks_toFloat negative finite).add (unpacks_toFloat negative' finite') finite finite'

/-- **Differences.** They are the sums with the sign of the second number changed. -/
theorem toFloat_sub_signed (negative negative' : Bool) (finite : b < infinity)
    (finite' : c < infinity) :
    toFloat negative b - toFloat negative' c =
      rounded (negative && !negative') (steps negative b - steps negative' c) := by
  have sum := (unpacks_toFloat negative finite).add (unpacks_toFloat negative' finite').neg finite
    finite'
  rw [← sub_eq_add_neg, steps_not, ← Int.sub_eq_add_neg] at sum
  exact sum

/-! ## Rounding in order -/

/-- What so many steps are worth when they are rounded. -/
def roundedSteps (z : Int) : Int := steps (decide (z < 0)) (nearest z.natAbs 1)

/-- The rounded steps by their sign and pattern. -/
theorem exists_rounded (zeroNegative : Bool) (z : Int) : ∃ negative,
    rounded zeroNegative z = toFloat negative (nearest z.natAbs 1) ∧
      steps negative (nearest z.natAbs 1) = roundedSteps z := by
  refine ⟨_, rfl, ?_⟩
  by_cases zero : z = 0
  · rw [if_pos zero, roundedSteps, zero, Int.natAbs_zero, nearest_zero Nat.one_pos,
      steps_eq_zero_iff.2 rfl, steps_eq_zero_iff.2 rfl]
  · rw [if_neg zero, roundedSteps]

theorem roundedSteps_steps (negative : Bool) (within : b ≤ infinity) :
    roundedSteps (steps negative b) = steps negative b := by
  rw [roundedSteps, natAbs_steps, nearest_units within]
  by_cases zero : b = 0
  · rw [steps_eq_zero_iff.2 zero, steps_eq_zero_iff.2 zero]
  · have positive := Pattern.units_pos zero
    cases negative with
    | false => rw [steps_false, decide_eq_false (by omega), steps_false]
    | true => rw [steps_true, decide_eq_true (by omega), steps_true]

theorem roundedSteps_mono {z z' : Int} (le : z ≤ z') : roundedSteps z ≤ roundedSteps z' := by
  unfold roundedSteps
  rcases Int.lt_or_le z 0 with below | nonneg
  · rw [decide_eq_true below, steps_true]
    rcases Int.lt_or_le z' 0 with below' | nonneg'
    · have size : z'.natAbs ≤ z.natAbs := by omega
      have order := Pattern.units_le_iff.2 (Pattern.nearest_mono Nat.one_pos size)
      rw [decide_eq_true below', steps_true]
      omega
    · rw [decide_eq_false (by omega), steps_false]
      omega
  · have size : z.natAbs ≤ z'.natAbs := by omega
    have order := Pattern.units_le_iff.2 (Pattern.nearest_mono Nat.one_pos size)
    rw [decide_eq_false (by omega), decide_eq_false (by omega), steps_false, steps_false]
    omega

/-- Of two numbers of steps the larger is not rounded to a smaller double. -/
theorem not_less_rounded {z z' : Int} (le : z ≤ z') (zeroNegative zeroNegative' : Bool) :
    Scalar.less (rounded zeroNegative' z') (rounded zeroNegative z) ≠ true := by
  obtain ⟨negative, here, worth⟩ := exists_rounded zeroNegative z
  obtain ⟨negative', there, worth'⟩ := exists_rounded zeroNegative' z'
  rw [here, there, ne_eq, less_toFloat_iff (Pattern.nearest_le_infinity _ _)
    (Pattern.nearest_le_infinity _ _), worth, worth', not_lt]
  exact roundedSteps_mono le

/-! ## Doubles by their worth -/

variable {x y : Float}

/-- The steps that a double is worth, if it is a number. -/
def worth (x : Float) : Int := steps (Pattern.isNegative x) (Pattern.ofFloat x)

theorem worth_toFloat (negative : Bool) (within : b ≤ infinity) :
    worth (toFloat negative b) = steps negative b :=
  steps_congr (ofFloat_le_infinity (isNaN_toFloat negative within)) within
    (Pattern.toFloat_ofFloat _)

theorem exists_rank_of_number (number : x.isNaN = false) : ∃ a, Ranked.rank x = some a := by
  rw [← Option.isSome_iff_exists, ← Option.isNone_eq_false_iff, ← Ranked.isNaN_eq]
  exact number

theorem less_iff_worth (number : x.isNaN = false) (number' : y.isNaN = false) :
    Scalar.less x y = true ↔ worth x < worth y := by
  obtain ⟨negative, b, within, rfl⟩ := exists_toFloat number
  obtain ⟨negative', c, within', rfl⟩ := exists_toFloat number'
  rw [worth_toFloat negative within, worth_toFloat negative' within',
    less_toFloat_iff within within']

theorem le_iff_worth (number : x.isNaN = false) (number' : y.isNaN = false) :
    x ≤ y ↔ worth x ≤ worth y := by
  obtain ⟨p, here⟩ := exists_rank_of_number number
  obtain ⟨q, there⟩ := exists_rank_of_number number'
  rw [← not_lt, ← less_iff_worth number' number, Ranked.less_iff_lt there here, not_lt,
    le_iff_rank]
  constructor
  · rintro ⟨a, b, first, second, order⟩
    rw [here] at first
    rw [there] at second
    cases first
    cases second
    exact order
  · exact fun order => ⟨p, q, here, there, order⟩

theorem isNaN_rounded (zeroNegative : Bool) (z : Int) : (rounded zeroNegative z).isNaN = false :=
  isNaN_toFloat _ (Pattern.nearest_le_infinity _ _)

theorem worth_rounded (zeroNegative : Bool) (z : Int) :
    worth (rounded zeroNegative z) = roundedSteps z := by
  obtain ⟨negative, here, worth⟩ := exists_rounded zeroNegative z
  rw [here, worth_toFloat negative (Pattern.nearest_le_infinity _ _), worth]

/-- A sum of finite doubles is worth the sum, rounded. -/
theorem worth_add (finite : x.isFinite = true) (finite' : y.isFinite = true) :
    worth (x + y) = roundedSteps (worth x + worth y) := by
  obtain ⟨negative, b, below, rfl⟩ := exists_toFloat_of_isFinite finite
  obtain ⟨negative', c, below', rfl⟩ := exists_toFloat_of_isFinite finite'
  rw [toFloat_add_signed negative negative' below below', worth_rounded,
    worth_toFloat negative below.le, worth_toFloat negative' below'.le]

/-- A difference of finite doubles is worth the difference, rounded. -/
theorem worth_sub (finite : x.isFinite = true) (finite' : y.isFinite = true) :
    worth (x - y) = roundedSteps (worth x - worth y) := by
  obtain ⟨negative, b, below, rfl⟩ := exists_toFloat_of_isFinite finite
  obtain ⟨negative', c, below', rfl⟩ := exists_toFloat_of_isFinite finite'
  rw [toFloat_sub_signed negative negative' below below', worth_rounded,
    worth_toFloat negative below.le, worth_toFloat negative' below'.le]

end Timings.Double
