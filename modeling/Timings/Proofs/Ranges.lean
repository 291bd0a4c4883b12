import Timings.Proofs.Counts
import Timings.Proofs.Signed

/-!
# Ranges of doubles

The width of a bucket is the gap between the extremes of the samples by the number of
buckets. With infinities and NaN among the samples the gap can be no number, infinite, or
below zero where no sample is a number (`Double.Gap`), and the width zero. But neither is
ever zero with a minus (`width_ne_minusZero`), so widths that are equal are the same double
(`eq_of_beq_of_plain`). Starts that are equal may still be zeros of both signs, and that no sample
notices (`bucketOf_congr`).

* `every_sample_counted`: no sample is lost, and one more that leaves the start and the width
  as they are is counted in one bucket.
-/

namespace Timings

namespace Double

open Float.Model (Format UnpackedFloat)
open Pattern (infinity nearest toFloat)

/-! ## Gaps -/

/-- What the greatest of some doubles can be above the least: no number, a number without a
minus, or far below zero, where none of them is a number. -/
inductive Gap : UnpackedFloat → Prop
  | none : Gap .notANumber
  | plus {u : UnpackedFloat} (plus : Plus u) : Gap u
  | void : Gap (.infinity .negative)

variable {negative negative' : Bool} {b c : Nat} {x y : Float} {u v : UnpackedFloat}

theorem unpack_eq_notANumber_iff : x.toModel.unpack = .notANumber ↔ x.isNaN = true := by
  change _ ↔ x.toModel.unpack.isNaN = true
  cases x.toModel.unpack <;> simp [UnpackedFloat.isNaN]

theorem Gap.of_isNaN (none : x.isNaN = true) : Gap x.toModel.unpack :=
  unpack_eq_notANumber_iff.2 none ▸ .none

theorem Unsigned.gap (unsigned : Unsigned x) : Gap x.toModel.unpack := by
  obtain ⟨b, within, rfl⟩ := unsigned
  exact .plus (plus_toFloat within)

theorem unpack_of_lt_infinity (negative : Bool) (finite : b < infinity) :
    (∃ s, (toFloat negative b).toModel.unpack = .zero s) ∨
      ∃ s m e pos, (toFloat negative b).toModel.unpack = .finite s m e pos := by
  rcases unpack_toFloat negative finite with ⟨-, zero⟩ | ⟨m, e, pos, unpacked, -, -⟩
  · exact .inl ⟨_, zero⟩
  · exact .inr ⟨_, _, _, _, unpacked⟩

/-- Infinity less what is finite stays infinity. -/
theorem infinity_sub (negative negative' : Bool) (finite : b < infinity) :
    toFloat negative infinity - toFloat negative' b = toFloat negative infinity := by
  change Float.ofModel (Float.Model.pack (UnpackedFloat.sub Format.binary64
    (toFloat negative infinity).toModel.unpack (toFloat negative' b).toModel.unpack)) = _
  rw [unpack_infinity, ← ofModel_pack_infinity]
  rcases unpack_of_lt_infinity negative' finite with ⟨s, zero⟩ | ⟨s, m, e, pos, unpacked⟩
  · rw [zero]
    rfl
  · rw [unpacked]
    rfl

/-- What is finite less infinity is infinity on the other side. -/
theorem sub_infinity (negative negative' : Bool) (finite : b < infinity) :
    toFloat negative' b - toFloat negative infinity = toFloat (!negative) infinity := by
  have sign : signOf (!negative) = -signOf negative := by cases negative <;> rfl
  change Float.ofModel (Float.Model.pack (UnpackedFloat.sub Format.binary64
    (toFloat negative' b).toModel.unpack (toFloat negative infinity).toModel.unpack)) = _
  rw [unpack_infinity, ← ofModel_pack_infinity, sign]
  rcases unpack_of_lt_infinity negative' finite with ⟨s, zero⟩ | ⟨s, m, e, pos, unpacked⟩
  · rw [zero]
    rfl
  · rw [unpacked]
    rfl

/-- The difference of finite numbers in their order, rounded once. -/
theorem toFloat_sub_ordered (finite : b < infinity) (finite' : c < infinity)
    (ordered : steps negative b ≤ steps negative' c)
    (plain : ¬(toFloat negative' c = toFloat true 0 ∧ toFloat negative b = toFloat false 0)) :
    toFloat negative' c - toFloat negative b =
      toFloat false (nearest (steps negative' c - steps negative b).toNat 1) := by
  rw [toFloat_sub_signed negative' negative finite' finite]
  rcases ordered.lt_or_eq with less | same
  · have above : 0 < steps negative' c - steps negative b := by omega
    have size : (steps negative' c - steps negative b).natAbs =
        (steps negative' c - steps negative b).toNat := by omega
    rw [rounded, if_neg above.ne', decide_eq_false (not_lt.2 above.le), size]
  · have sign : (negative' && !negative) = false := by
      cases negative' <;> cases negative <;> try rfl
      rw [steps_true, steps_false] at same
      have zero : b = 0 := units_eq_zero_iff.1 (by omega)
      have zero' : c = 0 := units_eq_zero_iff.1 (by omega)
      exact absurd ⟨by rw [zero'], by rw [zero]⟩ plain
    rw [same, Int.sub_self, rounded_zero, sign, Int.toNat_zero, nearest_zero Nat.one_pos]

/-- Numbers in their order have no gap below zero. -/
theorem gap_sub (number : x.isNaN = false) (number' : y.isNaN = false)
    (ordered : Scalar.less y x ≠ true) (plain : ¬(y = toFloat true 0 ∧ x = toFloat false 0)) :
    Gap (y - x).toModel.unpack := by
  obtain ⟨negative, b, within, rfl⟩ := exists_toFloat number
  obtain ⟨negative', c, within', rfl⟩ := exists_toFloat number'
  rw [ne_eq, less_toFloat_iff within' within, not_lt] at ordered
  have top : Unsigned (toFloat false infinity) := ⟨infinity, Nat.le_refl _, rfl⟩
  rcases Nat.lt_or_eq_of_le within with finite | rfl
  · rcases Nat.lt_or_eq_of_le within' with finite' | rfl
    · rw [toFloat_sub_ordered finite finite' ordered plain]
      exact Unsigned.gap ⟨_, Pattern.nearest_le_infinity _ _, rfl⟩
    · rw [infinity_sub negative' negative finite]
      cases negative' with
      | false => exact top.gap
      | true => exact unpack_infinity true ▸ .void
  · rcases Nat.lt_or_eq_of_le within' with finite' | rfl
    · rw [sub_infinity negative negative' finite']
      cases negative with
      | true => exact top.gap
      | false => exact unpack_infinity true ▸ .void
    · cases negative <;> cases negative'
      · exact Gap.of_isNaN (by decide +kernel)
      · exact .void
      · exact top.gap
      · exact Gap.of_isNaN (by decide +kernel)

/-- A gap by a number without a minus that is not zero. -/
theorem Gap.div (gap : Gap u) (plus : Plus v) (nonzero : v ≠ .zero .positive) :
    Gap (UnpackedFloat.div Format.binary64 u v) := by
  cases gap with
  | none => exact .none
  | void =>
    cases v with
    | notANumber => exact .none
    | infinity s => exact .none
    | zero s =>
      cases plus
      exact absurd rfl nonzero
    | finite s m e pos =>
      cases plus
      exact .void
  | plus plus' =>
    cases v with
    | notANumber => exact plus.elim
    | zero s =>
      cases plus
      exact absurd rfl nonzero
    | infinity s =>
      cases plus
      cases u with
      | notANumber => exact plus'.elim
      | infinity s' => exact .none
      | zero s' =>
        cases plus'
        exact .plus rfl
      | finite s' m' e' pos' =>
        cases plus'
        exact .plus rfl
    | finite s m e pos =>
      cases plus
      cases u with
      | notANumber => exact plus'.elim
      | infinity s' =>
        cases plus'
        exact .plus rfl
      | zero s' =>
        cases plus'
        exact .plus rfl
      | finite s' m' e' pos' =>
        cases plus'
        exact .plus (plus_roundWithAccuracy _ _ _)

/-- No gap is zero with a minus. -/
theorem Gap.ne_minusZero (gap : Gap u) : Float.ofModel (Float.Model.pack u) ≠ toFloat true 0 := by
  cases gap with
  | none => decide +kernel
  | void => decide +kernel
  | plus plus =>
    obtain ⟨b, within, same⟩ := Unsigned.of_plus plus
    rw [same]
    intro zero
    have plus := plus_toFloat within
    rw [zero] at plus
    cases plus

/-- Doubles that are equal as numbers are the same, if none of them is zero with a minus. -/
theorem eq_of_beq_of_plain (equal : (x == y) = true) (plain : x ≠ toFloat true 0)
    (plain' : y ≠ toFloat true 0) : x = y := by
  obtain ⟨place, here, there⟩ := beq_iff_rank.1 equal
  obtain ⟨negative, b, within, rfl⟩ := exists_toFloat (isNaN_of_rank here)
  obtain ⟨negative', c, within', rfl⟩ := exists_toFloat (isNaN_of_rank there)
  obtain ⟨rfl, same | rfl⟩ := eq_or_zero_of_beq within within' equal
  · rw [same]
  · have sign : negative = negative' := by
      cases negative <;> cases negative' <;> try rfl
      · exact absurd rfl plain'
      · exact absurd rfl plain
    rw [sign]

/-- What is not zero does not round to it, and what is zero rounds to the one asked for. -/
theorem rounded_ne_minusZero (z : Int) : rounded false z ≠ toFloat true 0 := by
  by_cases zero : z = 0
  · rw [zero, rounded_zero]
    decide +kernel
  · obtain ⟨negative, here, worth⟩ := exists_rounded false z
    intro same
    rw [here] at same
    have nothing := steps_congr (Pattern.nearest_le_infinity _ _) (Nat.zero_le _) same
    rw [worth, steps_eq_zero_iff.2 rfl] at nothing
    have one (negative : Bool) : roundedSteps (steps negative 1) = steps negative 1 :=
      roundedSteps_steps negative (by decide)
    rcases Int.lt_or_gt_of_ne zero with below | above
    · have order := @roundedSteps_mono z (steps true 1) (Int.le_sub_one_of_lt below)
      rw [one, nothing] at order
      exact absurd order (by decide)
    · have order := @roundedSteps_mono (steps false 1) z above
      rw [one, nothing] at order
      exact absurd order (by decide)

/-! ## Distances from a zero -/

theorem nan_sub (none : x.isNaN = true) (y z : Float) : x - y = x - z := by
  rw [← unpack_eq_notANumber_iff] at none
  change Float.ofModel (Float.Model.pack (UnpackedFloat.sub Format.binary64 x.toModel.unpack
      y.toModel.unpack)) =
    Float.ofModel (Float.Model.pack (UnpackedFloat.sub Format.binary64 x.toModel.unpack
      z.toModel.unpack))
  rw [none]
  rfl

/-- Zeros have no whole buckets, whatever the width. -/
theorem whole_zero_div (negative : Bool) (w : Float) :
    Scalar.whole (toFloat negative 0 / w) = 0 := by
  have nothing {u : UnpackedFloat} (zero : u = .notANumber ∨ ∃ s, u = .zero s) :
      Scalar.whole (Float.ofModel (Float.Model.pack u)) = 0 := by
    rcases zero with rfl | ⟨s, rfl⟩
    · decide +kernel
    · cases s <;> decide +kernel
  have zero : (toFloat negative 0).toModel.unpack = .zero (signOf negative) := by
    cases negative <;> rfl
  apply nothing
  rw [zero]
  cases w.toModel.unpack with
  | notANumber => exact .inl rfl
  | zero s => exact .inl rfl
  | infinity s => exact .inr ⟨_, rfl⟩
  | finite s m e pos => exact .inr ⟨_, rfl⟩

end Double

namespace Histogram

open Double (Gap Unsigned)
open Pattern (infinity nearest toFloat)

variable {x y w low low' : Float} {xs : List Float}

/-- A sample is in the same bucket whether the start is a zero of one sign or the other. -/
theorem bucketOf_zero (negative negative' : Bool) (w : Float) (buckets : Nat) (x : Float) :
    bucketOf (toFloat negative 0) w buckets x = bucketOf (toFloat negative' 0) w buckets x := by
  have zero : 0 < infinity := by decide
  unfold bucketOf
  congr 1
  cases number : x.isNaN with
  | true => rw [Double.nan_sub number]
  | false =>
    obtain ⟨sign, b, within, rfl⟩ := Double.exists_toFloat number
    rcases Nat.lt_or_eq_of_le within with finite | rfl
    · rw [Double.toFloat_sub_signed sign negative finite zero,
        Double.toFloat_sub_signed sign negative' finite zero,
        Double.steps_eq_zero_iff.2 rfl, Double.steps_eq_zero_iff.2 rfl, Int.sub_zero]
      by_cases same : Double.steps sign b = 0
      · rw [same, Double.rounded_zero, Double.rounded_zero, Double.whole_zero_div,
          Double.whole_zero_div]
      · rw [Double.rounded_of_ne_zero same]
    · rw [Double.infinity_sub sign negative zero, Double.infinity_sub sign negative' zero]

/-- Equal starts put a sample into the same bucket. -/
theorem bucketOf_congr (equal : (low == low') = true) (w : Float) (buckets : Nat) (x : Float) :
    bucketOf low w buckets x = bucketOf low' w buckets x := by
  obtain ⟨place, here, there⟩ := Double.beq_iff_rank.1 equal
  obtain ⟨negative, b, within, rfl⟩ := Double.exists_toFloat (Double.isNaN_of_rank here)
  obtain ⟨negative', c, within', rfl⟩ := Double.exists_toFloat (Double.isNaN_of_rank there)
  obtain ⟨rfl, rfl | rfl⟩ := Double.eq_or_zero_of_beq within within' equal
  · rfl
  · exact bucketOf_zero negative negative' w buckets x

/-! ## The extremes of some samples -/

/-- The extremes of a state are in their order, or it has seen no number. -/
def Ordered (s : RunningState Float) : Prop :=
  s.min = Scalar.infinity ∧ s.max = Scalar.negInfinity ∨ Scalar.less s.max s.min ≠ true

theorem Ordered.observe {s : RunningState Float} (ordered : Ordered s) (x : Float) :
    Ordered (s.observe x) := by
  cases number : x.isNaN with
  | true =>
    have least : (s.observe x).min = s.min := if_pos number
    have greatest : (s.observe x).max = s.max := if_pos number
    unfold Ordered
    rw [least, greatest]
    exact ordered
  | false =>
    -- the number itself stands between the extremes
    obtain ⟨p, here⟩ := Double.exists_rank_of_number number
    obtain ⟨a, below, bottom⟩ := Ranked.exists_rank_least_le s.min here
    obtain ⟨b, above, top⟩ := Ranked.exists_le_rank_greatest s.max here
    have less : Scalar.less (s.observe x).max (s.observe x).min = true ↔ b < a :=
      Ranked.less_iff_lt top bottom
    exact .inr (mt less.1 (not_lt.2 (below.trans above)))

theorem ordered_ofList (xs : List Float) : Ordered (RunningState.ofList xs) := by
  have start : Ordered (RunningState.empty : RunningState Float) := .inl ⟨rfl, rfl⟩
  unfold RunningState.ofList
  generalize (RunningState.empty : RunningState Float) = s at start
  induction xs generalizing s with
  | nil => exact start
  | cons x xs ih => exact ih _ (start.observe x)

/-- How the range of some samples comes from their extremes: it is one unit wider if they
are equal, and void if no sample is a number. -/
inductive Extent (low high : Float) : Float × Float → Prop
  | void (least : low = Scalar.infinity) (greatest : high = Scalar.negInfinity) :
    Extent low high (low, high)
  | apart (less : Double.worth low < Double.worth high) : Extent low high (low, high)
  | equal (same : Double.worth low = Double.worth high) :
    Extent low high (low - Scalar.ofNat 1 / Scalar.ofNat 2, high + Scalar.ofNat 1 / Scalar.ofNat 2)

theorem isNaN_min (xs : List Float) : (RunningState.ofList xs).min.isNaN = false := by
  obtain ⟨p, least⟩ := RunningState.exists_rank_min xs
  exact Double.isNaN_of_rank least

theorem isNaN_max (xs : List Float) : (RunningState.ofList xs).max.isNaN = false := by
  obtain ⟨q, greatest⟩ := RunningState.exists_rank_max xs
  exact Double.isNaN_of_rank greatest

theorem extent_range (nonempty : xs ≠ []) :
    Extent (RunningState.ofList xs).min (RunningState.ofList xs).max (range xs) := by
  have number : Scalar.isNaN (RunningState.ofList xs).min = false := isNaN_min xs
  have number' : Scalar.isNaN (RunningState.ofList xs).max = false := isNaN_max xs
  have ordered := ordered_ofList xs
  rw [range_eq nonempty]
  dsimp only
  generalize RunningState.ofList xs = s at number number' ordered
  rw [number, number']
  rcases ordered with ⟨bottom, top⟩ | ordered
  · rw [if_neg (by rw [bottom, top]; decide +kernel)]
    exact .void bottom top
  · have above := mt (Double.less_iff_worth number' number).2 ordered
    rw [ne_eq, Bool.not_eq_true] at ordered
    rw [ordered]
    cases less : Scalar.less s.min s.max with
    | true => exact .apart ((Double.less_iff_worth number number').1 less)
    | false =>
      have below := mt (Double.less_iff_worth number number').2 (ne_true_of_eq_false less)
      exact .equal (le_antisymm (not_lt.1 above) (not_lt.1 below))

/-! ## The gap and the width -/

/-- The pattern of half a unit. -/
def half : Nat := 1022 * 2 ^ 52

theorem half_lt_infinity : half < infinity := by decide

theorem half_eq : (Scalar.ofNat 1 / Scalar.ofNat 2 : Float) = toFloat false half := by
  decide +kernel

/-- One number widened by half a unit on either side. -/
theorem gap_widened (number : x.isNaN = false) (number' : y.isNaN = false)
    (same : Double.worth x = Double.worth y) :
    Gap ((y + Scalar.ofNat 1 / Scalar.ofNat 2) -
      (x - Scalar.ofNat 1 / Scalar.ofNat 2)).toModel.unpack := by
  obtain ⟨negative, b, within, rfl⟩ := Double.exists_toFloat number
  obtain ⟨negative', c, within', rfl⟩ := Double.exists_toFloat number'
  rw [Double.worth_toFloat negative within, Double.worth_toFloat negative' within'] at same
  have pattern : b = c := by
    have size := congrArg Int.natAbs same
    rw [Double.natAbs_steps, Double.natAbs_steps, Pattern.units_inj] at size
    exact size
  subst pattern
  rcases Nat.lt_or_eq_of_le within with finite | rfl
  · rw [half_eq, Double.toFloat_sub_signed negative false finite half_lt_infinity,
      Double.toFloat_add_signed negative' false finite half_lt_infinity]
    refine Double.gap_sub (Double.isNaN_rounded _ _) (Double.isNaN_rounded _ _)
      (Double.not_less_rounded ?_ _ _) ?_
    · rw [same, Double.steps_false]
      omega
    · rw [Bool.and_false]
      exact fun plain => Double.rounded_ne_minusZero _ plain.1
  · have sign : negative = negative' := by
      cases negative <;> cases negative' <;> try rfl
      · exact absurd same (by decide +kernel)
      · exact absurd same (by decide +kernel)
    subst sign
    cases negative <;> exact Gap.of_isNaN (by decide +kernel)

theorem gap_range (xs : List Float) : Gap ((range xs).2 - (range xs).1).toModel.unpack := by
  by_cases nonempty : xs = []
  · rw [nonempty]
    exact Unsigned.gap (.of_pos (by decide +kernel))
  have number := isNaN_min xs
  have number' := isNaN_max xs
  have extent := extent_range nonempty
  generalize (RunningState.ofList xs) = s at number number' extent
  generalize range xs = r at extent
  cases extent with
  | void least greatest =>
    have void : (Scalar.negInfinity - Scalar.infinity : Float) = toFloat true infinity := by
      decide +kernel
    rw [least, greatest, void, Double.unpack_infinity]
    exact .void
  | apart less =>
    refine Double.gap_sub number number'
      (mt (Double.less_iff_worth number' number).1 (not_lt.2 less.le)) ?_
    intro (plain : s.max = _ ∧ s.min = _)
    rw [plain.1, plain.2] at less
    exact absurd less (by decide +kernel)
  | equal same => exact gap_widened number number' same

/-- No width is zero with a minus. -/
theorem width_ne_minusZero (xs : List Float) (buckets : Nat) :
    (ofSamples xs buckets).width ≠ toFloat true 0 := by
  have some_bucket : 0 < max buckets 1 := by omega
  change ((range xs).2 - (range xs).1) / Scalar.ofNat (max buckets 1) ≠ _
  generalize max buckets 1 = B at some_bucket
  have within := Pattern.nearest_le_infinity (B * Double.stepsOfOne) 1
  have nonzero : nearest (B * Double.stepsOfOne) 1 ≠ 0 := by
    have steps := Nat.mul_pos some_bucket Double.stepsOfOne_pos
    have least : 1 ≤ nearest (B * Double.stepsOfOne) 1 :=
      Pattern.le_nearest (by decide) Nat.one_pos steps
    omega
  rw [Double.ofNat_eq_nearest]
  generalize nearest (B * Double.stepsOfOne) 1 = c at within nonzero
  refine ((gap_range xs).div (Double.plus_toFloat within) ?_).ne_minusZero
  rcases Double.unpack_cases false within with ⟨zero, -⟩ | ⟨m, e, pos, unpacked, -⟩ | ⟨-, top⟩
  · exact absurd zero nonzero
  · rw [unpacked]
    nofun
  · rw [top]
    nofun

/-! ## Every sample -/

/-- Whether two doubles are the same, or equal when they are compared. -/
def Unchanged (x y : Float) : Prop := x = y ∨ (x == y) = true

/-- One more sample that leaves the start and the width as they are is counted where it
would have been before. -/
theorem counts_concat {buckets : Nat}
    (start : Unchanged (ofSamples xs buckets).start (ofSamples (xs ++ [x]) buckets).start)
    (width : Unchanged (ofSamples xs buckets).width (ofSamples (xs ++ [x]) buckets).width) :
    ∃ i < max buckets 1, (ofSamples (xs ++ [x]) buckets).counts =
      (ofSamples xs buckets).counts.modify i (· + 1) := by
  have some_bucket : 0 < max buckets 1 := by omega
  have counts (ys : List Float) : (ofSamples ys buckets).counts =
      countSamples (ofSamples ys buckets).start (ofSamples ys buckets).width (max buckets 1) ys :=
    rfl
  have same : (ofSamples xs buckets).width = (ofSamples (xs ++ [x]) buckets).width := by
    rcases width with same | equal
    · exact same
    · exact Double.eq_of_beq_of_plain equal (width_ne_minusZero _ _) (width_ne_minusZero _ _)
  have bucket : bucketOf (ofSamples xs buckets).start (ofSamples xs buckets).width =
      bucketOf (ofSamples (xs ++ [x]) buckets).start (ofSamples xs buckets).width := by
    rcases start with same | equal
    · rw [same]
    · exact funext fun B => funext fun y => bucketOf_congr equal _ B y
  refine ⟨bucketOf (ofSamples (xs ++ [x]) buckets).start (ofSamples xs buckets).width
    (max buckets 1) x, bucketOf_lt _ _ some_bucket x, ?_⟩
  rw [counts, counts, ← same, countSamples_concat]
  unfold countSamples
  rw [bucket]

/-- **Every sample is counted.** Whatever doubles the samples are, each of them finds its
bucket among the counts, there are as many counts and densities as buckets, and the counts
add up to the number of samples. One more sample that leaves the start and the width as they
are makes one count larger by one, and no other. -/
theorem every_sample_counted (xs : List Float) (buckets : Nat) :
    let h : Histogram Float := ofSamples xs buckets
    (xs.foldlM (fun counts x => countIn? counts (bucketOf h.start h.width (max buckets 1) x))
        (Array.replicate (max buckets 1) 0)).map Array.toList = some h.counts ∧
      h.counts.length = max buckets 1 ∧ h.densities.length = max buckets 1 ∧
      h.total = xs.length ∧
      ∀ x, let h' : Histogram Float := ofSamples (xs ++ [x]) buckets
        Unchanged h.start h'.start → Unchanged h.width h'.width →
          ∃ i count : Nat, h.counts[i]? = some count ∧ h'.counts[i]? = some (count + 1) ∧
            ∀ j, j ≠ i → h'.counts[j]? = h.counts[j]? := by
  intro h
  have some_bucket : 0 < max buckets 1 := by omega
  have length : h.counts.length = max buckets 1 := length_countSamples _ _ _ _
  have shared : h.densities = h.counts.map (density h.width xs.length) := rfl
  refine ⟨counted_samples some_bucket xs, length, ?_, sum_countSamples some_bucket xs, ?_⟩
  · rw [shared, List.length_map, length]
  · intro x h' start width
    obtain ⟨i, inside, modified⟩ := counts_concat start width
    have counts : h'.counts = h.counts.modify i (· + 1) := modified
    rw [← length] at inside
    refine ⟨i, h.counts[i], List.getElem?_eq_getElem inside, ?_, ?_⟩
    · rw [counts, List.getElem?_modify_eq, List.getElem?_eq_getElem inside]
      rfl
    · intro j other
      rw [counts, List.getElem?_modify_ne _ _ other.symm]

/-- A zero, a sample that is no number and three, then a zero of the other sign, which
becomes the start. -/
theorem zero_counted_once :
    let h : Histogram Float := ofSamples [0, 0 / 0, 3] 3
    let h' : Histogram Float := ofSamples ([0, 0 / 0, 3] ++ [-0]) 3
    h.counts = [2, 0, 1] ∧ h.start ≠ h'.start ∧ Unchanged h.start h'.start ∧
      Unchanged h.width h'.width ∧
      ∃ i count : Nat, h.counts[i]? = some count ∧ h'.counts[i]? = some (count + 1) ∧
        ∀ j, j ≠ i → h'.counts[j]? = h.counts[j]? := by
  intro h h'
  have start : Unchanged h.start h'.start := .inr (by decide +kernel)
  have width : Unchanged h.width h'.width := .inl (by decide +kernel)
  refine ⟨by decide +kernel, by decide +kernel, start, width, ?_⟩
  exact (every_sample_counted [0, 0 / 0, 3] 3).2.2.2.2 (-0) start width

end Histogram

end Timings
