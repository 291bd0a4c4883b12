import Timings.Proofs.Plotted
import Timings.Proofs.Ranges

/-!
# Widths over finite samples

The range of finite samples is finite, and its gap is rounded once (`size_gap`). One unit
around equal samples is at least half a unit after rounding, as long as they are at most
`2 ^ 52` in size: half units are doubles up to there, and one of them lies on either side of
the samples or at them (`half_le_widened`). Beyond, the two ends may be rounded to the
samples themselves. Then, and where the gap or its product with the number of samples
overflows, or the width underflows, the plot comes out blank (`plots_come_out_blank`).

* `plots_are_shown`: the widths and the sizes of samples for which it does not.
-/

namespace Timings

namespace Double

open Pattern (infinity nearest toFloat units)

variable {x y : Float} {z : Int} {k : Nat}

theorem isNaN_sub (finite : x.isFinite = true) (finite' : y.isFinite = true) :
    (x - y).isNaN = false := by
  obtain ⟨negative, b, below, rfl⟩ := exists_toFloat_of_isFinite finite
  obtain ⟨negative', c, below', rfl⟩ := exists_toFloat_of_isFinite finite'
  rw [toFloat_sub_signed negative negative' below below']
  exact isNaN_rounded _ _

theorem natAbs_roundedSteps (z : Int) : (roundedSteps z).natAbs = units (nearest z.natAbs 1) :=
  natAbs_steps _ _

/-- What is at most a power of two does not round to more. -/
theorem natAbs_roundedSteps_le (le : z.natAbs ≤ 2 ^ k) : (roundedSteps z).natAbs ≤ 2 ^ k := by
  have bound := @Pattern.units_nearest_le z.natAbs 1 1 k Nat.one_pos (by decide)
  rw [Nat.one_mul, Nat.mul_one] at bound
  rw [natAbs_roundedSteps]
  exact bound le

/-- A short number of either sign, times a power of two, is not rounded. -/
theorem roundedSteps_short {j : Int} (short : j.natAbs ≤ 2 ^ 53)
    (finite : 2 ^ 53 * 2 ^ k ≤ units infinity) : roundedSteps (j * 2 ^ k) = j * 2 ^ k := by
  obtain ⟨b, worth⟩ := Pattern.exists_units short k
  have within : b ≤ infinity := by
    rw [← Pattern.units_le_iff, worth]
    exact (Nat.mul_le_mul_right _ short).trans finite
  have same : steps (decide (j < 0)) b = j * 2 ^ k := by
    rcases Int.lt_or_le j 0 with below | nonneg
    · have sign : (j.natAbs : Int) = -j := by omega
      rw [decide_eq_true below, steps_true, worth, Int.natCast_mul, sign, Int.neg_mul,
        Int.neg_neg, Int.natCast_pow]
      rfl
    · have sign : (j.natAbs : Int) = j := by omega
      rw [decide_eq_false (not_lt.2 nonneg), steps_false, worth, Int.natCast_mul, sign,
        Int.natCast_pow]
      rfl
  rw [← same, roundedSteps_steps _ within]

/-- A gap between finite numbers in their order has no minus. -/
theorem Gap.unsigned (gap : Gap x.toModel.unpack) (number : x.isNaN = false)
    (nonneg : 0 ≤ worth x) : Unsigned x := by
  have packed := ofModel_pack_unpack x
  generalize unpacked : x.toModel.unpack = u at gap packed
  cases gap with
  | none =>
    rw [unpack_eq_notANumber_iff.1 unpacked] at number
    cases number
  | plus plus =>
    rw [← packed]
    exact .of_plus plus
  | void =>
    have infinite : x = toFloat true infinity := packed.symm.trans (ofModel_pack_infinity true)
    rw [infinite, worth_toFloat true (Nat.le_refl _), steps_true] at nonneg
    exact absurd nonneg (by decide +kernel)

end Double

namespace Histogram

open Double (Unsigned UpTo roundedSteps size stepsOfOne worth)
open Pattern (infinity nearest toFloat units)

variable {x : Float} {xs : List Float} {z : Int}

/-! ## Half units -/

theorem units_half : 2 * units half = stepsOfOne := by decide +kernel

theorem worth_half : worth (Scalar.ofNat 1 / Scalar.ofNat 2 : Float) = units half := by
  rw [half_eq, Double.worth_toFloat false half_lt_infinity.le, Double.steps_false]

theorem isFinite_half : (Scalar.ofNat 1 / Scalar.ofNat 2 : Float).isFinite = true := by
  decide +kernel

/-- A finite number stays finite when it is widened by half a unit. -/
theorem isFinite_widened (finite : x.isFinite = true) :
    (x - Scalar.ofNat 1 / Scalar.ofNat 2).isFinite = true ∧
      (x + Scalar.ofNat 1 / Scalar.ofNat 2).isFinite = true := by
  obtain ⟨negative, b, below, rfl⟩ := Double.exists_toFloat_of_isFinite finite
  have kept {z : Int} (near : z.natAbs ≤ units b + units half) (zeroNegative : Bool) :
      (Double.rounded zeroNegative z).isFinite = true := by
    have sum := Double.nearest_sum_lt_infinity below (by decide : half ≤ Double.quarter)
    exact Double.isFinite_toFloat _ ((Pattern.nearest_mono Nat.one_pos near).trans_lt sum)
  have size := Double.natAbs_steps negative b
  rw [half_eq, Double.toFloat_sub_signed negative false below half_lt_infinity,
    Double.toFloat_add_signed negative false below half_lt_infinity, Double.steps_false]
  exact ⟨kept (by omega) _, kept (by omega) _⟩

theorem worth_sub_half (finite : x.isFinite = true) :
    worth (x - Scalar.ofNat 1 / Scalar.ofNat 2) = roundedSteps (worth x - units half) := by
  rw [Double.worth_sub finite isFinite_half, worth_half]

theorem worth_add_half (finite : x.isFinite = true) :
    worth (x + Scalar.ofNat 1 / Scalar.ofNat 2) = roundedSteps (worth x + units half) := by
  rw [Double.worth_add finite isFinite_half, worth_half]

/-- A number of at most `2 ^ 53` half units has a half unit next to it, and the one above is
no farther away. -/
theorem exists_half_unit {half : Int} (positive : 0 < half) (lower : -(2 ^ 53) * half ≤ z)
    (upper : z ≤ 2 ^ 53 * half) :
    ∃ j : Int, j.natAbs ≤ 2 ^ 53 ∧ (j + 1).natAbs ≤ 2 ^ 53 ∧ z - half ≤ j * half ∧
      (j + 1) * half ≤ z + half := by
  have least : -(2 ^ 53) ≤ z / half := (Int.le_ediv_iff_mul_le positive).2 lower
  have below := Int.ediv_mul_le z positive.ne'
  have above := Int.lt_ediv_add_one_mul_self z positive
  rcases Int.lt_or_le (z / half) (2 ^ 53) with less | full
  · refine ⟨z / half, by omega, by omega, ?_, ?_⟩
    · rw [Int.add_mul, Int.one_mul] at above
      omega
    · rw [Int.add_mul, Int.one_mul]
      omega
  · have reached := (Int.le_ediv_iff_mul_le positive).1 full
    exact ⟨2 ^ 53 - 1, by decide, by decide, by omega, by omega⟩

/-- Half a unit on either side of a moderate number is not lost: there is a half unit in
between, counted from zero. -/
theorem half_le_widened (moderate : z.natAbs ≤ 2 ^ 52 * stepsOfOne) :
    (units half : Int) ≤ roundedSteps (z + units half) - roundedSteps (z - units half) := by
  have finite : 2 ^ 53 * 2 ^ (Double.places - 1) ≤ units infinity := by
    rw [Pattern.units_infinity, ← Nat.pow_add]
    generalize Double.places = n
    exact Nat.pow_le_pow_right Nat.two_pos (by omega)
  have power : (units half : Int) = 2 ^ (Double.places - 1) := by decide +kernel
  have positive : (0 : Int) < 2 ^ (Double.places - 1) := pow_pos two_pos _
  have whole := units_half
  have kept (j : Int) (short : j.natAbs ≤ 2 ^ 53) := Double.roundedSteps_short short finite
  rw [power]
  generalize (2 : Int) ^ (Double.places - 1) = H at power positive kept ⊢
  obtain ⟨j, short, short', low, high⟩ : ∃ j : Int, j.natAbs ≤ 2 ^ 53 ∧ (j + 1).natAbs ≤ 2 ^ 53 ∧
      z - H ≤ j * H ∧ (j + 1) * H ≤ z + H := exists_half_unit positive (by omega) (by omega)
  have start := Double.roundedSteps_mono low
  have stop := Double.roundedSteps_mono high
  rw [kept j short] at start
  rw [kept (j + 1) short', Int.add_mul, Int.one_mul] at stop
  omega

/-! ## Ranges of finite samples -/

/-- The range of finite samples comes from the least and the greatest of them. -/
theorem exists_extremes (nonempty : xs ≠ []) (finite : AllFinite xs) :
    ∃ low high, Extreme (· ≤ ·) low xs ∧ Extreme (· ≥ ·) high xs ∧ Extent low high (range xs) :=
  have known := RunningState.represents_ofList nonempty finite
  ⟨_, _, known.least, known.greatest, extent_range nonempty⟩

variable {low high : Float} {r : Float × Float}

/-- The ends of a range between finite numbers are finite and in their order. -/
theorem Extent.finite_ordered (extent : Extent low high r) (finite : low.isFinite = true)
    (finite' : high.isFinite = true) :
    r.1.isFinite = true ∧ r.2.isFinite = true ∧ worth r.1 ≤ worth r.2 := by
  cases extent with
  | void least greatest =>
    rw [least] at finite
    exact absurd finite (by decide +kernel)
  | apart less => exact ⟨finite, finite', less.le⟩
  | equal same =>
    refine ⟨(isFinite_widened finite).1, (isFinite_widened finite').2, ?_⟩
    change worth (low - _) ≤ worth (high + _)
    rw [worth_sub_half finite, worth_add_half finite', same]
    exact Double.roundedSteps_mono (by omega)

/-- The gap of finite samples is rounded once, and it has no minus. -/
theorem size_gap (nonempty : xs ≠ []) (finite : AllFinite xs) :
    Unsigned ((range xs).2 - (range xs).1) ∧
      (size ((range xs).2 - (range xs).1) : Int) =
        roundedSteps (worth (range xs).2 - worth (range xs).1) := by
  obtain ⟨low, high, least, greatest, extent⟩ := exists_extremes nonempty finite
  obtain ⟨start, stop, ordered⟩ :=
    extent.finite_ordered (finite low least.mem) (finite high greatest.mem)
  have gap := Double.worth_sub stop start
  have zero : roundedSteps 0 = 0 := by decide +kernel
  have nonneg := Double.roundedSteps_mono (Int.sub_nonneg.2 ordered)
  rw [zero, ← gap] at nonneg
  have unsigned := (gap_range xs).unsigned (Double.isNaN_sub stop start) nonneg
  exact ⟨unsigned, unsigned.worth_eq.symm.trans gap⟩

/-! ## Moderate samples -/

/-- Samples that are neither too far apart nor, unless they are all equal, too close. -/
structure Moderate (xs : List Float) : Prop where
  bounded : ∀ x ∈ xs, x.abs ≤ 1e280
  apart : (∃ x ∈ xs, ∃ y ∈ xs, 1e-290 ≤ y - x) ∨
    ∀ x ∈ xs, x.abs ≤ 4503599627370496 ∧ ∀ y ∈ xs, ¬x < y

theorem size_le_of_abs_le {limit : Float} (finite : x.isFinite = true) (unsigned : Unsigned limit)
    (le : x.abs ≤ limit) : size x ≤ size limit := by
  obtain ⟨negative, b, below, rfl⟩ := Double.exists_toFloat_of_isFinite finite
  rw [Double.abs_toFloat negative below, Unsigned.le_iff ⟨b, below.le, rfl⟩ unsigned,
    Double.size_toFloat false below.le] at le
  rw [Double.size_toFloat negative below.le]
  exact le

theorem Moderate.natAbs_le (moderate : Moderate xs) (finite : AllFinite xs) {x : Float}
    (inside : x ∈ xs) : (worth x).natAbs ≤ 2 ^ (931 + Double.places) := by
  have limit : size 1e280 ≤ 2 ^ (931 + Double.places) := by decide +kernel
  rw [Double.natAbs_worth]
  exact (size_le_of_abs_le (finite x inside) (.of_pos (by decide +kernel))
    (moderate.bounded x inside)).trans limit

theorem two_pow_succ_add (k n : Nat) : 2 ^ (k + 1 + n) = 2 * 2 ^ (k + n) := by
  rw [Nat.add_right_comm, Nat.pow_succ']

/-- Between numbers of some size a range has ends that are at most twice as large. -/
theorem Extent.natAbs_le (extent : Extent low high r) (finite : low.isFinite = true)
    (finite' : high.isFinite = true) (start : (worth low).natAbs ≤ 2 ^ (931 + Double.places))
    (stop : (worth high).natAbs ≤ 2 ^ (931 + Double.places)) :
    (worth r.1).natAbs ≤ 2 ^ (932 + Double.places) ∧
      (worth r.2).natAbs ≤ 2 ^ (932 + Double.places) := by
  have half_le : units half ≤ 2 ^ (931 + Double.places) := by decide +kernel
  have doubled : 2 ^ (932 + Double.places) = 2 * 2 ^ (931 + Double.places) :=
    two_pow_succ_add 931 _
  have unchanged : (worth low).natAbs ≤ 2 ^ (932 + Double.places) ∧
      (worth high).natAbs ≤ 2 ^ (932 + Double.places) := by omega
  cases extent with
  | void least greatest => exact unchanged
  | apart less => exact unchanged
  | equal same =>
    rw [worth_sub_half finite, worth_add_half finite']
    exact ⟨Double.natAbs_roundedSteps_le (by omega), Double.natAbs_roundedSteps_le (by omega)⟩

/-- The gap of moderate samples is not too large. -/
theorem Moderate.gap_le (moderate : Moderate xs) (nonempty : xs ≠ []) (finite : AllFinite xs) :
    size ((range xs).2 - (range xs).1) ≤ 2 ^ (933 + Double.places) := by
  obtain ⟨low, high, least, greatest, extent⟩ := exists_extremes nonempty finite
  obtain ⟨-, gap⟩ := size_gap nonempty finite
  obtain ⟨start, stop⟩ := extent.natAbs_le (finite low least.mem) (finite high greatest.mem)
    (moderate.natAbs_le finite least.mem) (moderate.natAbs_le finite greatest.mem)
  have doubled : 2 ^ (933 + Double.places) = 2 * 2 ^ (932 + Double.places) :=
    two_pow_succ_add 932 _
  have bound := @Double.natAbs_roundedSteps_le (worth (range xs).2 - worth (range xs).1)
    (933 + Double.places) (by omega)
  omega

/-- Two samples that are far enough apart leave a gap. -/
theorem le_gap_of_apart (extent : Extent low high r) (finite : low.isFinite = true)
    (far : 2 ^ 94 ≤ roundedSteps (worth high - worth low)) :
    2 ^ 94 ≤ roundedSteps (worth r.2 - worth r.1) := by
  cases extent with
  | void least greatest =>
    rw [least] at finite
    exact absurd finite (by decide +kernel)
  | apart less => exact far
  | equal same =>
    rw [same, Int.sub_self] at far
    exact absurd far (by decide +kernel)

/-- Equal samples that are not too large are widened. -/
theorem le_gap_of_equal (extent : Extent low high r) (finite : low.isFinite = true)
    (finite' : high.isFinite = true) (same : worth low = worth high)
    (moderate : size high ≤ 2 ^ 52 * stepsOfOne) :
    2 ^ 94 ≤ roundedSteps (worth r.2 - worth r.1) := by
  cases extent with
  | void least greatest =>
    rw [least] at finite
    exact absurd finite (by decide +kernel)
  | apart less => exact absurd same less.ne
  | equal same =>
    rw [← Double.natAbs_worth] at moderate
    have widened := Double.roundedSteps_mono (half_le_widened moderate)
    have kept : roundedSteps (units half) = units half :=
      Double.roundedSteps_steps false half_lt_infinity.le
    have enough : 2 ^ 94 ≤ units half := by decide +kernel
    change _ ≤ roundedSteps (worth (high + _) - worth (low - _))
    rw [worth_sub_half finite, worth_add_half finite', same]
    omega

/-- The gap of moderate samples is not too small. -/
theorem Moderate.le_gap (moderate : Moderate xs) (nonempty : xs ≠ []) (finite : AllFinite xs) :
    2 ^ 94 ≤ size ((range xs).2 - (range xs).1) := by
  obtain ⟨low, high, least, greatest, extent⟩ := exists_extremes nonempty finite
  obtain ⟨-, gap⟩ := size_gap nonempty finite
  have number {x : Float} (inside : x ∈ xs) := Double.isNaN_of_isFinite (finite x inside)
  have order {x y : Float} (inside : x ∈ xs) (inside' : y ∈ xs) :=
    Double.le_iff_worth (number inside) (number inside')
  have enough : 2 ^ 94 ≤ roundedSteps (worth (range xs).2 - worth (range xs).1) := by
    rcases moderate.apart with ⟨x, inside, y, inside', far⟩ | single
    · have limit : 2 ^ 94 ≤ worth 1e-290 := by decide +kernel
      rw [Double.le_iff_worth (by decide +kernel) (Double.isNaN_sub (finite y inside')
        (finite x inside)), Double.worth_sub (finite y inside') (finite x inside)] at far
      have below := (order least.mem inside).1 (least.bound x inside)
      have above := (order inside' greatest.mem).1 (greatest.bound y inside')
      have wider := @Double.roundedSteps_mono (worth y - worth x) (worth high - worth low)
        (by omega)
      exact le_gap_of_apart extent (finite low least.mem) (by omega)
    · have inner : size 4503599627370496 ≤ 2 ^ 52 * stepsOfOne := by decide +kernel
      have bounded := size_le_of_abs_le (finite high greatest.mem) (.of_pos (by decide +kernel))
        (single high greatest.mem).1
      have below := (order least.mem greatest.mem).1 (least.bound high greatest.mem)
      have above : ¬worth low < worth high := by
        rw [← Double.less_iff_worth (number least.mem) (number greatest.mem)]
        exact mt of_decide_eq_true ((single low least.mem).2 high greatest.mem)
      exact le_gap_of_equal extent (finite low least.mem) (finite high greatest.mem) (by omega)
        (bounded.trans inner)
  omega

/-! ## Widths -/

variable {buckets : Nat}

theorem two_pow_lt_units_infinity {k : Nat} (small : k < 1024) :
    2 ^ (k + Double.places) < units infinity := by
  rw [Pattern.units_infinity]
  generalize Double.places = n
  exact Nat.pow_lt_pow_right Nat.one_lt_two (by omega)

theorem width_eq (xs : List Float) (buckets : Nat) : (ofSamples xs buckets).width =
    ((range xs).2 - (range xs).1) / Scalar.ofNat (max buckets 1) := rfl

theorem width_upTo (nonempty : xs ≠ []) (finite : AllFinite xs) (few : buckets ≤ 100000) :
    UpTo (size ((range xs).2 - (range xs).1)) (ofSamples xs buckets).width :=
  (size_gap nonempty finite).1.div_count (by omega) (by omega)

theorem Moderate.wide (moderate : Moderate xs) (nonempty : xs ≠ []) (finite : AllFinite xs)
    (few : buckets ≤ 100000) : Wide 997 (ofSamples xs buckets).width := by
  have gap := moderate.le_gap nonempty finite
  have enough : 1 * 2 ^ 77 * max buckets 1 ≤ size ((range xs).2 - (range xs).1) := by omega
  have width := (size_gap nonempty finite).1.le_size_div (by omega) (by omega) (by decide) enough
  have power : Double.places - 997 = 77 := by rw [Double.places_eq]
  rw [← width_eq, Nat.one_mul] at width
  refine wide_of_le (width_upTo nonempty finite few).unsigned (by omega) ?_
  rw [power]
  exact width

theorem Moderate.area_finite (moderate : Moderate xs) (nonempty : xs ≠ [])
    (finite : AllFinite xs) (few : buckets ≤ 100000) (word : xs.length < 2 ^ 64) :
    (Scalar.ofNat xs.length * (ofSamples xs buckets).width).isFinite = true := by
  have some_sample : 0 < xs.length := List.length_pos_iff.2 nonempty
  have width := width_upTo nonempty finite few
  have narrow := width.size_le.trans (moderate.gap_le nonempty finite)
  obtain ⟨w, within, same⟩ := width.unsigned
  rw [same, Double.size_toFloat false within] at narrow
  have finite' : w < infinity := by
    rw [← Pattern.units_lt_iff]
    exact narrow.trans_lt (two_pow_lt_units_infinity (by decide))
  obtain ⟨below, -⟩ := Double.nearest_count some_sample word
  have few_samples : units (nearest (xs.length * stepsOfOne) 1) ≤ 1 * 2 ^ (64 + Double.places) := by
    refine Pattern.units_nearest_le Nat.one_pos (by decide) ?_
    rw [Nat.one_mul, Nat.mul_one, Nat.pow_add]
    exact Nat.mul_le_mul_right _ word.le
  rw [same, Double.ofNat_eq_nearest]
  generalize nearest (xs.length * stepsOfOne) 1 = n at below few_samples ⊢
  rw [Double.toFloat_mul false false below finite']
  refine Double.isFinite_toFloat _ (Pattern.units_lt_iff.1 ?_)
  calc units (nearest (units n * units w) stepsOfOne) ≤ 1 * 2 ^ (997 + Double.places) := by
        refine Pattern.units_nearest_le Double.stepsOfOne_pos (by decide) ?_
        calc units n * units w ≤ 1 * 2 ^ (64 + Double.places) * 2 ^ (933 + Double.places) :=
              Nat.mul_le_mul few_samples narrow
          _ = 1 * 2 ^ (997 + Double.places) * stepsOfOne := by
            rw [stepsOfOne, Nat.one_mul, Nat.one_mul, ← Nat.pow_add, ← Nat.pow_add]
            congr 1
            omega
    _ < units infinity := by
      rw [Nat.one_mul]
      exact two_pow_lt_units_infinity (by decide)

/-- **Plots of finite samples.** The width of their histogram is a number that is not below
zero. A plot shows the histogram if the width is at least `1e-300` and its product with the
number of samples does not overflow. This is so for samples up to `1e280` in size, two of
which are `1e-290` apart, or all of which are equal and at most `2 ^ 52` in size. -/
theorem plots_are_shown (nonempty : xs ≠ []) (finite : AllFinite xs) (word : xs.length < 2 ^ 64)
    (few : buckets ≤ 100000) :
    let h : Histogram Float := ofSamples xs buckets
    h.width.isNaN = false ∧ 0 ≤ h.width ∧
      (1e-300 ≤ h.width → (Scalar.ofNat xs.length * h.width).isFinite = true → h.Shown) ∧
      (Moderate xs → h.Shown) := by
  intro h
  have width := width_upTo nonempty finite few
  refine ⟨width.unsigned.isNaN, width.unsigned.zero_le, fun large area => ?_, fun moderate => ?_⟩
  · have least : 2 ^ (Double.places - 997) ≤ size 1e-300 := by decide +kernel
    rw [Unsigned.le_iff (.of_pos (by decide +kernel)) width.unsigned] at large
    exact shown_of_width nonempty few word
      (wide_of_le width.unsigned (by rw [Double.places_eq]; decide) (least.trans large)) area
  · exact shown_of_width nonempty few word (moderate.wide nonempty finite few)
      (moderate.area_finite nonempty finite few word)

/-- Equal samples at their limit in as many buckets as can be, and two samples less than
`1e-290` apart. -/
theorem extreme_plots_are_shown :
    ([4503599627370496, 4503599627370496] ≠ ([] : List Float) ∧
      AllFinite [4503599627370496, 4503599627370496] ∧
      Moderate [4503599627370496, 4503599627370496] ∧
      (ofSamples [4503599627370496, 4503599627370496] 100000 : Histogram Float).Shown) ∧
    [0, 1e-296] ≠ ([] : List Float) ∧ AllFinite [0, 1e-296] ∧
      1e-300 ≤ (ofSamples [0, 1e-296] 1000 : Histogram Float).width ∧
      (Scalar.ofNat 2 * (ofSamples [0, 1e-296] 1000 : Histogram Float).width).isFinite = true ∧
      (ofSamples [0, 1e-296] 1000 : Histogram Float).Shown := by
  constructor
  · have nonempty : [4503599627370496, 4503599627370496] ≠ ([] : List Float) := List.cons_ne_nil _ _
    have finite : AllFinite [4503599627370496, 4503599627370496] := by decide +kernel
    have moderate : Moderate [4503599627370496, 4503599627370496] :=
      ⟨by decide +kernel, .inr (by decide +kernel)⟩
    have shown := plots_are_shown nonempty finite (by decide) (Nat.le_refl 100000)
    exact ⟨nonempty, finite, moderate, shown.2.2.2 moderate⟩
  · have nonempty : [0, 1e-296] ≠ ([] : List Float) := List.cons_ne_nil _ _
    have finite : AllFinite [0, 1e-296] := by decide +kernel
    have large : 1e-300 ≤ (ofSamples [0, 1e-296] 1000 : Histogram Float).width := by decide +kernel
    have area : (Scalar.ofNat 2 *
        (ofSamples [0, 1e-296] 1000 : Histogram Float).width).isFinite = true := by
      decide +kernel
    have shown := plots_are_shown nonempty finite (by decide) (by decide : 1000 ≤ 100000)
    exact ⟨nonempty, finite, large, area, shown.2.2.1 large area⟩

/-- Plots that come out blank: of equal samples that half a unit does not change, of samples
so far apart that their gap overflows, and of two for which only twice the width does. -/
theorem plots_come_out_blank :
    (let h : Histogram Float := ofSamples [9007199254740992] 1
     AllFinite [9007199254740992] ∧ h.width = 0 ∧ h.densities.map Float.isFinite = [false] ∧
      h.bars 1 = [0]) ∧
    (let h : Histogram Float := ofSamples [-1e308, 1e308] 1
     AllFinite [-1e308, 1e308] ∧ h.width.isFinite = false ∧ h.bars 1 = [0]) ∧
    let h : Histogram Float := ofSamples [-8e307, 8e307] 1
    AllFinite [-8e307, 8e307] ∧ h.width.isFinite = true ∧ 0 < h.width ∧ h.bars 1 = [0] := by
  decide +kernel

end Histogram

end Timings
