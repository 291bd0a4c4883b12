import Timings.Proofs.Blocks
import Timings.Proofs.Counts
import Timings.Proofs.Sizes
import Timings.Proofs.Statistics

/-!
# Histograms that can be plotted

The bars of a plot are in proportion to the highest column. So one of them is the tallest
and none is taller (`bars_of_columns`), as long as the columns are finite and one of them is
above zero. Columns are means of densities, so this is a matter of the densities
(`columns_of_densities`), and these are counts by the product of the total and the width
(`density_bounds`): a width that is not too small keeps them finite and their sums as well,
and a product that does not overflow keeps them above zero.

* `shown_of_width`: what a plot needs of the width.
-/

namespace Timings.Histogram

open Double (Unsigned UpTo size stepsOfOne)
open Pattern (infinity nearest toFloat units)

/-! ## Bars -/

section Bars

variable {c peak : Float} {b : Nat}

theorem nearest_tallest : Scalar.nearest (Scalar.ofNat tallest : Float) = tallest := by
  decide +kernel

/-- What is at most as high as the tallest bar is rounded to no taller one. -/
theorem nearest_le_tallest (finite : b < infinity) (le : units b ≤ tallest * stepsOfOne) :
    Scalar.nearest (toFloat false b) ≤ tallest := by
  have one := Double.stepsOfOne_pos
  have word : units b < 2 ^ 64 * stepsOfOne :=
    Nat.lt_of_le_of_lt le (Nat.mul_lt_mul_of_pos_right (by decide) one)
  have whole : (toFloat false b).toUInt64.toNat = units b / stepsOfOne :=
    Double.whole_toFloat finite word
  rcases Nat.lt_or_eq_of_le le with less | full
  · have below := (Nat.div_lt_iff_lt_mul one).2 less
    change (if 0.5 ≤ toFloat false b - (toFloat false b).toUInt64.toFloat
      then min ((toFloat false b).toUInt64.toNat + 1) largestWord
      else (toFloat false b).toUInt64.toNat) ≤ tallest
    split <;> omega
  · obtain ⟨t, finite', top, worth⟩ := @Double.ofNat_eq tallest (by decide)
    have same : b = t := Pattern.units_inj.1 (full.trans worth.symm)
    rw [same, ← top, nearest_tallest]

/-- A column in proportion to the peak: it is no higher, and the peak has the tallest bar. -/
theorem nearest_share (column : Unsigned c) (highest : Unsigned peak) (le : size c ≤ size peak)
    (finite : size peak < units infinity) (positive : 0 < size peak) :
    Scalar.nearest (c / peak * Scalar.ofNat tallest) ≤ tallest ∧
      (size c = size peak → Scalar.nearest (c / peak * Scalar.ofNat tallest) = tallest) := by
  obtain ⟨q, within, rfl⟩ := column
  obtain ⟨m, within', rfl⟩ := highest
  rw [Double.size_toFloat false within, Double.size_toFloat false within'] at le
  rw [Double.size_toFloat false within'] at finite positive
  rw [Double.size_toFloat false within, Double.size_toFloat false within']
  have finite' := Pattern.units_lt_iff.1 finite
  have order := Pattern.units_le_iff.1 le
  have nonzero : m ≠ 0 := fun zero => positive.ne' (Double.units_eq_zero_iff.2 zero)
  obtain ⟨one, oneFinite, oneWorth⟩ := Double.exists_units_eq_stepsOfOne
  obtain ⟨t, topFinite, top, topWorth⟩ := @Double.ofNat_eq tallest (by decide)
  have share : nearest (units q * stepsOfOne) (units m) ≤ one := by
    apply Pattern.nearest_le positive
    rw [oneWorth, Nat.mul_comm]
    exact Nat.mul_le_mul_left _ le
  have full (same : units q = units m) : nearest (units q * stepsOfOne) (units m) = one := by
    rw [same, ← oneWorth, Nat.mul_comm]
    exact Pattern.nearest_units_mul oneFinite.le positive
  rw [Double.toFloat_div false false (order.trans_lt finite') finite' nonzero, top,
    Bool.xor_self]
  generalize nearest (units q * stepsOfOne) (units m) = r at share full
  rw [Double.toFloat_mul false false (share.trans_lt oneFinite) topFinite, Bool.xor_self]
  have worth : units r ≤ stepsOfOne := oneWorth.subst (Pattern.units_le_iff.2 share)
  have height : nearest (units r * units t) stepsOfOne ≤ t := by
    apply Pattern.nearest_le Double.stepsOfOne_pos
    rw [Nat.mul_comm]
    exact Nat.mul_le_mul_left _ worth
  constructor
  · refine nearest_le_tallest (height.trans_lt topFinite) ?_
    rw [← topWorth]
    exact Pattern.units_le_iff.2 height
  · intro same
    have bar : nearest (units r * units t) stepsOfOne = t := by
      rw [full same, oneWorth, Nat.mul_comm]
      exact Pattern.nearest_units_mul topFinite.le Double.stepsOfOne_pos
    rw [bar, ← top, nearest_tallest]

end Bars

variable {h : Histogram Float} {columns : Nat}

/-- The bars of finite columns, one of which is above zero. -/
theorem bars_of_columns
    (finite : ∀ c ∈ h.onColumns columns, Unsigned c ∧ size c < units infinity)
    (positive : ∃ c ∈ h.onColumns columns, 0 < size c) :
    tallest ∈ h.bars columns ∧ ∀ bar ∈ h.bars columns, bar ≤ tallest := by
  have all : AllFinite (Scalar.ofNat 0 :: h.onColumns columns) := by
    intro c inside
    rcases List.mem_cons.1 inside with rfl | inside
    · decide +kernel
    · exact (Double.isFinite_iff_size (finite c inside).1.isNaN).2 (finite c inside).2
  have known := (RunningState.represents_ofList (List.cons_ne_nil _ _) all).greatest
  rw [max_ofList, List.foldl_cons,
    Double.greatest_negInfinity (all _ (List.mem_cons_self ..))] at known
  unfold bars
  dsimp only
  generalize (h.onColumns columns).foldl Scalar.greatest (Scalar.ofNat 0) = peak at known
  obtain ⟨c, inside, above⟩ := positive
  have unsigned : Unsigned peak := by
    rcases List.mem_cons.1 known.mem with rfl | inside
    · exact .zero
    · exact (finite peak inside).1
  have bound (d : Float) (member : d ∈ h.onColumns columns) : size d ≤ size peak :=
    ((finite d member).1.le_iff unsigned).1 (known.bound d (List.mem_cons_of_mem _ member))
  have high : 0 < size peak := above.trans_le (bound c inside)
  have member : peak ∈ h.onColumns columns := by
    rcases List.mem_cons.1 known.mem with rfl | member
    · exact absurd Double.size_zero high.ne'
    · exact member
  have less : Scalar.less (Scalar.ofNat 0) peak = true := by
    rw [Unsigned.zero.less_iff unsigned, Double.size_zero]
    exact high
  have share (d : Float) (inside : d ∈ h.onColumns columns) :=
    nearest_share (finite d inside).1 unsigned (bound d inside) (finite peak member).2 high
  rw [if_pos less]
  constructor
  · exact List.mem_map.2 ⟨peak, member, (share peak member).2 rfl⟩
  · intro bar inside
    obtain ⟨d, member, rfl⟩ := List.mem_map.1 inside
    exact (share d member).1

/-! ## Columns -/

/-- The columns of densities that are not too large: they are finite, and the one that shows a
density which is not too small is above zero. -/
theorem columns_of_densities {k : Nat} (few : h.densities.length ≤ 100000)
    (each : ∀ d ∈ h.densities, UpTo (2 ^ k) d) (small : 2 ^ 17 * 2 ^ k < units infinity)
    (some_density : ∃ d ∈ h.densities, 2 ^ 50 ≤ size d) (columns : Nat) :
    (∀ c ∈ h.onColumns columns, Unsigned c ∧ size c < units infinity) ∧
      ∃ c ∈ h.onColumns columns, 0 < size c := by
  unfold onColumns
  dsimp only
  generalize (h.densities.length + max columns 1 - 1) / max columns 1 = n
  have shown {block : List Float} (inside : block ∈ blocks n h.densities) :
      0 < block.length ∧ block.length ≤ 100000 ∧ ∀ d ∈ block, UpTo (2 ^ k) d := by
    have part := sublist_of_mem_blocks inside
    exact ⟨List.length_pos_iff.2 (ne_nil_of_mem_blocks inside), part.length_le.trans few,
      fun d member => each d (part.subset member)⟩
  constructor
  · intro c inside
    obtain ⟨block, member, rfl⟩ := List.mem_map.1 inside
    obtain ⟨some_value, short, block_each⟩ := shown member
    obtain ⟨sum, -⟩ := Double.sum_upTo block_each (by omega)
    have mean := sum.unsigned.div_count some_value (by omega)
    refine ⟨mean.unsigned, ?_⟩
    calc size (Scalar.sum block / Scalar.ofNat block.length) ≤ size (Scalar.sum block) :=
          mean.size_le
      _ ≤ block.length * 2 ^ k := sum.size_le
      _ ≤ 2 ^ 17 * 2 ^ k := Nat.mul_le_mul_right _ (by omega)
      _ < units infinity := small
  · obtain ⟨d, inside, large⟩ := some_density
    rw [← flatten_blocks n h.densities] at inside
    obtain ⟨block, member, holds⟩ := List.mem_flatten.1 inside
    obtain ⟨some_value, short, block_each⟩ := shown member
    obtain ⟨sum, bound⟩ := Double.sum_upTo block_each (by omega)
    have step : 1 * 2 ^ 0 * block.length ≤ size (Scalar.sum block) := by
      have total := bound d holds
      omega
    exact ⟨_, List.mem_map_of_mem member,
      sum.unsigned.le_size_div some_value (by omega) (by omega) step⟩

/-! ## Densities -/

theorem mul_infinity {b : Nat} (finite : b < infinity) (positive : 0 < units b) :
    toFloat false b * toFloat false infinity = toFloat false infinity := by
  rcases Double.unpack_toFloat false finite with ⟨rfl, -⟩ | ⟨m, e, pos, unpacked, -, -⟩
  · cases positive
  · change Float.ofModel (Float.Model.pack (Float.Model.UnpackedFloat.mul
      Float.Model.Format.binary64 (toFloat false b).toModel.unpack
      (toFloat false infinity).toModel.unpack)) = _
    rw [unpacked, Double.unpack_infinity, ← Double.ofModel_pack_infinity]
    rfl

/-- A width that is at least one by a power of two. -/
structure Wide (k : Nat) (width : Float) : Prop where
  unsigned : Unsigned width
  one_le : stepsOfOne ≤ size width * 2 ^ k

variable {width : Float} {total count k : Nat}

theorem wide_of_le (unsigned : Unsigned width) (small : k ≤ Double.places)
    (le : 2 ^ (Double.places - k) ≤ size width) : Wide k width where
  unsigned := unsigned
  one_le :=
    calc stepsOfOne = 2 ^ (Double.places - k) * 2 ^ k := by
          rw [stepsOfOne, ← Nat.pow_add, Nat.sub_add_cancel small]
      _ ≤ size width * 2 ^ k := Nat.mul_le_mul_right _ le

theorem Wide.size_pos (wide : Wide k width) : 0 < size width := by
  rcases Nat.eq_zero_or_pos (size width) with zero | positive
  · have one := wide.one_le
    rw [zero, Nat.zero_mul] at one
    exact absurd one (Nat.not_le.2 Double.stepsOfOne_pos)
  · exact positive

/-- A product with a total that does not overflow has a finite factor. -/
theorem size_lt_of_area (unsigned : Unsigned width) (some_sample : 0 < total)
    (word : total < 2 ^ 64) (area : (Scalar.ofNat total * width).isFinite = true) :
    size width < units infinity := by
  obtain ⟨w, within, rfl⟩ := unsigned
  rw [Double.size_toFloat false within]
  rcases Nat.lt_or_eq_of_le within with finite | rfl
  · exact Pattern.units_lt_iff.2 finite
  · obtain ⟨finite, one⟩ := Double.nearest_count some_sample word
    rw [Double.ofNat_eq_nearest, mul_infinity finite (Double.stepsOfOne_pos.trans_le one)] at area
    exact absurd area (by decide +kernel)

/-- What counts are divided by: the total by the width, if this does not overflow. It is not
far below the total. -/
theorem exists_area (wide : Wide k width) (some_sample : 0 < total) (word : total < 2 ^ 64)
    (area : (Scalar.ofNat total * width).isFinite = true) :
    ∃ p < infinity, Scalar.ofNat total * width = toFloat false p ∧ 0 < units p ∧
      units (nearest (total * stepsOfOne) 1) * stepsOfOne ≤
        2 ^ (Double.places + k + 1) * units p := by
  have bounded := size_lt_of_area wide.unsigned some_sample word area
  have some_step := wide.size_pos
  obtain ⟨⟨w, within, rfl⟩, wide⟩ := wide
  rw [Double.size_toFloat false within] at wide bounded some_step
  have finite' := Pattern.units_lt_iff.1 bounded
  obtain ⟨finite, one⟩ := Double.nearest_count some_sample word
  rw [Double.ofNat_eq_nearest] at area ⊢
  generalize nearest (total * stepsOfOne) 1 = n at area finite one ⊢
  have positive := Double.stepsOfOne_pos
  have overflow := Double.isFinite_iff_size (Double.isNaN_of_isFinite area)
  rw [Double.toFloat_mul false false finite finite', Bool.xor_self] at area overflow ⊢
  have below := overflow.1 area
  rw [Double.size_toFloat false (Pattern.nearest_le_infinity _ _), Pattern.units_lt_iff] at below
  have product := Pattern.lt_two_mul_nearest positive
    (Nat.le_trans one (Nat.le_mul_of_pos_right _ some_step)) below
  generalize nearest (units n * units w) stepsOfOne = p at below product ⊢
  refine ⟨p, below, rfl, ?_, ?_⟩
  · rcases Nat.eq_zero_or_pos (units p) with zero | positive
    · rw [zero, Nat.mul_zero, Nat.zero_mul] at product
      exact absurd product (Nat.not_lt_zero _)
    · exact positive
  · calc units n * stepsOfOne ≤ units n * (units w * 2 ^ k) := Nat.mul_le_mul_left _ wide
      _ = units n * units w * 2 ^ k := (Nat.mul_assoc ..).symm
      _ ≤ 2 * units p * stepsOfOne * 2 ^ k := Nat.mul_le_mul_right _ product.le
      _ = 2 ^ (Double.places + k + 1) * units p := by
        rw [stepsOfOne, Nat.pow_succ, Nat.pow_add]
        ring

/-- The density of a bucket is bounded, and not too small if there is a sample in it. -/
theorem density_bounds (wide : Wide k width) (some_sample : 0 < total) (word : total < 2 ^ 64)
    (area : (Scalar.ofNat total * width).isFinite = true) (part : count ≤ total) :
    UpTo (2 ^ (Double.places + k + 1)) (density width total count) ∧
      (0 < count → 2 ^ 50 ≤ size (density width total count)) := by
  obtain ⟨p, below, product, positive, large⟩ := exists_area wide some_sample word area
  obtain ⟨finite, -⟩ := Double.nearest_count some_sample word
  have nonzero : p ≠ 0 := fun zero => positive.ne' (Double.units_eq_zero_iff.2 zero)
  have fewer : nearest (count * stepsOfOne) 1 ≤ nearest (total * stepsOfOne) 1 :=
    Pattern.nearest_mono Nat.one_pos (Nat.mul_le_mul_right _ part)
  have worth := Pattern.units_le_iff.2 fewer
  have least (some_count : 0 < count) :=
    (Double.nearest_count some_count (Nat.lt_of_le_of_lt part word)).2
  rw [density, if_neg some_sample.ne', product, Double.ofNat_eq_nearest,
    Double.toFloat_div false false (fewer.trans_lt finite) below nonzero, Bool.xor_self]
  generalize nearest (count * stepsOfOne) 1 = c at worth least ⊢
  have within := Pattern.nearest_le_infinity (units c * stepsOfOne) (units p)
  have upper := @Pattern.units_nearest_le (units c * stepsOfOne) (units p) 1
    (Double.places + k + 1) positive (by decide)
  have lower := @Pattern.le_units_nearest (units c * stepsOfOne) (units p) 1 50 positive (by decide)
  rw [Nat.one_mul] at upper lower
  generalize nearest (units c * stepsOfOne) (units p) = d at within upper lower ⊢
  rw [Double.size_toFloat false within]
  refine ⟨⟨⟨d, within, rfl⟩, ?_⟩, fun some_count => ?_⟩
  · rw [Double.size_toFloat false within]
    exact upper ((Nat.mul_le_mul_right _ worth).trans large)
  · have overflow := (Pattern.units_lt_iff.2 below).le
    have squared : 2 ^ 50 * units infinity = stepsOfOne * stepsOfOne := by
      have places := Double.places_eq
      rw [Pattern.units_infinity, stepsOfOne]
      generalize Double.places = n at places ⊢
      have exponents : 50 + (n + 1024) = n + n := by omega
      rw [← Nat.pow_add, ← Nat.pow_add, exponents]
    refine lower ?_ ?_
    · rw [Pattern.units_infinity]
      generalize Double.places = n
      exact Nat.pow_le_pow_right Nat.two_pos (by omega)
    · calc 2 ^ 50 * units p ≤ 2 ^ 50 * units infinity := Nat.mul_le_mul_left _ overflow
        _ = stepsOfOne * stepsOfOne := squared
        _ ≤ units c * stepsOfOne := Nat.mul_le_mul_right _ (least some_count)

/-! ## What a plot needs -/

/-- A histogram that a plot shows: its width and its densities are finite, the width is above
zero, and on any number of columns one bar is the tallest and none is taller. -/
structure Shown (h : Histogram Float) : Prop where
  width_finite : h.width.isFinite = true
  width_pos : 0 < h.width
  densities : ∀ d ∈ h.densities, d.isFinite = true
  bars : ∀ columns, tallest ∈ h.bars columns ∧ ∀ bar ∈ h.bars columns, bar ≤ tallest

/-- A plot shows the histogram of some samples if its width is not too small, and neither is
the product of their number and the width too large. -/
theorem shown_of_width {xs : List Float} {buckets : Nat} (nonempty : xs ≠ [])
    (few : buckets ≤ 100000) (word : xs.length < 2 ^ 64)
    (wide : Wide 997 (ofSamples xs buckets).width)
    (area : (Scalar.ofNat xs.length * (ofSamples xs buckets).width).isFinite = true) :
    (ofSamples xs buckets).Shown := by
  have some_sample : 0 < xs.length := List.length_pos_iff.2 nonempty
  have some_bucket : 0 < max buckets 1 := by omega
  have length : (ofSamples xs buckets).counts.length = max buckets 1 :=
    length_countSamples _ _ _ _
  have total : (ofSamples xs buckets).counts.sum = xs.length := sum_countSamples some_bucket xs
  have shared : (ofSamples xs buckets).densities =
      (ofSamples xs buckets).counts.map (density (ofSamples xs buckets).width xs.length) := rfl
  generalize ofSamples xs buckets = h at wide area length total shared
  have bounds {count : Nat} (inside : count ∈ h.counts) :=
    density_bounds wide some_sample word area (total ▸ List.le_sum_of_mem inside)
  have each : ∀ d ∈ h.densities, UpTo (2 ^ (Double.places + 997 + 1)) d := by
    intro d inside
    rw [shared] at inside
    obtain ⟨count, member, rfl⟩ := List.mem_map.1 inside
    exact (bounds member).1
  have small : 2 ^ 17 * 2 ^ (Double.places + 997 + 1) < units infinity := by
    rw [Pattern.units_infinity, ← Nat.pow_add]
    generalize Double.places = n
    exact Nat.pow_lt_pow_right Nat.one_lt_two (by omega)
  have some_density : ∃ d ∈ h.densities, 2 ^ 50 ≤ size d := by
    obtain ⟨count, member, some_count⟩ := List.sum_pos_iff_exists_pos_nat.1 (total ▸ some_sample)
    refine ⟨_, ?_, (bounds member).2 some_count⟩
    rw [shared]
    exact List.mem_map_of_mem member
  have few : h.densities.length ≤ 100000 := by
    rw [shared, List.length_map, length]
    omega
  refine ⟨?_, ?_, fun d inside => ?_, fun columns => ?_⟩
  · rw [Double.isFinite_iff_size wide.unsigned.isNaN]
    exact size_lt_of_area wide.unsigned some_sample word area
  · rw [← Double.less_zero_iff, Unsigned.zero.less_iff wide.unsigned, Double.size_zero]
    exact wide.size_pos
  · have bound := each d inside
    rw [Double.isFinite_iff_size bound.unsigned.isNaN]
    exact bound.size_le.trans_lt
      ((Nat.le_mul_of_pos_left _ (Nat.two_pow_pos 17)).trans_lt small)
  · obtain ⟨finite, positive⟩ := columns_of_densities few each small some_density columns
    exact bars_of_columns finite positive

end Timings.Histogram
