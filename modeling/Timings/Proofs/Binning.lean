import Mathlib.Algebra.Order.Floor.Ring
import Mathlib.Data.Rat.Floor
import Timings.Proofs.Counts
import Timings.Proofs.Variance

/-!
# Exact buckets

Over exact numbers the buckets of a histogram divide the range of the samples
(`Histogram.Edges`) into parts of one width. Each part has its left edge, and the last one
the right edge of the range as well (`Histogram.InBucket`), so every sample lies in one of
them.

* `bucketOf_eq_iff`: the bucket a sample is counted in is the part it lies in.
* `whole_eq_iff`: only at the right edge of the range is there no such part, and the sample
  is counted in the last one.
* `exact_buckets`: the counts and the densities of a histogram.
-/

namespace Timings.Histogram

open Exact (Spans finite)

variable {root : ℚ → ℚ} {xs : List ℚ} {start stop w x : ℚ} {buckets i : Nat}

/-! ## The range -/

/-- The edges of the range of some samples: the least and the greatest of them, or half a
unit on either side if all are equal. -/
inductive Edges (xs : List ℚ) : ℚ → ℚ → Prop
  | apart {least greatest : ℚ} (spans : Spans least greatest xs) (distinct : least < greatest) :
    Edges xs least greatest
  | equal (value : ℚ) (nonempty : xs ≠ []) (same : ∀ x ∈ xs, x = value) :
    Edges xs (value - 1 / 2) (value + 1 / 2)

theorem Edges.lt (edges : Edges xs start stop) : start < stop := by
  cases edges with
  | apart spans distinct => exact distinct
  | equal value nonempty same => linarith

theorem Edges.between (edges : Edges xs start stop) : ∀ x ∈ xs, start ≤ x ∧ x ≤ stop := by
  intro x inside
  cases edges with
  | apart spans distinct => exact spans.between x inside
  | equal value nonempty same =>
    rw [same x inside]
    constructor <;> linarith

theorem exists_edges (nonempty : xs ≠ []) :
    ∃ start stop, Edges xs start stop ∧
      range (xs.map finite : List (Exact root)) = (finite start, finite stop) := by
  obtain ⟨least, greatest, known⟩ := @RunningState.exists_tallies_ofList root xs nonempty
  have filled : xs.map (finite : ℚ → Exact root) ≠ [] := mt List.map_eq_nil_iff.1 nonempty
  have number (a : ℚ) : Scalar.isNaN (finite a : Exact root) = false := rfl
  have half : (Scalar.ofNat 1 : Exact root) / Scalar.ofNat 2 = finite (1 / 2) := by
    change finite ((1 : ℕ) : ℚ) / Scalar.ofNat 2 = _
    rw [Exact.div_ofNat _ two_ne_zero, Nat.cast_one, Nat.cast_ofNat]
  have order : least ≤ greatest := (known.spans.between _ known.spans.greatest_mem).1
  rw [range_eq filled]
  dsimp only
  rw [known.min, known.max, number, number, Exact.less_finite, Exact.less_finite,
    decide_eq_false (not_lt.2 order), half]
  rcases order.lt_or_eq with distinct | same
  · rw [decide_eq_true distinct]
    exact ⟨least, greatest, .apart known.spans distinct, rfl⟩
  · rw [decide_eq_false (not_lt.2 same.ge)]
    refine ⟨least - 1 / 2, least + 1 / 2, .equal least nonempty ?_, ?_⟩
    · intro x inside
      obtain ⟨low, high⟩ := known.spans.between x inside
      exact le_antisymm (high.trans same.ge) low
    · rw [← same, sub_eq_add_neg]
      rfl

/-! ## Buckets -/

/-- A number lies in a bucket: between its edges, the left one included, and in the last
bucket the right one as well. -/
def InBucket (start w : ℚ) (buckets i : Nat) (x : ℚ) : Prop :=
  start + i * w ≤ x ∧ (x < start + (i + 1) * w ∨ i + 1 = buckets ∧ x = start + buckets * w)

instance : Decidable (InBucket start w buckets i x) :=
  inferInstanceAs (Decidable (_ ∧ _))

theorem whole_eq_floor (start x : ℚ) (positive : 0 < w) :
    Scalar.whole ((finite x - finite start : Exact root) / finite w) = ⌊(x - start) / w⌋₊ := by
  have quotient : (finite x - finite start : Exact root) / finite w =
      finite ((x - start) / w) := by
    rw [sub_eq_add_neg]
    exact if_neg positive.ne'
  rw [quotient]
  exact Int.floor_toNat ((x - start) / w)

/-- How far a number is from the start, counted in buckets. -/
theorem inBucket_iff (positive : 0 < w) :
    InBucket start w buckets i x ↔
      (i : ℚ) ≤ (x - start) / w ∧
        ((x - start) / w < i + 1 ∨ i + 1 = buckets ∧ (x - start) / w = buckets) := by
  unfold InBucket
  rw [le_div_iff₀ positive, div_lt_iff₀ positive, div_eq_iff positive.ne', le_sub_iff_add_le',
    sub_lt_iff_lt_add', sub_eq_iff_eq_add']

/-- The bucket a sample is counted in is the one it lies in. -/
theorem bucketOf_eq_iff (positive : 0 < w) (low : start ≤ x) (high : x ≤ start + buckets * w)
    (inside : i < buckets) :
    bucketOf (finite start : Exact root) (finite w) buckets (finite x) = i ↔
      InBucket start w buckets i x := by
  have nonneg : 0 ≤ (x - start) / w := div_nonneg (sub_nonneg.2 low) positive.le
  have atMost : (x - start) / w ≤ buckets := (div_le_iff₀ positive).2 (sub_le_iff_le_add'.2 high)
  rw [inBucket_iff positive, bucketOf, whole_eq_floor start x positive]
  generalize (x - start) / w = q at nonneg atMost
  rcases atMost.lt_or_eq with below | last
  · -- the clamp does nothing
    have whole : ⌊q⌋₊ < buckets := (Nat.floor_lt nonneg).2 below
    have clamp : min ⌊q⌋₊ (buckets - 1) = ⌊q⌋₊ := Nat.min_eq_left (Nat.le_sub_one_of_lt whole)
    rw [clamp, Nat.floor_eq_iff nonneg]
    refine and_congr_right fun _ => (or_iff_left ?_).symm
    intro other
    exact below.ne other.2
  · have clamp : min buckets (buckets - 1) = buckets - 1 := Nat.min_eq_right (Nat.sub_le ..)
    have beyond : ¬(buckets : ℚ) < i + 1 := by
      rw [not_lt]
      exact_mod_cast inside
    rw [last, Nat.floor_natCast, clamp, Nat.cast_le, or_iff_right beyond,
      and_iff_left rfl]
    omega

/-- Only the right edge of the range lies beyond the buckets. -/
theorem whole_eq_iff (positive : 0 < w) (low : start ≤ x) (high : x ≤ start + buckets * w) :
    buckets ≤ Scalar.whole ((finite x - finite start : Exact root) / finite w) ↔
      x = start + buckets * w := by
  have nonneg : 0 ≤ (x - start) / w := div_nonneg (sub_nonneg.2 low) positive.le
  rw [whole_eq_floor start x positive, Nat.le_floor_iff nonneg, le_div_iff₀ positive,
    le_sub_iff_add_le']
  exact ⟨fun reached => le_antisymm high reached, fun same => same.ge⟩

/-- Every number in the range lies in one bucket. -/
theorem existsUnique_inBucket (positive : 0 < w) (low : start ≤ x)
    (high : x ≤ start + buckets * w) (some_bucket : 0 < buckets) :
    ∃! i, i < buckets ∧ InBucket start w buckets i x := by
  have member := fun i => @bucketOf_eq_iff id start w x buckets i positive low high
  have inside := bucketOf_lt (finite start : Exact id) (finite w) some_bucket (finite x)
  refine ⟨_, ⟨inside, (member _ inside).1 rfl⟩, ?_⟩
  intro i other
  exact ((member i other.1).2 other.2).symm

/-! ## The histogram -/

theorem sum_map_natCast_div (counts : List Nat) (c : ℚ) :
    (counts.map fun count : Nat => (count : ℚ) / c).sum = counts.sum / c := by
  induction counts with
  | nil => simp
  | cons count counts ih =>
    rw [List.map_cons, List.sum_cons, ih, List.sum_cons, Nat.cast_add, add_div]

/-- A density is the share of the samples by the width. -/
theorem density_finite {total : Nat} (some_sample : total ≠ 0) (positive : 0 < w) (count : Nat) :
    density (finite w : Exact root) total count = finite (count / (total * w)) := by
  have area : (total : ℚ) * w ≠ 0 := mul_ne_zero (Nat.cast_ne_zero.2 some_sample) positive.ne'
  rw [density, if_neg some_sample]
  exact if_neg area

/-- Where every sample is in the range, a bucket counts the samples that lie in it. -/
theorem getElem?_countSamples_finite (positive : 0 < w)
    (within : ∀ x ∈ xs, start ≤ x ∧ x ≤ start + buckets * w) (inside : i < buckets) :
    (countSamples (finite start : Exact root) (finite w) buckets (xs.map finite))[i]? =
      some (xs.countP fun x => InBucket start w buckets i x) := by
  rw [getElem?_countSamples inside, List.countP_map]
  refine congrArg some (List.countP_congr fun x member => ?_)
  obtain ⟨low, high⟩ := within x member
  rw [Function.comp_apply, beq_iff_eq, decide_eq_true_iff,
    bucketOf_eq_iff positive low high inside]

/-- Shares of all the samples, each over one width, cover an area of one. -/
theorem area_eq_one {counts : List Nat} {total : Nat} (some_sample : total ≠ 0)
    (positive : 0 < w) (all : counts.sum = total) :
    ((counts.map fun count : Nat => (count : ℚ) / (total * w)).map (· * w)).sum = 1 := by
  have share (count : Nat) : (count : ℚ) / (total * w) * w = count / total := by
    rw [div_mul_eq_div_div, div_mul_cancel₀ _ positive.ne']
  rw [List.map_map]
  simp only [Function.comp_def, share]
  rw [sum_map_natCast_div, all, div_self (Nat.cast_ne_zero.2 some_sample)]

/-- **Exact buckets.** The histogram of exact samples starts and stops at the edges of
their range, and its buckets have one width above zero. Every bucket counts the samples
that lie in it. Every sample lies in one bucket, so the counts add up to the number of
samples, and the area under the densities is one. A sample is counted elsewhere than its
distance from the start says only if it is the right edge of the range. -/
theorem exact_buckets (root : ℚ → ℚ) {xs : List ℚ} (nonempty : xs ≠ []) (buckets : Nat) :
    let h : Histogram (Exact root) := ofSamples (xs.map finite) buckets
    ∃ (start stop w : ℚ) (densities : List ℚ),
      Edges xs start stop ∧ 0 < w ∧
        h.start = finite start ∧ h.stop = finite stop ∧ h.width = finite w ∧
        h.counts.length = max buckets 1 ∧
        (∀ i < max buckets 1,
          h.counts[i]? = some (xs.countP fun x => InBucket start w (max buckets 1) i x)) ∧
        h.total = xs.length ∧
        h.densities = densities.map finite ∧ (densities.map (· * w)).sum = 1 ∧
        ∀ x ∈ xs,
          (∃! i, i < max buckets 1 ∧ InBucket start w (max buckets 1) i x) ∧
            (max buckets 1 ≤ Scalar.whole ((finite x - h.start) / h.width) ↔ x = stop) := by
  intro h
  have some_bucket : 0 < max buckets 1 := by omega
  have some_sample : xs.length ≠ 0 := mt List.length_eq_zero_iff.1 nonempty
  obtain ⟨start, stop, edges, range⟩ := @exists_edges root xs nonempty
  have quotient : h.width = finite ((stop - start) / (max buckets 1 : ℕ)) := by
    change ((Histogram.range (xs.map finite)).2 - (Histogram.range (xs.map finite)).1) /
      Scalar.ofNat (max buckets 1) = _
    rw [range, ← Exact.div_ofNat _ some_bucket.ne', sub_eq_add_neg]
    rfl
  have left : h.start = finite start := congrArg Prod.fst range
  have counted : h.counts = countSamples h.start h.width (max buckets 1) (xs.map finite) := rfl
  have shared : h.densities = h.counts.map (density h.width (xs.map finite).length) := rfl
  generalize max buckets 1 = B at some_bucket quotient counted
  have count : (0 : ℚ) < B := Nat.cast_pos.2 some_bucket
  have positive : 0 < (stop - start) / B := div_pos (sub_pos.2 edges.lt) count
  have last : start + B * ((stop - start) / B) = stop := by
    rw [mul_div_cancel₀ _ count.ne', add_sub_cancel]
  generalize (stop - start) / (B : ℚ) = w at quotient positive last
  have within : ∀ x ∈ xs, start ≤ x ∧ x ≤ start + B * w := by
    rw [last]
    exact edges.between
  have length : h.counts.length = B := by rw [counted, length_countSamples]
  have total : h.counts.sum = xs.length := by
    rw [counted, sum_countSamples some_bucket, List.length_map]
  refine ⟨start, stop, w, h.counts.map fun count : Nat => (count : ℚ) / (xs.length * w), edges,
    positive, left, ?_, quotient, length, ?_, total, ?_, ?_, ?_⟩
  · change h.start + h.width * Scalar.ofNat h.counts.length = _
    rw [left, quotient, length, ← last, mul_comm]
    rfl
  · intro i inside
    rw [counted, left, quotient]
    exact getElem?_countSamples_finite positive within inside
  · rw [shared, quotient, List.length_map, List.map_map]
    exact List.map_congr_left fun count _ => density_finite some_sample positive count
  · exact area_eq_one some_sample positive total
  · intro x member
    obtain ⟨low, high⟩ := within x member
    rw [left, quotient, whole_eq_iff positive low high, last]
    exact ⟨existsUnique_inBucket positive low high some_bucket, Iff.rfl⟩

/-- Five samples in four buckets: one lies on an edge between two of them, and the
greatest, which is there twice, on the right edge of the last. -/
theorem five_samples_in_buckets :
    [1, 3, 2, 5, 5] ≠ ([] : List ℚ) ∧
      let h : Histogram (Exact id) := ofSamples ([1, 3, 2, 5, 5].map finite) 4
      ∃ densities : List ℚ,
        Edges [1, 3, 2, 5, 5] 1 5 ∧
          h.start = finite 1 ∧ h.stop = finite 5 ∧ h.width = finite 1 ∧
          h.counts = [1, 1, 1, 2] ∧ h.total = 5 ∧
          h.densities = densities.map finite ∧ (densities.map (· * 1)).sum = 1 := by
  have nonempty : [1, 3, 2, 5, 5] ≠ ([] : List ℚ) := List.cons_ne_nil _ _
  refine ⟨nonempty, ?_⟩
  intro h
  obtain ⟨start, stop, w, densities, edges, -, left, right, width, -, -, total, shares, area, -⟩ :=
    exact_buckets id nonempty 4
  have start_eq : (finite 1 : Exact id) = finite start := left ▸ by decide +kernel
  have stop_eq : (finite 5 : Exact id) = finite stop := right ▸ by decide +kernel
  have width_eq : (finite 1 : Exact id) = finite w := width ▸ by decide +kernel
  cases start_eq
  cases stop_eq
  cases width_eq
  exact ⟨densities, edges, left, right, width, by decide +kernel, total, shares, area⟩

end Timings.Histogram
