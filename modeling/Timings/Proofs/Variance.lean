import Mathlib.Algebra.BigOperators.Group.List.Basic
import Mathlib.Algebra.Order.BigOperators.Group.List
import Mathlib.Algebra.Order.Field.Basic
import Mathlib.Tactic.FieldSimp
import Mathlib.Tactic.Linarith
import Mathlib.Tactic.Ring
import Timings.Proofs.ExactMerge
import Timings.Proofs.Grouping

/-!
The mean and the variance that one pass gives.

Over exact numbers a state tallies its values: it counts them, adds them and their squares,
and its extremes are two of them (`RunningState.Tallies`). Every value taken in keeps this.
The variance of a summary is found without a second pass over the values, from the sums
alone; `Exact.variance_eq` says that it is the mean of the squared deviations. So it lies
between zero, which only equal values reach, and what the extremes allow, and is cut off
nowhere.
-/

namespace Timings

variable {root : ℚ → ℚ}

/-! ## Numbers and their spread -/

namespace Exact

/-- The mean of some numbers. -/
def mean (xs : List ℚ) : ℚ := xs.sum / xs.length

/-- The sum of the squared deviations of some numbers from a number. -/
def deviations (c : ℚ) (xs : List ℚ) : ℚ := (xs.map fun x => (x - c) ^ 2).sum

/-- The mean of the squared deviations of some numbers from their mean. -/
def variance (xs : List ℚ) : ℚ := deviations (mean xs) xs / xs.length

/-- Two of some numbers that all of them lie between. -/
structure Spans (least greatest : ℚ) (xs : List ℚ) : Prop where
  least_mem : least ∈ xs
  greatest_mem : greatest ∈ xs
  between : ∀ x ∈ xs, least ≤ x ∧ x ≤ greatest

theorem length_pos {xs : List ℚ} (nonempty : xs ≠ []) : (0 : ℚ) < xs.length := by
  exact_mod_cast List.length_pos_iff.2 nonempty

theorem deviations_eq (c : ℚ) (xs : List ℚ) :
    deviations c xs = (xs.map (· ^ 2)).sum - 2 * c * xs.sum + xs.length * c ^ 2 := by
  unfold deviations
  induction xs with
  | nil => simp
  | cons x xs ih =>
      rw [List.map_cons, List.sum_cons, ih, List.map_cons, List.sum_cons, List.sum_cons,
        List.length_cons, Nat.cast_add, Nat.cast_one]
      ring

/-- **One pass.** The mean of the squares less the square of the mean is the mean of the
squared deviations. -/
theorem variance_eq {xs : List ℚ} (nonempty : xs ≠ []) :
    variance xs = (xs.map (· ^ 2)).sum / xs.length - mean xs * mean xs := by
  have count := (length_pos nonempty).ne'
  rw [variance, deviations_eq, mean]
  field_simp
  ring

theorem deviations_nonneg (c : ℚ) (xs : List ℚ) : 0 ≤ deviations c xs := by
  apply List.sum_nonneg
  intro d inside
  obtain ⟨x, -, rfl⟩ := List.mem_map.1 inside
  exact sq_nonneg _

theorem variance_nonneg (xs : List ℚ) : 0 ≤ variance xs :=
  div_nonneg (deviations_nonneg _ _) (Nat.cast_nonneg _)

theorem mean_eq_of_forall_eq {xs : List ℚ} {c : ℚ} (nonempty : xs ≠ []) (same : ∀ x ∈ xs, x = c) :
    mean xs = c := by
  have count := (length_pos nonempty).ne'
  rw [mean, List.eq_replicate_of_mem same, List.sum_replicate, nsmul_eq_mul,
    List.length_replicate, mul_div_cancel_left₀ _ count]

/-- Only numbers that are all the same have no variance. -/
theorem variance_eq_zero_iff {xs : List ℚ} (nonempty : xs ≠ []) :
    variance xs = 0 ↔ ∀ x ∈ xs, ∀ y ∈ xs, x = y := by
  have count := (length_pos nonempty).ne'
  rw [variance, div_eq_zero_iff, or_iff_left count]
  constructor
  · intro zero
    have nonneg : ∀ d ∈ xs.map fun x => (x - mean xs) ^ 2, 0 ≤ d := by
      intro d inside
      obtain ⟨x, -, rfl⟩ := List.mem_map.1 inside
      exact sq_nonneg _
    have each : ∀ x ∈ xs, x = mean xs := by
      intro x inside
      have square := List.all_zero_of_le_zero_le_of_sum_eq_zero nonneg zero
        (List.mem_map_of_mem inside)
      exact sub_eq_zero.1 (pow_eq_zero_iff two_ne_zero |>.1 square)
    intro x left y right
    rw [each x left, each y right]
  · intro same
    obtain ⟨c, head⟩ := List.exists_mem_of_ne_nil xs nonempty
    have centre : mean xs = c := mean_eq_of_forall_eq nonempty fun x inside => same x inside c head
    apply List.sum_eq_zero
    intro d inside
    obtain ⟨x, member, rfl⟩ := List.mem_map.1 inside
    rw [centre, same x member c head, sub_self, zero_pow two_ne_zero]

namespace Spans

variable {least greatest : ℚ} {xs : List ℚ}

theorem ne_nil (spans : Spans least greatest xs) : xs ≠ [] := List.ne_nil_of_mem spans.least_mem

theorem least_le_mean (spans : Spans least greatest xs) : least ≤ mean xs := by
  have low := List.card_nsmul_le_sum xs least fun x inside => (spans.between x inside).1
  rw [nsmul_eq_mul] at low
  rw [mean, le_div_iff₀ (length_pos spans.ne_nil), mul_comm]
  exact low

theorem mean_le_greatest (spans : Spans least greatest xs) : mean xs ≤ greatest := by
  have high := List.sum_le_card_nsmul xs greatest fun x inside => (spans.between x inside).2
  rw [nsmul_eq_mul] at high
  rw [mean, div_le_iff₀ (length_pos spans.ne_nil), mul_comm]
  exact high

/-- The products of the distances to both extremes, summed. -/
theorem sum_distances (xs : List ℚ) (least greatest : ℚ) :
    (xs.map fun x => (greatest - x) * (x - least)).sum =
      (greatest + least) * xs.sum - (xs.map (· ^ 2)).sum - xs.length * (greatest * least) := by
  induction xs with
  | nil => simp
  | cons x xs ih =>
      rw [List.map_cons, List.sum_cons, ih, List.map_cons, List.sum_cons, List.sum_cons,
        List.length_cons, Nat.cast_add, Nat.cast_one]
      ring

/-- No numbers between the extremes are spread more than those at the extremes. -/
theorem variance_le (spans : Spans least greatest xs) :
    variance xs ≤ (greatest - mean xs) * (mean xs - least) := by
  have positive := length_pos spans.ne_nil
  have distances : 0 ≤ (xs.map fun x => (greatest - x) * (x - least)).sum := by
    apply List.sum_nonneg
    intro d inside
    obtain ⟨x, member, rfl⟩ := List.mem_map.1 inside
    obtain ⟨low, high⟩ := spans.between x member
    exact mul_nonneg (sub_nonneg.2 high) (sub_nonneg.2 low)
  have gap : (greatest - mean xs) * (mean xs - least) - variance xs =
      (xs.map fun x => (greatest - x) * (x - least)).sum / xs.length := by
    have count := positive.ne'
    rw [variance_eq spans.ne_nil, sum_distances, mean]
    field_simp
    ring
  have nonneg := div_nonneg distances positive.le
  rw [← gap] at nonneg
  exact sub_nonneg.1 nonneg

theorem singleton (x : ℚ) : Spans x x [x] where
  least_mem := List.mem_singleton_self x
  greatest_mem := List.mem_singleton_self x
  between y inside := by
    rw [List.mem_singleton.1 inside]
    exact ⟨le_rfl, le_rfl⟩

theorem concat (spans : Spans least greatest xs) (x : ℚ) :
    Spans (min least x) (max greatest x) (xs ++ [x]) where
  least_mem := by
    rcases min_choice least x with same | same
    · rw [same]
      exact List.mem_append_left _ spans.least_mem
    · rw [same]
      exact List.mem_append_right _ (List.mem_singleton_self x)
  greatest_mem := by
    rcases max_choice greatest x with same | same
    · rw [same]
      exact List.mem_append_left _ spans.greatest_mem
    · rw [same]
      exact List.mem_append_right _ (List.mem_singleton_self x)
  between y inside := by
    rcases List.mem_append.1 inside with before | last
    · obtain ⟨low, high⟩ := spans.between y before
      exact ⟨(min_le_left _ _).trans low, high.trans (le_max_left _ _)⟩
    · rw [List.mem_singleton.1 last]
      exact ⟨min_le_right _ _, le_max_right _ _⟩

end Spans

/-! ## Arithmetic on finite numbers -/

theorem least_finite (a b : ℚ) :
    Scalar.least (finite a : Exact root) (finite b) = finite (min a b) := by
  apply rank_injective
  rw [rank_least]
  simp [rank]

theorem greatest_finite (a b : ℚ) :
    Scalar.greatest (finite a : Exact root) (finite b) = finite (max a b) := by
  apply rank_injective
  rw [rank_greatest]
  simp [rank]

theorem div_ofNat (a : ℚ) {n : Nat} (nonzero : n ≠ 0) :
    (finite a : Exact root) / Scalar.ofNat n = finite (a / n) :=
  if_neg (Nat.cast_ne_zero.2 nonzero)

theorem less_finite (a b : ℚ) :
    Scalar.less (finite a : Exact root) (finite b) = decide (a < b) := by
  have start : Ranked.rank (finite a : Exact root) = some _ := rfl
  have stop : Ranked.rank (finite b : Exact root) = some _ := rfl
  rw [← Bool.coe_iff_coe, decide_eq_true_iff, Ranked.less_iff_lt start stop]
  simp

/-- Numbers that are not negative are not cut off. -/
theorem atLeastZero_finite {a : ℚ} (nonneg : 0 ≤ a) :
    Scalar.atLeastZero (finite a : Exact root) = finite a := by
  have zero : (Scalar.ofNat 0 : Exact root) = finite 0 := rfl
  rw [Scalar.atLeastZero, zero, less_finite]
  rcases nonneg.lt_or_eq with positive | same
  · rw [decide_eq_true positive, if_pos rfl]
  · rw [← same, decide_eq_false (lt_irrefl 0), if_neg Bool.false_ne_true]

end Exact

/-! ## States -/

namespace RunningState

open Exact (Spans finite)

/-- A state counts some numbers, adds them and their squares, and spans them by its
extremes. -/
structure Tallies (s : RunningState (Exact root)) (xs : List ℚ) (least greatest : ℚ) :
    Prop where
  count : s.count = xs.length
  sum : s.sum = finite xs.sum
  sumSquares : s.sumSquares = finite (xs.map (· ^ 2)).sum
  min : s.min = finite least
  max : s.max = finite greatest
  spans : Spans least greatest xs

theorem tallies_singleton (x : ℚ) :
    (empty.observe (finite x) : RunningState (Exact root)).Tallies [x] x x where
  count := rfl
  sum := by
    change finite ((0 : ℕ) + x) = _
    rw [Nat.cast_zero, zero_add, List.sum_singleton]
  sumSquares := by
    change finite ((0 : ℕ) + x * x) = _
    rw [Nat.cast_zero, zero_add, List.map_singleton, List.sum_singleton, sq]
  min := rfl
  max := rfl
  spans := .singleton x

/-- A value taken in is counted and added, and moves the extremes as far as it has to. -/
theorem Tallies.observe {s : RunningState (Exact root)} {xs : List ℚ} {least greatest : ℚ}
    (known : s.Tallies xs least greatest) (x : ℚ) :
    (s.observe (finite x)).Tallies (xs ++ [x]) (Min.min least x) (Max.max greatest x) where
  count := by rw [count_observe, known.count, List.length_append, List.length_singleton]
  sum := by
    change s.sum + finite x = _
    rw [known.sum, List.sum_append, List.sum_singleton]
    rfl
  sumSquares := by
    change s.sumSquares + finite x * finite x = _
    rw [known.sumSquares, List.map_append, List.sum_append, List.map_singleton,
      List.sum_singleton, sq]
    rfl
  min := by
    change Scalar.least s.min (finite x) = _
    rw [known.min, Exact.least_finite]
  max := by
    change Scalar.greatest s.max (finite x) = _
    rw [known.max, Exact.greatest_finite]
  spans := known.spans.concat x

theorem Tallies.foldl_observe {s : RunningState (Exact root)} {xs : List ℚ} {least greatest : ℚ}
    (known : s.Tallies xs least greatest) (ys : List ℚ) :
    ∃ least greatest, ((ys.map finite).foldl RunningState.observe s).Tallies (xs ++ ys) least
      greatest := by
  induction ys generalizing s xs least greatest with
  | nil =>
      rw [List.append_nil]
      exact ⟨least, greatest, known⟩
  | cons y ys ih =>
      have rest := ih (known.observe y)
      rw [List.append_assoc] at rest
      exact rest

theorem exists_tallies_ofList {xs : List ℚ} (nonempty : xs ≠ []) :
    ∃ least greatest, (ofList (xs.map finite) : RunningState (Exact root)).Tallies xs least
      greatest := by
  cases xs with
  | nil => exact absurd rfl nonempty
  | cons x xs => exact (tallies_singleton x).foldl_observe xs

theorem Tallies.length_ne_zero {s : RunningState (Exact root)} {xs : List ℚ}
    {least greatest : ℚ} (known : s.Tallies xs least greatest) : xs.length ≠ 0 :=
  fun zero => known.spans.ne_nil (List.length_eq_zero_iff.1 zero)

theorem Tallies.mean {s : RunningState (Exact root)} {xs : List ℚ} {least greatest : ℚ}
    (known : s.Tallies xs least greatest) : s.mean = finite (Exact.mean xs) := by
  rw [RunningState.mean, known.sum, known.count, Exact.div_ofNat _ known.length_ne_zero,
    Exact.mean]

theorem Tallies.variance {s : RunningState (Exact root)} {xs : List ℚ} {least greatest : ℚ}
    (known : s.Tallies xs least greatest) : s.variance = finite (Exact.variance xs) := by
  rw [RunningState.variance, populationVariance, known.mean, known.sumSquares, known.count,
    Exact.div_ofNat _ known.length_ne_zero, Exact.variance_eq known.spans.ne_nil, sub_eq_add_neg]
  rfl

theorem Tallies.summarize {s : RunningState (Exact root)} {xs : List ℚ} {least greatest : ℚ}
    (known : s.Tallies xs least greatest) :
    s.summarize = some ⟨xs.length, finite (Exact.mean xs), finite (root (Exact.variance xs)),
      finite least, finite greatest⟩ := by
  have seen : 0 < s.count := known.count ▸ Nat.pos_of_ne_zero known.length_ne_zero
  rw [summarize_eq_some seen, known.mean, known.variance,
    Exact.atLeastZero_finite (Exact.variance_nonneg xs), known.count, known.min, known.max]
  rfl

/-- **Mean and variance in one pass.** Only without values there is no summary. Otherwise the
summary of exact values tells their number, their mean, the root of their variance and their
extremes. The variance is found from the sums, and not cut off, as it is never negative; it
is zero when all values are equal, and the extremes bound it from above. -/
theorem summary_of_exact_values (root : ℚ → ℚ) (xs : List ℚ) :
    let s : RunningState (Exact root) := ofList (xs.map finite)
    (s.summarize = none ↔ xs = []) ∧
      (xs ≠ [] → ∃ least greatest, Spans least greatest xs ∧
        s.summarize = some ⟨xs.length, finite (Exact.mean xs),
          finite (root (Exact.variance xs)), finite least, finite greatest⟩ ∧
        populationVariance s.sumSquares (finite (Exact.mean xs)) s.count =
          finite (Exact.variance xs) ∧
        Scalar.atLeastZero (finite (Exact.variance xs) : Exact root) =
          finite (Exact.variance xs) ∧
        least ≤ Exact.mean xs ∧ Exact.mean xs ≤ greatest ∧
        0 ≤ Exact.variance xs ∧ (Exact.variance xs = 0 ↔ ∀ x ∈ xs, ∀ y ∈ xs, x = y) ∧
        Exact.variance xs ≤ (greatest - Exact.mean xs) * (Exact.mean xs - least)) := by
  intro s
  constructor
  · rw [summarize_eq_none_iff, count_ofList, List.length_map, List.length_eq_zero_iff]
  · intro nonempty
    obtain ⟨least, greatest, known⟩ := @exists_tallies_ofList root xs nonempty
    have spans := known.spans
    have spread := known.variance
    rw [variance, known.mean] at spread
    exact ⟨least, greatest, spans, known.summarize, spread,
      Exact.atLeastZero_finite (Exact.variance_nonneg xs), spans.least_le_mean,
      spans.mean_le_greatest, Exact.variance_nonneg xs, Exact.variance_eq_zero_iff nonempty,
      spans.variance_le⟩

/-- Five values in no order, with a fraction and a negative one among them. -/
theorem summary_of_five_values :
    [3, -1, 1 / 2, 2, -2] ≠ ([] : List ℚ) ∧
      (ofList ([3, -1, 1 / 2, 2, -2].map finite) : RunningState (Exact id)).summarize =
        some ⟨5, finite (1 / 2), finite (17 / 5), finite (-2), finite 3⟩ := by
  have nonempty : [3, -1, 1 / 2, 2, -2] ≠ ([] : List ℚ) := List.cons_ne_nil _ _
  obtain ⟨least, greatest, spans, summary, -⟩ := (summary_of_exact_values id _).2 nonempty
  have low : least = -2 := by
    have above := (spans.between (-2) (by simp)).1
    have member := spans.least_mem
    simp only [List.mem_cons, List.not_mem_nil, or_false] at member
    rcases member with rfl | rfl | rfl | rfl | rfl <;> linarith
  have high : greatest = 3 := by
    have below := (spans.between 3 (by simp)).2
    have member := spans.greatest_mem
    simp only [List.mem_cons, List.not_mem_nil, or_false] at member
    rcases member with rfl | rfl | rfl | rfl | rfl <;> linarith
  have middle : Exact.mean [3, -1, 1 / 2, 2, -2] = 1 / 2 := by norm_num [Exact.mean]
  have spread : Exact.variance [3, -1, 1 / 2, 2, -2] = 17 / 5 := by
    rw [Exact.variance_eq nonempty, middle]
    norm_num
  refine ⟨nonempty, ?_⟩
  rw [summary, low, high, middle, spread]
  rfl

end RunningState

end Timings
