import Timings.Histogram
import Timings.Stats.State

/-!
# Counts of samples

The counts of a histogram are made sample by sample, each in one bucket. What one sample
does to them is said by `countIn?`, which fails where there is no such bucket; it never
does (`counted_samples`), since the last bucket takes what lies beyond it. So a bucket
counts the samples that belong there (`getElem?_countSamples`), and no sample is lost
(`sum_countSamples`). All this holds of any numbers, whatever their arithmetic.
-/

namespace Timings.Histogram

variable {α : Type}

/-! ## One sample -/

/-- Counts a sample in its bucket, if there is such a bucket. -/
def countIn? (counts : Array Nat) (bucket : Nat) : Option (Array Nat) :=
  if bucket < counts.size then some (counts.modify bucket (· + 1)) else none

theorem sum_modify_succ {counts : List Nat} {i : Nat} (inside : i < counts.length) :
    (counts.modify i (· + 1)).sum = counts.sum + 1 := by
  induction counts generalizing i with
  | nil => cases inside
  | cons count counts ih =>
    cases i with
    | zero =>
      rw [List.modify_zero_cons, List.sum_cons, List.sum_cons]
      omega
    | succ i =>
      rw [List.modify_succ_cons, List.sum_cons, List.sum_cons,
        ih (Nat.lt_of_succ_lt_succ inside)]
      omega

/-! ## All samples, for any choice of buckets -/

section Chosen

variable (bucket : α → Nat)

theorem getElem?_foldl_modify (xs : List α) (counts : Array Nat) (i : Nat) :
    (xs.foldl (fun counts x => counts.modify (bucket x) (· + 1)) counts)[i]? =
      counts[i]?.map (· + xs.countP fun x => bucket x == i) := by
  induction xs generalizing counts with
  | nil => simp
  | cons x xs ih =>
    rw [List.foldl_cons, ih, Array.getElem?_modify, List.countP_cons]
    by_cases here : bucket x = i
    · rw [if_pos here, Option.map_map, if_pos (beq_iff_eq.2 here)]
      refine congrArg (Option.map · _) (funext fun count => ?_)
      exact Nat.add_right_comm ..
    · rw [if_neg here, if_neg (mt beq_iff_eq.1 here), Nat.add_zero]

theorem size_foldl_modify (xs : List α) (counts : Array Nat) :
    (xs.foldl (fun counts x => counts.modify (bucket x) (· + 1)) counts).size = counts.size := by
  induction xs generalizing counts with
  | nil => rfl
  | cons x xs ih => rw [List.foldl_cons, ih, Array.size_modify]

/-- Counting one sample after the other never fails if each has a bucket. -/
theorem foldlM_countIn? {xs : List α} {counts : Array Nat}
    (inside : ∀ x ∈ xs, bucket x < counts.size) :
    xs.foldlM (fun counts x => countIn? counts (bucket x)) counts =
      some (xs.foldl (fun counts x => counts.modify (bucket x) (· + 1)) counts) := by
  induction xs generalizing counts with
  | nil => rfl
  | cons x xs ih =>
    have here := inside x (List.mem_cons_self ..)
    rw [List.foldlM_cons, countIn?, if_pos here]
    apply ih
    intro y later
    rw [Array.size_modify]
    exact inside y (List.mem_cons_of_mem _ later)

theorem sum_foldl_modify {xs : List α} {counts : Array Nat}
    (inside : ∀ x ∈ xs, bucket x < counts.size) :
    (xs.foldl (fun counts x => counts.modify (bucket x) (· + 1)) counts).toList.sum =
      counts.toList.sum + xs.length := by
  induction xs generalizing counts with
  | nil => rfl
  | cons x xs ih =>
    have here := inside x (List.mem_cons_self ..)
    rw [List.foldl_cons, ih, Array.toList_modify, sum_modify_succ here, List.length_cons]
    · omega
    · intro y later
      rw [Array.size_modify]
      exact inside y (List.mem_cons_of_mem _ later)

end Chosen

/-! ## The range of some samples -/

section Range

variable [Scalar α]

theorem min_ofList (xs : List α) :
    (RunningState.ofList xs).min = xs.foldl Scalar.least Scalar.infinity := by
  unfold RunningState.ofList
  exact (List.foldl_hom (fun s => RunningState.min s) fun _ _ => rfl).symm

theorem max_ofList (xs : List α) :
    (RunningState.ofList xs).max = xs.foldl Scalar.greatest Scalar.negInfinity := by
  unfold RunningState.ofList
  exact (List.foldl_hom (fun s => RunningState.max s) fun _ _ => rfl).symm

/-- The range is that of a state which has seen the samples, one unit wider if its extremes
are equal. -/
theorem range_eq {xs : List α} (nonempty : xs ≠ []) :
    range xs =
      let s := RunningState.ofList xs
      let half := Scalar.ofNat 1 / Scalar.ofNat 2
      if !Scalar.isNaN s.min && !Scalar.isNaN s.max && !Scalar.less s.min s.max &&
          !Scalar.less s.max s.min
      then (s.min - half, s.max + half)
      else (s.min, s.max) := by
  have filled : xs.isEmpty = false := List.isEmpty_eq_false_iff.2 nonempty
  unfold range
  rw [filled, if_neg Bool.false_ne_true, ← min_ofList, ← max_ofList]

end Range

/-! ## The samples of a histogram -/

section Samples

variable [Scalar α] {low width : α} {buckets : Nat}

theorem bucketOf_lt (low width : α) (some_bucket : 0 < buckets) (x : α) :
    bucketOf low width buckets x < buckets := by
  unfold bucketOf
  omega

theorem length_countSamples (low width : α) (buckets : Nat) (xs : List α) :
    (countSamples low width buckets xs).length = buckets := by
  unfold countSamples
  rw [Array.length_toList, size_foldl_modify, Array.size_replicate]

/-- A bucket counts the samples that belong there. -/
theorem getElem?_countSamples {i : Nat} (inside : i < buckets) (xs : List α) :
    (countSamples low width buckets xs)[i]? =
      some (xs.countP fun x => bucketOf low width buckets x == i) := by
  unfold countSamples
  rw [Array.getElem?_toList, getElem?_foldl_modify, Array.getElem?_replicate, if_pos inside,
    Option.map_some, Nat.zero_add]

/-- Every sample has its bucket when its turn comes. -/
theorem counted_samples (some_bucket : 0 < buckets) (xs : List α) :
    (xs.foldlM (fun counts x => countIn? counts (bucketOf low width buckets x))
        (Array.replicate buckets 0)).map Array.toList =
      some (countSamples low width buckets xs) := by
  rw [foldlM_countIn?]
  · rfl
  · intro x _
    rw [Array.size_replicate]
    exact bucketOf_lt low width some_bucket x

theorem sum_countSamples (some_bucket : 0 < buckets) (xs : List α) :
    (countSamples low width buckets xs).sum = xs.length := by
  unfold countSamples
  rw [sum_foldl_modify, Array.toList_replicate, List.sum_replicate_nat, Nat.mul_zero,
    Nat.zero_add]
  intro x _
  rw [Array.size_replicate]
  exact bucketOf_lt low width some_bucket x

/-- One more sample is counted in its bucket, and nowhere else. -/
theorem countSamples_concat (low width : α) (buckets : Nat) (xs : List α) (x : α) :
    countSamples low width buckets (xs ++ [x]) =
      (countSamples low width buckets xs).modify (bucketOf low width buckets x) (· + 1) := by
  unfold countSamples
  rw [List.foldl_append, List.foldl_cons, List.foldl_nil, Array.toList_modify]

end Samples

end Timings.Histogram
