import Timings.Proofs.PlotColumns

/-!
# Bars of a plot

Over exact numbers the bar of a column is its share of the tallest bar, rounded to the nearest
natural number (`height`, `bars_eq`). So bars are ordered as the columns are, and none is off
by more than a half.

* `bars_in_proportion`: this for any densities that are not negative and any number of columns.
-/

namespace Timings

open Exact (finite)

namespace Exact

variable {root : ℚ → ℚ}

theorem nearest_finite (a : ℚ) : Scalar.nearest (finite a : Exact root) = ⌊a + 1 / 2⌋₊ :=
  Int.floor_toNat (a + 1 / 2)

theorem foldl_greatest_finite (xs : List ℚ) (a : ℚ) :
    (xs.map (finite : ℚ → Exact root)).foldl Scalar.greatest (finite a) =
      finite (xs.foldl max a) := by
  induction xs generalizing a with
  | nil => rfl
  | cons x xs ih => rw [List.map_cons, List.foldl_cons, greatest_finite, ih, List.foldl_cons]

theorem mean_nonneg {xs : List ℚ} (nonneg : ∀ x ∈ xs, 0 ≤ x) : 0 ≤ mean xs :=
  div_nonneg (List.sum_nonneg nonneg) (Nat.cast_nonneg _)

end Exact

namespace Histogram

variable {root : ℚ → ℚ} {c d peak : ℚ}

/-! ## The height of a bar -/

/-- The height of a column where the highest one has the tallest bar. -/
def height (peak c : ℚ) : Nat := ⌊c / peak * tallest + 1 / 2⌋₊

theorem nearest_div_mul (positive : 0 < peak) (c : ℚ) :
    Scalar.nearest ((finite c : Exact root) / finite peak * Scalar.ofNat tallest) =
      height peak c := by
  have share : (finite c : Exact root) / finite peak = finite (c / peak) := if_neg positive.ne'
  rw [share]
  exact Exact.nearest_finite _

theorem height_mono (positive : 0 < peak) (below : c ≤ d) : height peak c ≤ height peak d := by
  have shares : c / peak ≤ d / peak := div_le_div_of_nonneg_right below positive.le
  have heights : c / peak * tallest ≤ d / peak * tallest :=
    mul_le_mul_of_nonneg_right shares (Nat.cast_nonneg _)
  exact Nat.floor_mono (add_le_add_left heights _)

theorem height_self (positive : 0 < peak) : height peak peak = tallest := by
  have whole : ⌊(1 / 2 : ℚ)⌋₊ = 0 := by norm_num
  rw [height, div_self positive.ne', one_mul, add_comm, Nat.floor_add_natCast one_half_pos.le,
    whole, Nat.zero_add]

/-- A height is off by no more than a half. -/
theorem abs_height_sub_le (positive : 0 < peak) (nonneg : 0 ≤ c) :
    |(height peak c : ℚ) - c / peak * tallest| ≤ 1 / 2 := by
  have share : 0 ≤ c / peak * tallest :=
    mul_nonneg (div_nonneg nonneg positive.le) (Nat.cast_nonneg _)
  have low := Nat.floor_le (add_nonneg share one_half_pos.le)
  have high := Nat.lt_floor_add_one (c / peak * tallest + 1 / 2)
  rw [abs_le, height]
  constructor <;> linarith

/-! ## All bars -/

variable {h : Histogram (Exact root)} {columns : Nat} {densities cols : List ℚ}

/-- Columns of densities that are not negative are not negative. -/
theorem exists_columns (nonneg : ∀ d ∈ densities, 0 ≤ d)
    (given : h.densities = densities.map finite) (columns : Nat) :
    ∃ cols : List ℚ, h.onColumns columns = cols.map finite ∧ ∀ c ∈ cols, 0 ≤ c := by
  refine ⟨(blocks _ densities).map Exact.mean, (onColumns_finite given columns).trans
    List.map_map.symm, List.forall_mem_map.2 fun part inside => ?_⟩
  exact Exact.mean_nonneg fun d mem => nonneg d ((sublist_of_mem_blocks inside).subset mem)

theorem bars_eq (shown : h.onColumns columns = cols.map finite) :
    h.bars columns =
      if 0 < cols.foldl max 0 then cols.map (height (cols.foldl max 0))
      else cols.map fun _ => 0 := by
  have peak : (cols.map finite).foldl Scalar.greatest (Scalar.ofNat 0 : Exact root) =
      finite (cols.foldl max 0) := Exact.foldl_greatest_finite cols 0
  have guard : Scalar.less (Scalar.ofNat 0 : Exact root) (finite (cols.foldl max 0)) =
      decide (0 < cols.foldl max 0) := Exact.less_finite 0 _
  unfold bars
  rw [shown]
  simp only [peak, guard, decide_eq_true_eq, List.map_map]
  split
  · next positive => exact List.map_congr_left fun c _ => nearest_div_mul positive c
  · rfl

/-- The peak is the highest of the columns, or zero if none of them is above zero. -/
theorem peak_mem_and_le (cols : List ℚ) :
    cols.foldl max 0 ∈ 0 :: cols ∧ ∀ c ∈ 0 :: cols, c ≤ cols.foldl max 0 :=
  List.max?_eq_some_iff.1 List.max?_cons'

/-- **Bars.** A plot of densities that are not negative has a bar for each column. Without a
positive column all bars are empty. Else a column at the peak has the tallest bar, no bar is
taller, a column that is no higher than another has no taller bar, and each bar is its share
of the tallest one up to a half. -/
theorem bars_in_proportion (nonneg : ∀ d ∈ densities, 0 ≤ d)
    (given : h.densities = densities.map finite) (columns : Nat) :
    (h.bars columns).length = (h.onColumns columns).length ∧
      ∃ cols : List ℚ, h.onColumns columns = cols.map finite ∧
        ((∀ c ∈ cols, c ≤ 0) → ∀ bar ∈ h.bars columns, bar = 0) ∧
        ((∃ c ∈ cols, 0 < c) →
          ∃ peak ∈ cols, (∀ c ∈ cols, c ≤ peak) ∧
            ∃ height : ℚ → Nat, h.bars columns = cols.map height ∧ height peak = 1000000 ∧
              ∀ c ∈ cols, height c ≤ 1000000 ∧ |(height c : ℚ) - c / peak * 1000000| ≤ 1 / 2 ∧
                ∀ d ∈ cols, c ≤ d → height c ≤ height d) := by
  obtain ⟨cols, shown, above⟩ := exists_columns nonneg given columns
  have drawn := bars_eq shown
  obtain ⟨peak_mem, le_peak⟩ := peak_mem_and_le cols
  generalize cols.foldl max 0 = peak at drawn peak_mem le_peak
  refine ⟨?_, cols, shown, ?_, ?_⟩
  · rw [drawn, shown]
    split <;> rw [List.length_map, List.length_map]
  · intro none
    have flat : ¬0 < peak := by
      rcases List.mem_cons.1 peak_mem with zero | inside
      · exact zero.le.not_gt
      · exact (none peak inside).not_gt
    rw [drawn, if_neg flat]
    exact List.forall_mem_map.2 fun _ _ => rfl
  · rintro ⟨c, inside, some_height⟩
    have positive := some_height.trans_le (le_peak c (List.mem_cons_of_mem _ inside))
    have highest := (List.mem_cons.1 peak_mem).resolve_left positive.ne'
    refine ⟨peak, highest, fun c inside => le_peak c (List.mem_cons_of_mem _ inside), height peak,
      drawn.trans (if_pos positive), height_self positive, fun c inside => ⟨?_, ?_, ?_⟩⟩
    · have below := height_mono positive (le_peak c (List.mem_cons_of_mem _ inside))
      rwa [height_self positive] at below
    · exact abs_height_sub_le positive (above c inside)
    · exact fun d _ below => height_mono positive below

/-- Five densities on three columns, the last of which is one density. -/
theorem five_densities_as_bars :
    let densities : List ℚ := [1, 2, 4, 0, 3]
    let h : Histogram (Exact id) := ⟨finite 0, finite 1, [], densities.map finite⟩
    (∀ d ∈ densities, 0 ≤ d) ∧ h.densities = densities.map finite ∧
      h.onColumns 3 = [3 / 2, 2, 3].map finite ∧ h.bars 3 = [500000, 666667, 1000000] ∧
      (h.bars 3).length = (h.onColumns 3).length ∧
      ∃ cols : List ℚ, h.onColumns 3 = cols.map finite ∧ (∃ c ∈ cols, 0 < c) ∧
        ∃ peak ∈ cols, ∃ height : ℚ → Nat, h.bars 3 = cols.map height ∧ height peak = 1000000 := by
  intro densities h
  have nonneg : ∀ d ∈ densities, 0 ≤ d := by decide +kernel
  have columns : h.onColumns 3 = [3 / 2, 2, 3].map finite := by decide +kernel
  obtain ⟨each, cols, shown, -, scaled⟩ :=
    bars_in_proportion nonneg (rfl : h.densities = densities.map finite) 3
  have same : cols = [3 / 2, 2, 3] :=
    List.map_injective_iff.2 (fun _ _ => Exact.finite.inj) (shown.symm.trans columns)
  have positive : ∃ c ∈ cols, 0 < c := by
    rw [same]
    decide +kernel
  obtain ⟨peak, inside, -, height, drawn, top, -⟩ := scaled positive
  exact ⟨nonneg, rfl, columns, by decide +kernel, each, cols, shown, positive, peak, inside, height,
    drawn, top⟩

end Histogram

end Timings
