import Timings.Proofs.Blocks
import Timings.Proofs.Ranges
import Timings.Proofs.Variance

/-!
# Columns of a plot

Each column of a plot is the mean of a block of densities (`onColumns_eq`), and the blocks are
those that `CutInto` describes. A block of one density is shown as it is, also over doubles
(`Double.div_one`). Over exact numbers a mean lies between the least and the greatest
of its block, and the columns, each as often as there are densities in its block, add up to
what the densities add up to (`sum_length_mul_mean`).

* `columns_average_blocks`: all of this for any histogram and any number of columns.
-/

namespace Timings

/-! ## A number by one -/

namespace Double

open Float.Model (Format UnpackedFloat)
open Pattern (infinity toFloat units)

/-- Every double by one is the double itself, the infinities, the zeros and NaN as well. -/
theorem div_one (x : Float) : x / Scalar.ofNat 1 = x := by
  by_cases none : x.isNaN = true
  · have same := ofModel_pack_unpack x
    rw [unpack_eq_notANumber_iff.2 none] at same
    change Float.ofModel (Float.Model.pack (UnpackedFloat.div Format.binary64
      x.toModel.unpack (Scalar.ofNat 1 : Float).toModel.unpack)) = x
    rw [unpack_eq_notANumber_iff.2 none]
    exact same
  · obtain ⟨negative, b, within, rfl⟩ := exists_toFloat (Bool.eq_false_iff.2 none)
    obtain ⟨one, finite, steps⟩ := exists_units_eq_stepsOfOne
    have count : (Scalar.ofNat 1 : Float) = toFloat false one := by
      rw [ofNat_eq_nearest, Nat.one_mul, ← steps, nearest_units finite.le]
    rcases Nat.lt_or_eq_of_le within with below | rfl
    · have nonzero : one ≠ 0 := fun zero =>
        stepsOfOne_pos.ne' (steps.symm.trans (units_eq_zero_iff.2 zero))
      rw [count, toFloat_div negative false below finite nonzero, Bool.xor_false, ← steps,
        Pattern.nearest_units_mul within (steps ▸ stepsOfOne_pos)]
    · obtain ⟨q, -, quotient, infinite⟩ := exists_quotient negative within finite steps.ge
      rw [count, quotient, infinite rfl]

end Double

/-! ## Means -/

namespace Exact

variable {root : ℚ → ℚ}

theorem sum_finite (xs : List ℚ) :
    Scalar.sum (xs.map (finite : ℚ → Exact root)) = finite xs.sum := by
  have more (xs : List ℚ) (a : ℚ) :
      (xs.map (finite : ℚ → Exact root)).foldl (· + ·) (finite a) = finite (a + xs.sum) := by
    induction xs generalizing a with
    | nil => rw [List.sum_nil, Rat.add_zero]; rfl
    | cons x xs ih =>
      rw [List.map_cons, List.foldl_cons, List.sum_cons, ← Rat.add_assoc]
      exact ih (a + x)
  cases xs with
  | nil => rfl
  | cons x xs => rw [List.sum_cons]; exact more xs x

theorem mean_finite {xs : List ℚ} (nonempty : xs ≠ []) :
    Histogram.mean (xs.map (finite : ℚ → Exact root)) = finite (mean xs) := by
  rw [Histogram.mean, sum_finite, List.length_map, mean,
    div_ofNat _ (mt List.length_eq_zero_iff.1 nonempty)]

theorem exists_spans {xs : List ℚ} (nonempty : xs ≠ []) :
    ∃ least greatest, Spans least greatest xs := by
  obtain ⟨least, greatest, known⟩ := @RunningState.exists_tallies_ofList id xs nonempty
  exact ⟨least, greatest, known.spans⟩

/-- The means of blocks, each as often as there are numbers in its block, have the sum of all
numbers. -/
theorem sum_length_mul_mean {parts : List (List ℚ)} (nonempty : ∀ part ∈ parts, part ≠ []) :
    (parts.map fun part => part.length * mean part).sum = parts.flatten.sum := by
  induction parts with
  | nil => rfl
  | cons part parts ih =>
    have count := (length_pos (nonempty part List.mem_cons_self)).ne'
    have whole : part.length * mean part = part.sum := mul_div_cancel₀ _ count
    rw [List.map_cons, List.sum_cons, whole, List.flatten_cons, List.sum_append,
      ih fun other inside => nonempty other (List.mem_cons_of_mem part inside)]

end Exact

namespace Histogram

open Exact (Spans finite)

/-! ## Columns -/

section Any

variable {α : Type} [Scalar α] {h : Histogram α} {most : Nat} {parts : List (List α)}

/-- The columns are the means of blocks, of the least size for which they fit. -/
theorem onColumns_eq (h : Histogram α) (columns : Nat) :
    h.onColumns columns =
      (blocks ((h.densities.length + max columns 1 - 1) / max columns 1) h.densities).map mean :=
  rfl

/-- Where every density has a block of its own, the means are the densities. -/
theorem map_mean_singletons (one : ∀ x : α, x / Scalar.ofNat 1 = x) (xs : List α) :
    (xs.map fun x => [x]).map mean = xs := by
  rw [List.map_map]
  exact (List.map_congr_left fun x _ => one x).trans (List.map_id _)

end Any

theorem onColumns_finite {root : ℚ → ℚ} {h : Histogram (Exact root)} {densities : List ℚ}
    (given : h.densities = densities.map finite) (columns : Nat) :
    h.onColumns columns =
      (blocks ((densities.length + max columns 1 - 1) / max columns 1) densities).map
        fun part => finite (Exact.mean part) := by
  rw [onColumns_eq, given, List.length_map, blocks_map, List.map_map]
  exact List.map_congr_left fun part inside => Exact.mean_finite (ne_nil_of_mem_blocks inside)

/-- **Columns.** Every column is the mean of a block: the blocks are consecutive, not empty and
hold all densities, and but for the last they have one size. With columns enough every density
has its own, and is shown as it is; else the blocks fit, and fill more than half of the columns.
Over exact numbers the columns keep the sum of the densities, and each lies between the extremes
of its block. -/
theorem columns_average_blocks (root : ℚ → ℚ) (columns : Nat) :
    (∀ h : Histogram Float, ∃ parts,
      CutInto (max columns 1) h.densities parts ∧ h.onColumns columns = parts.map mean ∧
        (h.densities.length ≤ max columns 1 → h.onColumns columns = h.densities)) ∧
    ∀ (h : Histogram (Exact root)) (densities : List ℚ), h.densities = densities.map finite →
      ∃ parts,
        CutInto (max columns 1) densities parts ∧
          h.onColumns columns = parts.map (fun part => finite (Exact.mean part)) ∧
          (densities.length ≤ max columns 1 → h.onColumns columns = h.densities) ∧
          (parts.map fun part => part.length * Exact.mean part).sum = densities.sum ∧
          ∀ part ∈ parts, ∃ least greatest, Spans least greatest part ∧
            least ≤ Exact.mean part ∧ Exact.mean part ≤ greatest := by
  constructor
  · intro h
    have cut := cutInto_blocks (Nat.le_max_right columns 1) h.densities
    refine ⟨_, cut, h.onColumns_eq columns, fun enough => ?_⟩
    rw [onColumns_eq, cut.alone enough, map_mean_singletons Double.div_one]
  · intro h densities given
    have cut := cutInto_blocks (Nat.le_max_right columns 1) densities
    have shown := onColumns_finite given columns
    generalize blocks ((densities.length + max columns 1 - 1) / max columns 1) densities = parts
      at cut shown
    refine ⟨parts, cut, shown, fun enough => ?_, ?_, fun part inside => ?_⟩
    · have alone (x : ℚ) : Exact.mean [x] = x := Exact.mean_eq_of_forall_eq (List.cons_ne_nil _ _)
        fun y inside => List.mem_singleton.1 inside
      rw [shown, given, cut.alone enough, List.map_map]
      exact List.map_congr_left fun x _ => congrArg finite (alone x)
    · rw [Exact.sum_length_mul_mean cut.nonempty, cut.flatten]
    · obtain ⟨least, greatest, spans⟩ := Exact.exists_spans (cut.nonempty part inside)
      exact ⟨least, greatest, spans, spans.least_le_mean, spans.mean_le_greatest⟩

/-- Seven densities on three columns, and three doubles that each have a column: one of them is
zero with a minus, and one is no number. -/
theorem seven_densities_on_columns :
    let densities : List ℚ := [1, 2, 4, 8, 16, 32, 64]
    let h : Histogram (Exact id) := ⟨finite 0, finite 1, [], densities.map finite⟩
    let d : Histogram Float := ⟨0, 1, [], [0.3, -0.0, 0 / 0]⟩
    d.densities.length ≤ max 3 1 ∧ d.onColumns 3 = d.densities ∧
      h.densities = densities.map finite ∧ max 3 1 < densities.length ∧
      h.onColumns 3 = [7 / 3, 56 / 3, 64].map finite ∧
      ∃ parts : List (List ℚ),
        h.onColumns 3 = parts.map (fun part => finite (Exact.mean part)) ∧
        parts.length ≤ 3 ∧ 3 < 2 * parts.length ∧
        (parts.map fun part => part.length * Exact.mean part).sum = 127 := by
  intro densities h d
  have few : d.densities.length ≤ max 3 1 := by decide
  have more : max 3 1 < densities.length := by decide
  have total : densities.sum = 127 := by decide +kernel
  obtain ⟨doubles, exact⟩ := columns_average_blocks id 3
  obtain ⟨-, -, -, same⟩ := doubles d
  obtain ⟨parts, cut, shown, -, sum, -⟩ := exact h densities rfl
  obtain ⟨fits, fills⟩ := cut.fills more
  exact ⟨few, same few, rfl, more, by decide +kernel, parts, shown, fits, fills, sum.trans total⟩

end Histogram

end Timings
