import Mathlib.Algebra.Order.Group.Int
import Mathlib.Data.List.Perm.Basic
import Mathlib.Data.Prod.Lex
import Timings.Stats.State

/-!
Numbers by their places on a line.

`Ranked` numbers are compared by a place on a line; what has no place is no number. The
smaller and the larger of two numbers are then those at the smaller and the larger place
(`rank_least`, `rank_greatest`), so the places of the extremes of a group do not depend on
the order of its values (`rank_min_perm`, `rank_max_perm`). Doubles are such numbers: both
zeros have one place, and doubles at one place are equal as numbers (`beq_iff_rank`).
-/

namespace Timings

/-- Numbers that are compared by their places on a line. What has no place is no number. -/
class Ranked (α : Type) (line : outParam Type) [Scalar α] [LinearOrder line] where
  /-- The place of a number. -/
  rank : α → Option line
  isNaN_eq : ∀ x : α, Scalar.isNaN x = (rank x).isNone
  less_iff : ∀ x y : α, Scalar.less x y = true ↔ ∃ a b, rank x = some a ∧ rank y = some b ∧ a < b

/-! ## The smaller and the larger of two numbers -/

namespace Ranked

variable {α line : Type} [Scalar α] [LinearOrder line] [Ranked α line]

theorem less_iff_lt {x y : α} {a b : line} (left : rank x = some a) (right : rank y = some b) :
    Scalar.less x y = true ↔ a < b := by
  simp [less_iff, left, right]

theorem not_less_of_left {x : α} (nowhere : rank x = none) (y : α) : Scalar.less x y ≠ true := by
  rw [ne_eq, less_iff, nowhere]
  rintro ⟨a, b, found, -⟩
  cases found

theorem not_less_of_right {y : α} (nowhere : rank y = none) (x : α) : Scalar.less x y ≠ true := by
  rw [ne_eq, less_iff, nowhere]
  rintro ⟨a, b, -, found, -⟩
  cases found

/-- The smaller number is the one with the smaller place, if both have one. -/
theorem rank_least (x y : α) : rank (Scalar.least x y) = (rank x).merge min (rank y) := by
  unfold Scalar.least
  rw [isNaN_eq]
  cases right : rank y with
  | none => exact Option.merge_none_right.symm
  | some b =>
      rw [Option.isNone_some, if_neg Bool.false_ne_true]
      cases left : rank x with
      | none =>
          rw [if_neg (not_less_of_left left y)]
          exact right
      | some a =>
          rw [Option.merge_some_some, min_def_lt]
          by_cases smaller : a < b
          · rw [if_pos ((less_iff_lt left right).2 smaller), if_pos smaller, left]
          · rw [if_neg (mt (less_iff_lt left right).1 smaller), if_neg smaller, right]

theorem rank_greatest (x y : α) : rank (Scalar.greatest x y) = (rank x).merge max (rank y) := by
  unfold Scalar.greatest
  rw [isNaN_eq]
  cases right : rank y with
  | none => exact Option.merge_none_right.symm
  | some b =>
      rw [Option.isNone_some, if_neg Bool.false_ne_true]
      cases left : rank x with
      | none =>
          rw [if_neg (not_less_of_right left y)]
          exact right
      | some a =>
          rw [Option.merge_some_some, max_comm, max_def_lt]
          by_cases larger : b < a
          · rw [if_pos ((less_iff_lt right left).2 larger), if_pos larger, left]
          · rw [if_neg (mt (less_iff_lt right left).1 larger), if_neg larger, right]

/-- The smaller of two numbers is no larger than the second, if this is a number. -/
theorem exists_rank_least_le (x : α) {y : α} {b : line} (here : rank y = some b) :
    ∃ c ≤ b, rank (Scalar.least x y) = some c := by
  rw [rank_least, here]
  cases rank x with
  | none => exact ⟨b, le_refl b, rfl⟩
  | some a => exact ⟨min a b, min_le_right a b, rfl⟩

theorem exists_le_rank_greatest (x : α) {y : α} {b : line} (here : rank y = some b) :
    ∃ c, b ≤ c ∧ rank (Scalar.greatest x y) = some c := by
  rw [rank_greatest, here]
  cases rank x with
  | none => exact ⟨b, le_refl b, rfl⟩
  | some a => exact ⟨max a b, le_max_right a b, rfl⟩

/-! ## The extremes of a group -/

open RunningState (observe ofList)

theorem rank_min_foldl_observe (xs : List α) (s : RunningState α) :
    rank (xs.foldl observe s).min = (xs.map rank).foldl (Option.merge min) (rank s.min) := by
  rw [List.foldl_map]
  exact (List.foldl_hom (fun s => rank (RunningState.min s)) fun s x => (rank_least ..).symm).symm

theorem rank_max_foldl_observe (xs : List α) (s : RunningState α) :
    rank (xs.foldl observe s).max = (xs.map rank).foldl (Option.merge max) (rank s.max) := by
  rw [List.foldl_map]
  exact (List.foldl_hom (fun s => rank (RunningState.max s)) fun s x =>
    (rank_greatest ..).symm).symm

theorem rank_min_perm {xs ys : List α} (perm : xs.Perm ys) :
    rank (ofList xs).min = rank (ofList ys).min := by
  unfold ofList
  rw [rank_min_foldl_observe, rank_min_foldl_observe]
  exact (perm.map rank).foldl_eq _

theorem rank_max_perm {xs ys : List α} (perm : xs.Perm ys) :
    rank (ofList xs).max = rank (ofList ys).max := by
  unfold ofList
  rw [rank_max_foldl_observe, rank_max_foldl_observe]
  exact (perm.map rank).foldl_eq _

omit [LinearOrder line] in
/-- An extreme that has a place keeps one. -/
theorem foldl_merge_ne_none {choose : line → line → line} {place : Option line}
    (placed : place ≠ none) (places : List (Option line)) :
    places.foldl (Option.merge choose) place ≠ none := by
  induction places generalizing place with
  | nil => exact placed
  | cons next places ih =>
      refine ih ?_
      rw [ne_eq, Option.merge_eq_none_iff]
      exact fun nowhere => placed nowhere.1

end Ranked

/-! ## Doubles -/

namespace Double

open Float.Model

/-- Places of doubles: the side of zero, then the exponent, then the mantissa, where the
last two run backwards below zero. -/
abbrev Place := Int ×ₗ Int ×ₗ Int

def place : UnpackedFloat → Option Place
  | .notANumber => none
  | .infinity .negative => some (toLex (-2, toLex (0, 0)))
  | .finite .negative m e _ => some (toLex (-1, toLex (-e, -m)))
  | .zero _ => some (toLex (0, toLex (0, 0)))
  | .finite .positive m e _ => some (toLex (1, toLex (e, m)))
  | .infinity .positive => some (toLex (2, toLex (0, 0)))

theorem compare_toLex (side a b c d : Int) :
    compare (toLex (side, toLex (a, b)) : Place) (toLex (side, toLex (c, d))) =
      (compare a c).then (compare b d) := by
  simp [Prod.Lex.compare_def, compareLex, compareOn, Std.ReflCmp.compare_self]

theorem compare_neg_neg (a b : Int) : compare (-a) (-b) = compare b a := by
  rcases Int.lt_trichotomy a b with less | rfl | greater
  · rw [compare_gt_iff_gt.2 (by omega), compare_gt_iff_gt.2 less]
  · exact (compare_eq_iff_eq.2 rfl).trans (compare_eq_iff_eq.2 rfl).symm
  · rw [compare_lt_iff_lt.2 (by omega), compare_lt_iff_lt.2 greater]

theorem compare_natCast (m n : Nat) : compare (m : Int) n = compare m n := by
  rcases Nat.lt_trichotomy m n with less | rfl | greater
  · rw [compare_lt_iff_lt.2 less, compare_lt_iff_lt.2 (by omega)]
  · exact (compare_eq_iff_eq.2 rfl).trans (compare_eq_iff_eq.2 rfl).symm
  · rw [compare_gt_iff_gt.2 greater, compare_gt_iff_gt.2 (by omega)]

/-- Doubles are compared by their places. -/
theorem compare_eq_compare_place (u v : UnpackedFloat) :
    u.compare v = (place u).bind fun a => (place v).map (compare a) := by
  -- only doubles on one side of zero need their exponents and mantissas compared
  rcases u with ⟨⟨⟩⟩ | ⟨⟩ | ⟨⟨⟩⟩ | ⟨⟨⟩, m, e, -⟩ <;>
    rcases v with ⟨⟨⟩⟩ | ⟨⟩ | ⟨⟨⟩⟩ | ⟨⟨⟩, n, f, -⟩ <;> try rfl
  · have places : compare (toLex (-1, toLex (-e, -(m : Int))) : Place)
        (toLex (-1, toLex (-f, -(n : Int)))) = ((compare e f).then (compare m n)).swap := by
      rw [compare_toLex, compare_neg_neg, compare_neg_neg, compare_natCast, Ordering.swap_then,
        ← Std.OrientedCmp.eq_swap, ← Std.OrientedCmp.eq_swap]
    exact congrArg some places.symm
  · have places : compare (toLex (1, toLex (e, (m : Int))) : Place)
        (toLex (1, toLex (f, (n : Int)))) = (compare e f).then (compare m n) := by
      rw [compare_toLex, compare_natCast]
    exact congrArg some places.symm

theorem compare_eq_some_iff {u v : UnpackedFloat} {o : Ordering} :
    u.compare v = some o ↔ ∃ a b, place u = some a ∧ place v = some b ∧ compare a b = o := by
  rw [compare_eq_compare_place]
  cases place u <;> cases place v <;> simp

instance : Ranked Float Place where
  rank x := place x.toModel.unpack
  isNaN_eq x := by
    change x.toModel.unpack.isNaN = (place x.toModel.unpack).isNone
    rcases x.toModel.unpack with ⟨⟨⟩⟩ | ⟨⟩ | ⟨⟨⟩⟩ | ⟨⟨⟩, m, e, -⟩ <;> rfl
  less_iff x y := by
    simp only [← compare_lt_iff_lt, ← compare_eq_some_iff]
    have less : Scalar.less x y = (x.toModel.unpack.compare y.toModel.unpack == some .lt) := by
      change decide (decide (x.toModel < y.toModel) = true) = _
      rw [Bool.decide_eq_true]
      exact Bool.decide_eq_true
    rw [less, beq_iff_eq]

/-- Doubles are equal as numbers when they stand at one place. -/
theorem beq_iff_rank {x y : Float} :
    (x == y) = true ↔ ∃ a, Ranked.rank x = some a ∧ Ranked.rank y = some a := by
  have equal : (x == y) = (x.toModel.unpack.compare y.toModel.unpack == some .eq) := rfl
  rw [equal, beq_iff_eq, compare_eq_some_iff]
  constructor
  · rintro ⟨a, b, left, right, same⟩
    rw [compare_eq_iff_eq] at same
    exact ⟨a, left, same ▸ right⟩
  · rintro ⟨a, left, right⟩
    exact ⟨a, a, left, right, compare_eq_iff_eq.2 rfl⟩

/-- Finite doubles stand between the infinities. -/
theorem exists_place {u : UnpackedFloat} (finite : u.isFinite = true) :
    ∃ side inner, place u = some (toLex (side, inner)) ∧ -2 < side ∧ side < 2 := by
  rcases u with s | _ | s | ⟨s, m, e, pos⟩
  · cases finite
  · cases finite
  · exact ⟨0, _, rfl, by decide, by decide⟩
  · cases s with
    | positive => exact ⟨1, _, rfl, by decide, by decide⟩
    | negative => exact ⟨-1, _, rfl, by decide, by decide⟩

theorem not_infinity_less {x : Float} (finite : x.isFinite = true) :
    Scalar.less Scalar.infinity x ≠ true := by
  have top : Ranked.rank (Scalar.infinity : Float) = some (toLex (2, toLex (0, 0))) := by
    decide +kernel
  obtain ⟨side, inner, here, -, below⟩ := exists_place finite
  rw [ne_eq, Ranked.less_iff_lt top here, Prod.Lex.toLex_lt_toLex]
  omega

theorem not_less_negInfinity {x : Float} (finite : x.isFinite = true) :
    Scalar.less x Scalar.negInfinity ≠ true := by
  have bottom : Ranked.rank (Scalar.negInfinity : Float) = some (toLex (-2, toLex (0, 0))) := by
    decide +kernel
  obtain ⟨side, inner, here, above, -⟩ := exists_place finite
  rw [ne_eq, Ranked.less_iff_lt here bottom, Prod.Lex.toLex_lt_toLex]
  omega

theorem isNaN_of_rank {x : Float} {a : Place} (here : Ranked.rank x = some a) :
    Scalar.isNaN x = false := by
  rw [Ranked.isNaN_eq, here]
  rfl

theorem isNaN_of_isFinite {x : Float} (finite : x.isFinite = true) : Scalar.isNaN x = false := by
  obtain ⟨side, inner, here, -⟩ := exists_place finite
  exact isNaN_of_rank here

theorem least_infinity {x : Float} (finite : x.isFinite = true) :
    Scalar.least Scalar.infinity x = x := by
  rw [Scalar.least, isNaN_of_isFinite finite, if_neg Bool.false_ne_true,
    if_neg (not_infinity_less finite)]

theorem greatest_negInfinity {x : Float} (finite : x.isFinite = true) :
    Scalar.greatest Scalar.negInfinity x = x := by
  rw [Scalar.greatest, isNaN_of_isFinite finite, if_neg Bool.false_ne_true,
    if_neg (not_less_negInfinity finite)]

end Double

namespace RunningState

theorem exists_rank_min (xs : List Float) : ∃ a, Ranked.rank (ofList xs).min = some a := by
  rw [← Option.ne_none_iff_exists', ofList, Ranked.rank_min_foldl_observe]
  exact Ranked.foldl_merge_ne_none (by decide +kernel) _

theorem exists_rank_max (xs : List Float) : ∃ a, Ranked.rank (ofList xs).max = some a := by
  rw [← Option.ne_none_iff_exists', ofList, Ranked.rank_max_foldl_observe]
  exact Ranked.foldl_merge_ne_none (by decide +kernel) _

/-- The extremes of doubles are the same numbers in any order. -/
theorem min_beq_of_perm {xs ys : List Float} (perm : xs.Perm ys) :
    ((ofList xs).min == (ofList ys).min) = true := by
  obtain ⟨a, here⟩ := exists_rank_min xs
  exact Double.beq_iff_rank.2 ⟨a, here, Ranked.rank_min_perm perm ▸ here⟩

theorem max_beq_of_perm {xs ys : List Float} (perm : xs.Perm ys) :
    ((ofList xs).max == (ofList ys).max) = true := by
  obtain ⟨a, here⟩ := exists_rank_max xs
  exact Double.beq_iff_rank.2 ⟨a, here, Ranked.rank_max_perm perm ▸ here⟩

end RunningState

end Timings
