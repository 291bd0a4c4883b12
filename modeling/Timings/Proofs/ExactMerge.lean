import Timings.Proofs.Exact
import Timings.Proofs.History

/-!
Merging exact aggregates.

Over exact numbers a state depends on its values and not on their order, and
merging two states joins their values. Lifted to the keys of an aggregate: what
an aggregate holds is decided by the values in its history, however they were
spread over aggregates and in whatever order and bracketing these were merged.
-/

namespace Timings

variable {root : ℚ → ℚ}

namespace RunningState

/-! ## States as sums of their values -/

theorem ext_fields {α : Type} {s t : RunningState α} (count : s.count = t.count)
    (sum : s.sum = t.sum) (sumSquares : s.sumSquares = t.sumSquares) (min : s.min = t.min)
    (max : s.max = t.max) : s = t := by
  cases s
  cases t
  cases count
  cases sum
  cases sumSquares
  cases min
  cases max
  rfl

/-- A value may be taken in before a merge or after it. -/
theorem merge_observe (s t : RunningState (Exact root)) (x : Exact root) :
    s.merge (t.observe x) = (s.merge t).observe x :=
  ext_fields (Nat.add_assoc ..).symm (Exact.add_assoc ..).symm (Exact.add_assoc ..).symm
    (Exact.least_assoc ..).symm (Exact.greatest_assoc ..).symm

/-- Two values may be taken in in either order. -/
theorem observe_observe_comm (s : RunningState (Exact root)) (x y : Exact root) :
    (s.observe x).observe y = (s.observe y).observe x := by
  have swapSums : ∀ a b c : Exact root, a + b + c = a + c + b := by
    intro a b c
    rw [Exact.add_assoc, Exact.add_comm b c, ← Exact.add_assoc]
  refine ext_fields rfl (swapSums ..) (swapSums ..) ?_ ?_
  · change Scalar.least (Scalar.least _ x) y = Scalar.least (Scalar.least _ y) x
    rw [Exact.least_assoc, Exact.least_comm x y, ← Exact.least_assoc]
  · change Scalar.greatest (Scalar.greatest _ x) y = Scalar.greatest (Scalar.greatest _ y) x
    rw [Exact.greatest_assoc, Exact.greatest_comm x y, ← Exact.greatest_assoc]

theorem merge_foldl_observe (s t : RunningState (Exact root)) (xs : List (Exact root)) :
    s.merge (xs.foldl observe t) = xs.foldl observe (s.merge t) := by
  induction xs generalizing t with
  | nil => rfl
  | cons x xs ih => rw [List.foldl_cons, ih, merge_observe, List.foldl_cons]

/-- The least and the greatest value have a place on the line. -/
def Placed (s : RunningState (Exact root)) : Prop := s.min.rank ≠ none ∧ s.max.rank ≠ none

theorem placed_empty : (empty : RunningState (Exact root)).Placed := by
  constructor
  · exact Option.some_ne_none (⊤ : WithBot (WithTop ℚ))
  · exact Option.some_ne_none (⊥ : WithBot (WithTop ℚ))

theorem placed_foldl_observe {s : RunningState (Exact root)} (placed : s.Placed)
    (xs : List (Exact root)) : (xs.foldl observe s).Placed := by
  induction xs generalizing s with
  | nil => exact placed
  | cons x xs ih =>
      refine ih ⟨?_, ?_⟩
      · change (Scalar.least s.min x).rank ≠ none
        rw [Exact.rank_least, ne_eq, Option.merge_eq_none_iff]
        exact fun none => placed.1 none.1
      · change (Scalar.greatest s.max x).rank ≠ none
        rw [Exact.rank_greatest, ne_eq, Option.merge_eq_none_iff]
        exact fun none => placed.2 none.1

/-- The state before any value adds nothing. Its extremes are the ends of the line, to
which only what has no place there would give way. -/
theorem merge_empty {s : RunningState (Exact root)} (placed : s.Placed) : s.merge empty = s :=
  ext_fields rfl (Exact.add_zero _) (Exact.add_zero _) (Exact.least_infinity placed.1)
    (Exact.greatest_negInfinity placed.2)

theorem merge_ofList (xs ys : List (Exact root)) :
    (ofList xs).merge (ofList ys) = ofList (xs ++ ys) := by
  have placed : (ofList xs : RunningState (Exact root)).Placed :=
    placed_foldl_observe placed_empty xs
  unfold ofList at placed ⊢
  rw [merge_foldl_observe, merge_empty placed, List.foldl_append]

theorem ofList_perm {xs ys : List (Exact root)} (perm : xs.Perm ys) : ofList xs = ofList ys :=
  perm.foldl_eq' (fun x _ y _ s => observe_observe_comm s x y) empty

/-! ## Groups that may not be there -/

theorem merge_ofGroup? (xs ys : List (Exact root)) :
    (ofGroup? xs).merge merge (ofGroup? ys) = ofGroup? (xs ++ ys) := by
  cases xs with
  | nil => exact Option.merge_none_left
  | cons x xs =>
      cases ys with
      | nil =>
          rw [List.append_nil]
          exact Option.merge_none_right
      | cons y ys => exact congrArg some (merge_ofList (x :: xs) (y :: ys))

theorem ofGroup?_perm {xs ys : List (Exact root)} (perm : xs.Perm ys) :
    ofGroup? xs = ofGroup? ys := by
  cases xs with
  | nil => rw [List.nil_perm.1 perm]
  | cons x xs =>
      cases ys with
      | nil => cases List.perm_nil.1 perm
      | cons y ys => exact congrArg some (ofList_perm perm)

end RunningState

/-! ## Aggregates -/

namespace History

/-- Behind each key of an aggregate stands the fold of the values of its history. -/
theorem get?_aggregate {κ : Type} [Ord κ] [Std.TransOrd κ] [Std.LawfulEqOrd κ] [DecidableEq κ]
    (h : History κ (Exact root)) (k : κ) :
    h.aggregate.get? k = RunningState.ofGroup? (valuesOf k h.observed) := by
  induction h with
  | new => rfl
  | observe before key value ih =>
      have single : before.aggregate.observe key value =
          before.aggregate.observeAll [(key, value)] := rfl
      rw [aggregate, single, Aggregate.get?_observeAll, ih, RunningState.foldl_takeIn_ofGroup?,
        observed, valuesOf_append]
  | extend before values ih =>
      rw [aggregate, Aggregate.get?_observeAll, ih, RunningState.foldl_takeIn_ofGroup?, observed,
        valuesOf_append]
  | merge before other ihBefore ihOther =>
      rw [aggregate, Aggregate.get?_merge, ihBefore, ihOther, RunningState.merge_ofGroup?,
        observed, valuesOf_append]

theorem aggregate_eq_observeAll {κ : Type} [Ord κ] [Std.TransOrd κ] [Std.LawfulEqOrd κ]
    (h : History κ (Exact root)) {values : List (κ × Exact root)}
    (perm : h.observed.Perm values) : h.aggregate = Aggregate.observeAll .empty values := by
  classical
  apply SortedMap.ext_get?
  intro k
  rw [get?_aggregate, Aggregate.get?_observeAll_empty]
  exact RunningState.ofGroup?_perm (valuesOf_perm k perm)

/-- The flat aggregates are equal, and none of the nested ones has an empty group. -/
theorem nested_eq_observeAll (h : History EventKey (Exact root))
    {values : List (EventKey × Exact root)} (perm : h.observed.Perm values) :
    h.nested =
      NestedAggregate.observeAll .empty (values.map fun v => ((v.1.event, v.1.items), v.2)) := by
  refine NestedAggregate.eq_of_flatten_eq (populated_nested h)
    (NestedAggregate.populated_observeAll NestedAggregate.populated_empty _) ?_
  rw [flatten_nested, NestedAggregate.flatten_observeAll, aggregate_eq_observeAll h perm]
  rfl

/-- **Merging parts is one pass over the whole.** Values spread over aggregates in
any way and merged in any order and bracketing give the aggregate that has taken
in all of them itself, in any order: the same keys, and for each key the same
count, sums, least and greatest value, and so the same summaries. -/
theorem merged_parts_eq_one_pass (root : ℚ → ℚ) :
    (∀ (κ : Type) [Ord κ] [Std.TransOrd κ] [Std.LawfulEqOrd κ] (h : History κ (Exact root))
      (values : List (κ × Exact root)), h.observed.Perm values →
        h.aggregate = Aggregate.observeAll .empty values) ∧
    (∀ (h : History EventKey (Exact root)) (values : List (EventKey × Exact root)),
      h.observed.Perm values →
        h.nested =
          NestedAggregate.observeAll .empty
            (values.map fun v => ((v.1.event, v.1.items), v.2))) :=
  ⟨fun _ _ _ _ h _ perm => aggregate_eq_observeAll h perm,
    fun h _ perm => nested_eq_observeAll h perm⟩

/-- Three parts, the second one empty, merged from the right; one key is in two of them. -/
theorem merged_three_parts :
    (History.merge (.extend .new [("b", .finite 2), ("a", .finite 1)])
        (.merge .new (.observe .new "b" (.finite 3))) : History String (Exact id)).aggregate =
      Aggregate.observeAll .empty [("b", .finite 3), ("a", .finite 1), ("b", .finite 2)] ∧
    (History.merge (.extend .new [(⟨"s", 2⟩, .finite 2), (⟨"s", 1⟩, .finite 1)])
        (.merge .new (.observe .new ⟨"s", 2⟩ (.finite 3))) :
          History EventKey (Exact id)).nested =
      NestedAggregate.observeAll .empty
        [(("s", 2), .finite 3), (("s", 1), .finite 1), (("s", 2), .finite 2)] := by
  constructor
  · exact (merged_parts_eq_one_pass id).1 String _
      [("b", .finite 3), ("a", .finite 1), ("b", .finite 2)] (by decide)
  · exact (merged_parts_eq_one_pass id).2 _
      [(⟨"s", 2⟩, .finite 3), (⟨"s", 1⟩, .finite 1), (⟨"s", 2⟩, .finite 2)] (by decide)

end History

end Timings
