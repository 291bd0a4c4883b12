import Timings.Proofs.History
import Timings.Proofs.Ranked

/-!
What aggregates stand for.

A state represents the values it has taken in: it counts them, and its extremes are two of
them that bound all others (`RunningState.Represents`). The state before any value
represents nothing, for its extremes are the infinities, which no finite value is. Taking
in a value and merging keep what is represented, for states (`Represents.observe`,
`Represents.merge`) and so for the groups of an aggregate.

`History.aggregates_represent_observations` says this of every aggregate that came about by
operations: behind each key stands a state of the values observed under it, none of them
empty, so no summary is missing, and no outer key of a nested aggregate is without a group.
-/

namespace Timings

/-! ## Finite numbers in their order -/

/-- All of some numbers are finite. -/
def AllFinite (xs : List Float) : Prop := ∀ x ∈ xs, x.isFinite = true

instance : DecidablePred AllFinite := fun xs =>
  inferInstanceAs (Decidable (∀ x ∈ xs, x.isFinite = true))

theorem AllFinite.append {xs ys : List Float} (left : AllFinite xs) (right : AllFinite ys) :
    AllFinite (xs ++ ys) := by
  intro x inside
  rcases List.mem_append.1 inside with inside | inside
  · exact left x inside
  · exact right x inside

namespace Double

/-- Doubles are ordered by their places. -/
theorem le_iff_rank {x y : Float} :
    x ≤ y ↔ ∃ a b, Ranked.rank x = some a ∧ Ranked.rank y = some b ∧ a ≤ b := by
  have order : x ≤ y ↔ (x.toModel.unpack.compare y.toModel.unpack).any (·.isLE) = true :=
    decide_eq_true_iff
  rw [order, compare_eq_compare_place]
  change _ ↔ ∃ a b, place x.toModel.unpack = some a ∧ place y.toModel.unpack = some b ∧ a ≤ b
  cases place x.toModel.unpack <;> cases place y.toModel.unpack <;>
    simp [Ordering.isLE_iff_ne_gt, compare_gt_iff_gt]

theorem exists_rank {x : Float} (finite : x.isFinite = true) : ∃ a, Ranked.rank x = some a := by
  obtain ⟨side, inner, here, -⟩ := exists_place finite
  exact ⟨_, here⟩

theorem le_refl {x : Float} (finite : x.isFinite = true) : x ≤ x := by
  obtain ⟨a, here⟩ := exists_rank finite
  exact le_iff_rank.2 ⟨a, a, here, here, le_rfl⟩

theorem le_trans {x y z : Float} (first : x ≤ y) (second : y ≤ z) : x ≤ z := by
  obtain ⟨a, b, here, between, less⟩ := le_iff_rank.1 first
  obtain ⟨b', c, between', there, less'⟩ := le_iff_rank.1 second
  rw [between] at between'
  cases between'
  exact le_iff_rank.2 ⟨a, c, here, there, less.trans less'⟩

end Double

/-! ## Extremes -/

/-- One of some numbers, in a relation to all of them. -/
structure Extreme (r : Float → Float → Prop) (m : Float) (xs : List Float) : Prop where
  mem : m ∈ xs
  bound : ∀ x ∈ xs, r m x

namespace Extreme

variable {r : Float → Float → Prop} {choose : Float → Float → Float} {m n : Float}
  {xs ys : List Float}

/-- The one of two extremes that bounds the other is the extreme of all numbers. -/
theorem append (trans : ∀ {x y z}, r x y → r y z → r x z) (left : Extreme r m xs)
    (right : Extreme r n ys) (either : choose m n = m ∨ choose m n = n)
    (first : r (choose m n) m) (second : r (choose m n) n) :
    Extreme r (choose m n) (xs ++ ys) where
  mem := by
    rcases either with same | same
    · rw [same]
      exact List.mem_append_left ys left.mem
    · rw [same]
      exact List.mem_append_right xs right.mem
  bound x inside := by
    rcases List.mem_append.1 inside with inside | inside
    · exact trans first (left.bound x inside)
    · exact trans second (right.bound x inside)

/-- The smaller of the least numbers. -/
theorem least (left : Extreme (· ≤ ·) m xs) (right : Extreme (· ≤ ·) n ys) (finite : AllFinite xs)
    (finite' : AllFinite ys) : Extreme (· ≤ ·) (Scalar.least m n) (xs ++ ys) := by
  obtain ⟨a, here⟩ := Double.exists_rank (finite m left.mem)
  obtain ⟨b, there⟩ := Double.exists_rank (finite' n right.mem)
  have place : Ranked.rank (Scalar.least m n) = some (min a b) := by
    rw [Ranked.rank_least, here, there, Option.merge_some_some]
  refine left.append Double.le_trans right ?_ ?_ ?_
  · unfold Scalar.least
    split
    · exact .inl rfl
    · split
      · exact .inl rfl
      · exact .inr rfl
  · exact Double.le_iff_rank.2 ⟨_, a, place, here, min_le_left a b⟩
  · exact Double.le_iff_rank.2 ⟨_, b, place, there, min_le_right a b⟩

/-- The larger of the greatest numbers. -/
theorem greatest (left : Extreme (· ≥ ·) m xs) (right : Extreme (· ≥ ·) n ys)
    (finite : AllFinite xs) (finite' : AllFinite ys) :
    Extreme (· ≥ ·) (Scalar.greatest m n) (xs ++ ys) := by
  obtain ⟨a, here⟩ := Double.exists_rank (finite m left.mem)
  obtain ⟨b, there⟩ := Double.exists_rank (finite' n right.mem)
  have place : Ranked.rank (Scalar.greatest m n) = some (max a b) := by
    rw [Ranked.rank_greatest, here, there, Option.merge_some_some]
  refine left.append (fun first second => Double.le_trans second first) right ?_ ?_ ?_
  · unfold Scalar.greatest
    split
    · exact .inl rfl
    · split
      · exact .inl rfl
      · exact .inr rfl
  · exact Double.le_iff_rank.2 ⟨a, _, here, place, le_max_left a b⟩
  · exact Double.le_iff_rank.2 ⟨b, _, there, place, le_max_right a b⟩

end Extreme

/-! ## States -/

namespace RunningState

/-- A state counts some values, and its extremes are two of them that bound all others. -/
structure Represents (s : RunningState Float) (xs : List Float) : Prop where
  count : s.count = xs.length
  least : Extreme (· ≤ ·) s.min xs
  greatest : Extreme (· ≥ ·) s.max xs

/-- A state that represents values has seen one. -/
theorem Represents.count_pos {s : RunningState Float} {xs : List Float} (known : s.Represents xs) :
    0 < s.count := by
  rw [known.count]
  exact List.length_pos_of_mem known.least.mem

/-- The infinities of the state before any value give way to the first one. -/
theorem represents_singleton {x : Float} (finite : x.isFinite = true) :
    (empty.observe x).Represents [x] := by
  have least : (empty.observe x).min = x := Double.least_infinity finite
  have greatest : (empty.observe x).max = x := Double.greatest_negInfinity finite
  have bound : ∀ y ∈ [x], x ≤ y ∧ y ≤ x := by
    intro y inside
    rw [List.mem_singleton.1 inside]
    exact ⟨Double.le_refl finite, Double.le_refl finite⟩
  refine ⟨rfl, ?_, ?_⟩
  · rw [least]
    exact ⟨List.mem_singleton_self x, fun y inside => (bound y inside).1⟩
  · rw [greatest]
    exact ⟨List.mem_singleton_self x, fun y inside => (bound y inside).2⟩

theorem Represents.merge {s t : RunningState Float} {xs ys : List Float} (left : s.Represents xs)
    (right : t.Represents ys) (finite : AllFinite xs) (finite' : AllFinite ys) :
    (s.merge t).Represents (xs ++ ys) where
  count := by rw [count_merge, left.count, right.count, List.length_append]
  least := left.least.least right.least finite finite'
  greatest := left.greatest.greatest right.greatest finite finite'

/-- Taking in a value moves the extremes as merging the state of this value does. -/
theorem Represents.observe {s : RunningState Float} {xs : List Float} {x : Float}
    (known : s.Represents xs) (finite : AllFinite xs) (finite' : x.isFinite = true) :
    (s.observe x).Represents (xs ++ [x]) := by
  have single := represents_singleton finite'
  have all : AllFinite [x] := fun y inside => List.mem_singleton.1 inside ▸ finite'
  have least := known.least.least single.least finite all
  have greatest := known.greatest.greatest single.greatest finite all
  rw [show (empty.observe x).min = x from Double.least_infinity finite'] at least
  rw [show (empty.observe x).max = x from Double.greatest_negInfinity finite'] at greatest
  refine ⟨?_, least, greatest⟩
  rw [count_observe, known.count, List.length_append, List.length_singleton]

/-! ## States that may not be there -/

/-- The state of a group represents its values, and is there if there are any. -/
def Represents? : Option (RunningState Float) → List Float → Prop
  | none, xs => xs = []
  | some s, xs => s.Represents xs

theorem Represents?.takeIn {s? : Option (RunningState Float)} {xs : List Float} {x : Float}
    (known : Represents? s? xs) (finite : AllFinite xs) (finite' : x.isFinite = true) :
    Represents? (takeIn s? x) (xs ++ [x]) := by
  cases s? with
  | none =>
      have nothing : xs = [] := known
      rw [nothing]
      exact represents_singleton finite'
  | some s => exact Represents.observe known finite finite'

theorem Represents?.foldl_takeIn {s? : Option (RunningState Float)} {xs ys : List Float}
    (known : Represents? s? xs) (finite : AllFinite xs) (finite' : AllFinite ys) :
    Represents? (ys.foldl RunningState.takeIn s?) (xs ++ ys) := by
  induction ys generalizing s? xs with
  | nil =>
      rw [List.append_nil]
      exact known
  | cons y ys ih =>
      have here : y.isFinite = true := finite' y List.mem_cons_self
      have rest : AllFinite ys := fun x inside => finite' x (List.mem_cons_of_mem y inside)
      have single : AllFinite [y] := fun x inside => List.mem_singleton.1 inside ▸ here
      have step := ih (known.takeIn finite here) (finite.append single) rest
      rw [List.append_assoc] at step
      exact step

theorem Represents?.merge {s? t? : Option (RunningState Float)} {xs ys : List Float}
    (left : Represents? s? xs) (right : Represents? t? ys) (finite : AllFinite xs)
    (finite' : AllFinite ys) : Represents? (s?.merge RunningState.merge t?) (xs ++ ys) := by
  cases s? with
  | none =>
      have nothing : xs = [] := left
      rw [Option.merge_none_left, nothing]
      exact right
  | some s =>
      cases t? with
      | none =>
          have nothing : ys = [] := right
          rw [Option.merge_none_right, nothing, List.append_nil]
          exact left
      | some t => exact Represents.merge left right finite finite'

end RunningState

open RunningState (Represents?)

/-! ## Aggregates -/

/-- An aggregate stands for keyed values. -/
structure Aggregate.Represents {κ : Type} [Ord κ] [DecidableEq κ] (a : Aggregate κ Float)
    (values : List (κ × Float)) : Prop where
  /-- Behind a key stands a state of its values, and no count is larger than that of all. -/
  state : ∀ key s, a.get? key = some s →
    0 < s.count ∧ s.count ≤ values.length ∧ s.Represents (valuesOf key values)
  /-- The keys are those of the values. -/
  mem_keys_iff : ∀ key, key ∈ a.keys ↔ key ∈ values.map (·.1)
  observations : a.observationCount = values.length
  /-- No key is left out of the summaries. -/
  keys_finalize : a.finalize.keys = a.keys
  size_finalize : a.finalize.size = a.size

/-- A nested aggregate stands for values under pairs of keys. -/
structure NestedAggregate.Represents (a : NestedAggregate String Nat Float)
    (values : List (EventKey × Float)) : Prop where
  /-- Behind a pair of keys stands a state of its values, and no count is larger than that
  of all. -/
  state : ∀ outer inner s, a.find? outer inner = some s →
    0 < s.count ∧ s.count ≤ values.length ∧ s.Represents (valuesOf ⟨outer, inner⟩ values)
  /-- The pairs of keys are those of the values. -/
  isSome_find?_iff : ∀ outer inner,
    (a.find? outer inner).isSome ↔ ⟨outer, inner⟩ ∈ values.map (·.1)
  observations : a.observationCount = values.length
  /-- No pair of keys is left out of the summaries. -/
  size_finalize : (a.finalize.values.map SortedMap.size).sum = a.pairCount
  /-- No outer key is without a group. -/
  populated : ∀ outer group, a.get? outer = some group → group.isEmpty = false
  isEmpty_iff : a.isEmpty = true ↔ a.pairCount = 0
  finalize_isEmpty_iff : a.finalize.isEmpty = true ↔ a.pairCount = 0

namespace History

variable {κ : Type} [Ord κ] [Std.TransOrd κ] [Std.LawfulEqOrd κ] [DecidableEq κ]

/-- Operation by operation, the group of a key represents the values observed under it. -/
theorem represents?_aggregate (h : History κ Float) (finite : AllFinite (h.observed.map (·.2)))
    (key : κ) : Represents? (h.aggregate.get? key) (valuesOf key h.observed) := by
  have all : ∀ {values : List (κ × Float)}, AllFinite (values.map (·.2)) →
      AllFinite (valuesOf key values) := by
    intro values known x inside
    obtain ⟨v, kept, rfl⟩ := List.mem_map.1 inside
    exact known _ (List.mem_map_of_mem (List.mem_of_mem_filter kept))
  have parts : ∀ {values more : List (κ × Float)}, AllFinite ((values ++ more).map (·.2)) →
      AllFinite (values.map (·.2)) ∧ AllFinite (more.map (·.2)) := by
    intro values more known
    rw [List.map_append] at known
    exact ⟨fun x inside => known x (List.mem_append_left _ inside),
      fun x inside => known x (List.mem_append_right _ inside)⟩
  induction h with
  | new => rfl
  | observe before k value ih =>
      obtain ⟨known, new⟩ := parts finite
      have single : before.aggregate.observe k value =
          before.aggregate.observeAll [(k, value)] := rfl
      rw [aggregate, single, Aggregate.get?_observeAll, observed, valuesOf_append]
      exact (ih known).foldl_takeIn (all known) (all new)
  | extend before values ih =>
      obtain ⟨known, new⟩ := parts finite
      rw [aggregate, Aggregate.get?_observeAll, observed, valuesOf_append]
      exact (ih known).foldl_takeIn (all known) (all new)
  | merge before other ihBefore ihOther =>
      obtain ⟨known, new⟩ := parts finite
      rw [aggregate, Aggregate.get?_merge, observed, valuesOf_append]
      exact (ihBefore known).merge (ihOther new) (all known) (all new)

theorem represents_aggregate (h : History κ Float) (finite : AllFinite (h.observed.map (·.2))) :
    h.aggregate.Represents h.observed := by
  have group := represents?_aggregate h finite
  have state : ∀ key s, h.aggregate.get? key = some s →
      0 < s.count ∧ s.count ≤ h.observed.length ∧ s.Represents (valuesOf key h.observed) := by
    intro key s found
    have known := group key
    rw [found] at known
    have known : s.Represents (valuesOf key h.observed) := known
    refine ⟨known.count_pos, ?_, known⟩
    rw [known.count, valuesOf, List.length_map]
    exact List.length_filter_le _ _
  refine ⟨state, ?_, observationCount_aggregate h, ?_, ?_⟩
  · intro key
    rw [SortedMap.mem_keys_iff, ← valuesOf_ne_nil_iff]
    have known := group key
    cases found : h.aggregate.get? key with
    | none =>
        rw [found] at known
        exact iff_of_false (fun ⟨s, impossible⟩ => nomatch impossible) (absurd known)
    | some s =>
        have known := (state key s found).2.2
        exact iff_of_true ⟨s, rfl⟩ (List.ne_nil_of_mem known.least.mem)
  · apply SortedMap.keys_eq_of_isSome
    intro key
    rw [Aggregate.finalize, SortedMap.get?_filterMap]
    cases found : h.aggregate.get? key with
    | none => rfl
    | some s =>
        have seen := (state key s found).1
        rw [Option.bind_some, RunningState.summarize_isSome, RunningState.isEmpty]
        simpa using Nat.ne_of_gt seen
  · exact Aggregate.size_finalize fun key s found => Nat.ne_of_gt (state key s found).1

theorem represents_nested (h : History EventKey Float)
    (finite : AllFinite (h.observed.map (·.2))) : h.nested.Represents h.observed := by
  have flat := flatten_nested h
  have known := represents_aggregate h finite
  have populated := populated_nested h
  have pairs : h.nested.isEmpty = true ↔ h.nested.pairCount = 0 := by
    rw [← NestedAggregate.isEmpty_flatten populated, NestedAggregate.pairCount_eq_size_flatten]
    exact List.isEmpty_iff_length_eq_zero
  refine ⟨?_, ?_, ?_, ?_, ?_, pairs, ?_⟩
  · intro outer inner s found
    rw [NestedAggregate.find?_eq_get?_flatten, flat] at found
    exact known.state _ s found
  · intro outer inner
    rw [NestedAggregate.find?_eq_get?_flatten, flat, ← known.mem_keys_iff, SortedMap.mem_keys_iff,
      Option.isSome_iff_exists]
  · rw [← NestedAggregate.observationCount_flatten, flat, known.observations]
  · rw [← SortedMap.size_flatten, NestedAggregate.flatten_finalize, flat, known.size_finalize,
      NestedAggregate.pairCount_eq_size_flatten, flat]
  · intro outer group found
    exact SortedMap.isEmpty_eq_false_iff.2 (populated outer group found)
  · have listed : h.nested.finalize.isEmpty = h.nested.isEmpty := List.isEmpty_map
    rw [listed]
    exact pairs

/-- **What aggregates stand for.** After every history of finite values an aggregate, flat or
nested, holds behind each key a state that has counted the values observed under it, with
two of them as its extremes. It has counted all values, has a summary for each key, and the
nested one has no outer key without a group, so it is empty exactly if it has no summary. -/
theorem aggregates_represent_observations :
    (∀ (κ : Type) [Ord κ] [Std.TransOrd κ] [Std.LawfulEqOrd κ] [DecidableEq κ]
      (h : History κ Float), AllFinite (h.observed.map (·.2)) →
        h.aggregate.Represents h.observed) ∧
    ∀ h : History EventKey Float, AllFinite (h.observed.map (·.2)) →
      h.nested.Represents h.observed :=
  ⟨fun _ _ _ _ _ h finite => represents_aggregate h finite,
    fun h finite => represents_nested h finite⟩

/-- Aggregates that have taken in what they had seen already, with both zeros under one key. -/
theorem doubled_aggregates_represent :
    let once : History String Float := .extend .new [("b", 2), ("a", -0.0), ("b", -3), ("a", 0)]
    let twice : History String Float := .merge once once
    let event : History EventKey Float := .observe .new ⟨"s", 2⟩ 7
    let events : History EventKey Float := .merge (.observe event ⟨"s", 1⟩ 5) event
    AllFinite (twice.observed.map (·.2)) ∧ twice.aggregate.Represents twice.observed ∧
      AllFinite (events.observed.map (·.2)) ∧ events.nested.Represents events.observed ∧
      ∃ s, twice.aggregate.get? "b" = some s ∧ s.count = 4 ∧ s.min = -3 ∧ s.max = 2 := by
  intro once twice event events
  have finite : AllFinite (twice.observed.map (·.2)) := by decide +kernel
  have finite' : AllFinite (events.observed.map (·.2)) := by decide +kernel
  refine ⟨finite, aggregates_represent_observations.1 String twice finite, finite',
    aggregates_represent_observations.2 events finite', ?_⟩
  exact ⟨⟨4, -2, 26, -3, 2⟩, by decide +kernel⟩

end History

end Timings
