import Timings.Proofs.Nested

/-!
Aggregates by the way they came about.

A `History` is a finite sequence of operations that starts from nothing, with
a history of its own for everything that is merged in; it may be the same one
again. `History.aggregate` and `History.nested` carry it out on flat and on
nested aggregates. `History.flatten_nested` is the simulation between the two:
after every history, the flat aggregate is the flat form of the nested one.
-/

namespace Timings

/-- How an aggregate came about. -/
inductive History (κ α : Type) where
  /-- Nothing has happened. -/
  | new
  /-- One value was taken in. -/
  | observe (before : History κ α) (key : κ) (value : α)
  /-- A list of values was taken in. -/
  | extend (before : History κ α) (values : List (κ × α))
  /-- All that another aggregate had seen was taken in. -/
  | merge (before other : History κ α)

namespace History

/-- The values an aggregate has seen. -/
def observed {κ α : Type} : History κ α → List (κ × α)
  | new => []
  | observe before key value => before.observed ++ [(key, value)]
  | extend before values => before.observed ++ values
  | merge before other => before.observed ++ other.observed

/-- The aggregate with a history. -/
def aggregate {κ α γ : Type} [Ord κ] [Std.TransOrd κ] [Scalar α] [Counter γ] :
    History κ α → Aggregate κ α γ
  | new => .empty
  | observe before key value => before.aggregate.observe key value
  | extend before values => before.aggregate.observeAll values
  | merge before other => before.aggregate.merge other.aggregate

/-- The nested aggregate with a history. -/
def nested {α γ : Type} [Scalar α] [Counter γ] :
    History EventKey α → NestedAggregate String Nat α γ
  | new => .empty
  | observe before key value => before.nested.observe key.event key.items value
  | extend before values =>
    before.nested.observeAll (values.map fun v => ((v.1.event, v.1.items), v.2))
  | merge before other => before.nested.merge other.nested

variable {α : Type} [Scalar α]

/-- All values observed are counted. -/
theorem observationCount_aggregate {κ : Type} [Ord κ] [Std.TransOrd κ] (h : History κ α) :
    h.aggregate.observationCount = h.observed.length := by
  induction h with
  | new => rfl
  | observe before key value ih =>
      rw [aggregate, Aggregate.observationCount_observe, ih, observed, List.length_append,
        List.length_singleton]
  | extend before values ih =>
      rw [aggregate, Aggregate.observationCount_observeAll, ih, observed, List.length_append]
  | merge before other ihBefore ihOther =>
      rw [aggregate, Aggregate.observationCount_merge, ihBefore, ihOther, observed,
        List.length_append]

section Counters

variable {γ : Type} [Counter γ]

/-- Operation by operation, flattening keeps up. -/
theorem flatten_nested (h : History EventKey α) :
    (h.nested : NestedAggregate String Nat α γ).flatten = h.aggregate := by
  induction h with
  | new => rfl
  | observe before key value ih =>
      rw [nested, aggregate, NestedAggregate.flatten_observe, ih]
  | extend before values ih =>
      rw [nested, aggregate, NestedAggregate.flatten_observeAll, ih]
  | merge before other ihBefore ihOther =>
      rw [nested, aggregate, NestedAggregate.flatten_merge, ihBefore, ihOther]

/-- No history leaves an outer key without a group. -/
theorem populated_nested (h : History EventKey α) :
    (h.nested : NestedAggregate String Nat α γ).Populated := by
  induction h with
  | new => exact NestedAggregate.populated_empty
  | observe before key value ih =>
      exact NestedAggregate.populated_observe ih key.event key.items value
  | extend before values ih => exact NestedAggregate.populated_observeAll ih _
  | merge before other ihBefore ihOther =>
      exact NestedAggregate.populated_merge ihBefore ihOther

end Counters

/-- **A nested aggregate is a flat one.** After every history, and so after every
step of one, the two aggregates answer alike for each pair of keys, count alike,
and list the same summaries under the same pairs in the same order. This holds
whatever values are counted with: a counter may come back to zero, so that a state
which has taken in values has no summary. -/
theorem nested_agrees_with_flat (γ : Type) [Counter γ] (h : History EventKey α) :
    let nested : NestedAggregate String Nat α γ := h.nested
    let flat : Aggregate EventKey α γ := h.aggregate
    (∀ outer inner, nested.find? outer inner = flat.get? ⟨outer, inner⟩) ∧
    nested.pairCount = flat.size ∧
    nested.isEmpty = flat.isEmpty ∧
    nested.observationCount = flat.observationCount ∧
    (nested.finalize.entries.flatMap fun e =>
        e.2.entries.map fun b => ((⟨e.1, b.1⟩ : EventKey), b.2)) =
      flat.finalize.entries := by
  intro nested flat
  have flattened : nested.flatten = flat := flatten_nested h
  have populated : nested.Populated := populated_nested h
  refine ⟨?_, ?_, ?_, ?_, ?_⟩
  · intro outer inner
    rw [NestedAggregate.find?_eq_get?_flatten, flattened]
  · rw [NestedAggregate.pairCount_eq_size_flatten, flattened]
  · rw [← NestedAggregate.isEmpty_flatten populated, flattened]
  · rw [← NestedAggregate.observationCount_flatten, flattened]
  · have listed := NestedAggregate.flatten_finalize nested
    rw [flattened] at listed
    exact congrArg SortedMap.entries listed

end History

end Timings
