import Timings.Label
import Timings.Proofs.Grouping

/-!
Two levels of keys as one.

`SortedMap.flatten` lists a map of maps under pairs of keys. The order of the
enumeration, outer keys first, is the order of the pairs, so flattening is again
a sorted map, and lookups say what it holds. Every operation on nested
aggregates is then the operation on the flat ones: `flatten_observe`,
`flatten_merge`, `flatten_finalize`.

Flattening forgets an outer key without a group behind it. `Populated` excludes
such keys; under it a nested aggregate is determined by its flat form.
-/

namespace Timings

theorem EventKey.compare_eq_lt_iff {a b : EventKey} :
    compare a b = .lt ↔
      compare a.event b.event = .lt ∨ a.event = b.event ∧ compare a.items b.items = .lt := by
  have lexical : compare a b = (compare a.event b.event).then (compare a.items b.items) := rfl
  rw [lexical, Ordering.then_eq_lt, Std.LawfulEqCmp.compare_eq_iff_eq]

/-- Events by code points, the same event by the number of items. -/
theorem EventKey.compare_eq_lt_iff_lt {a b : EventKey} :
    compare a b = .lt ↔ a.event < b.event ∨ a.event = b.event ∧ a.items < b.items := by
  rw [EventKey.compare_eq_lt_iff, Nat.compare_eq_lt]
  exact or_congr compareOfLessAndEq_eq_lt Iff.rfl

namespace SortedMap

variable {ν μ : Type}

/-- The entries of a map of maps, each under both of its keys. -/
def flatten (m : SortedMap String (SortedMap Nat ν)) : SortedMap EventKey ν where
  entries := m.entries.flatMap fun e => e.2.entries.map fun b => (⟨e.1, b.1⟩, b.2)
  ascending := by
    refine List.pairwise_flatMap.2 ⟨?_, m.ascending.imp ?_⟩
    -- in one group the second key decides, between two groups the first
    · intro e _
      refine List.pairwise_map.2 (e.2.ascending.imp ?_)
      intro a b less
      exact EventKey.compare_eq_lt_iff.2 (Or.inr ⟨rfl, less⟩)
    · intro e e' less x inFirst y inSecond
      obtain ⟨a, -, rfl⟩ := List.mem_map.1 inFirst
      obtain ⟨b, -, rfl⟩ := List.mem_map.1 inSecond
      exact EventKey.compare_eq_lt_iff.2 (Or.inl less)

/-- Looking up a pair of keys is looking up one after the other. -/
theorem get?_flatten (m : SortedMap String (SortedMap Nat ν)) (key : EventKey) :
    m.flatten.get? key = (m.get? key.event).bind fun group => group.get? key.items := by
  apply Option.ext
  intro v
  rw [get?_eq_some_iff, Option.bind_eq_some_iff]
  unfold flatten
  rw [List.mem_flatMap]
  constructor
  · rintro ⟨⟨event, group⟩, outer, member⟩
    obtain ⟨⟨items, w⟩, inner, same⟩ := List.mem_map.1 member
    cases same
    exact ⟨group, get?_eq_some_iff.2 outer, get?_eq_some_iff.2 inner⟩
  · rintro ⟨group, outer, inner⟩
    exact ⟨(key.event, group), get?_eq_some_iff.1 outer,
      List.mem_map.2 ⟨(key.items, v), get?_eq_some_iff.1 inner, rfl⟩⟩

theorem values_flatten (m : SortedMap String (SortedMap Nat ν)) :
    m.flatten.values = m.values.flatMap values := by
  unfold flatten values
  rw [List.map_flatMap, List.flatMap_map]
  simp only [List.map_map]
  rfl

theorem size_flatten (m : SortedMap String (SortedMap Nat ν)) :
    m.flatten.size = (m.values.map size).sum := by
  have counted : m.flatten.size = m.flatten.values.length := (List.length_map ..).symm
  rw [counted, values_flatten, List.length_flatMap]
  congr 1
  refine List.map_congr_left ?_
  intro group _
  exact List.length_map ..

theorem sum_values_flatten {γ : Type} [Counter γ] (weight : ν → γ)
    (m : SortedMap String (SortedMap Nat ν)) :
    Counter.sum (m.flatten.values.map weight) =
      Counter.sum (m.values.map fun group => Counter.sum (group.values.map weight)) := by
  rw [values_flatten]
  induction m.values with
  | nil => rfl
  | cons group groups ih =>
      rw [List.flatMap_cons, List.map_append, Counter.sum_append, ih]
      rfl

end SortedMap

namespace NestedAggregate

section Lookups

variable {κ ι α γ : Type} [Ord κ] [Ord ι] [Std.TransOrd κ] [Std.TransOrd ι] [Std.LawfulEqOrd κ]
  [Scalar α] [Counter γ]

theorem get?_observe [DecidableEq κ] (a : NestedAggregate κ ι α γ) (outer k : κ) (inner : ι)
    (x : α) :
    (a.observe outer inner x).get? k =
      if outer = k then some (((a.get? k).getD .empty).observe inner x) else a.get? k := by
  rw [observe, SortedMap.get?_alter]
  by_cases same : outer = k
  · subst same
    rw [if_pos Std.ReflCmp.compare_self, if_pos rfl]
    cases a.get? outer <;> rfl
  · rw [if_neg same, if_neg]
    intro equal
    exact same (Std.LawfulEqCmp.eq_of_compare equal).symm

theorem get?_merge (a b : NestedAggregate κ ι α γ) (k : κ) :
    (a.merge b).get? k =
      match b.get? k with
      | none => a.get? k
      | some group => some (((a.get? k).getD .empty).merge group) := by
  have altered := SortedMap.get?_foldl_alter
    (fun (other : Aggregate ι α γ) (group? : Option (Aggregate ι α γ)) =>
      (group?.getD .empty).merge other) a b k
  refine Eq.trans ?_ (altered.trans ?_)
  · rfl
  · cases b.get? k <;> rfl

end Lookups

/-! ## Flattening the operations -/

section Flatten

variable {α γ : Type} [Scalar α] [Counter γ]

omit [Scalar α] [Counter γ] in
theorem find?_eq_get?_flatten (a : NestedAggregate String Nat α γ) (outer : String) (inner : Nat) :
    a.find? outer inner = a.flatten.get? ⟨outer, inner⟩ :=
  (SortedMap.get?_flatten a ⟨outer, inner⟩).symm

theorem flatten_observe (a : NestedAggregate String Nat α γ) (key : EventKey) (x : α) :
    (a.observe key.event key.items x).flatten = Aggregate.observe a.flatten key x := by
  apply SortedMap.ext_get?
  intro k
  rw [SortedMap.get?_flatten, get?_observe, Aggregate.get?_observe, SortedMap.get?_flatten]
  by_cases outer : key.event = k.event
  · rw [if_pos outer, Option.bind_some, Aggregate.get?_observe, SortedMap.get?_getD_empty]
    by_cases inner : key.items = k.items
    · have same : key = k := by
        cases key
        cases k
        cases outer
        cases inner
        rfl
      rw [if_pos inner, if_pos same]
    · have differs : key ≠ k := fun same => inner (congrArg EventKey.items same)
      rw [if_neg inner, if_neg differs]
  · have differs : key ≠ k := fun same => outer (congrArg EventKey.event same)
    rw [if_neg outer, if_neg differs]

theorem flatten_observeAll (a : NestedAggregate String Nat α γ) (values : List (EventKey × α)) :
    (a.observeAll (values.map fun v => ((v.1.event, v.1.items), v.2))).flatten =
      Aggregate.observeAll a.flatten values := by
  induction values generalizing a with
  | nil => rfl
  | cons v values ih =>
      have step := ih (a.observe v.1.event v.1.items v.2)
      rw [flatten_observe] at step
      exact step

theorem flatten_merge (a b : NestedAggregate String Nat α γ) :
    (a.merge b).flatten = Aggregate.merge a.flatten b.flatten := by
  apply SortedMap.ext_get?
  intro k
  rw [SortedMap.get?_flatten, get?_merge, Aggregate.get?_merge, SortedMap.get?_flatten,
    SortedMap.get?_flatten]
  cases b.get? k.event with
  | none => exact Option.merge_none_right.symm
  | some group =>
      rw [Option.bind_some, Option.bind_some, Aggregate.get?_merge, SortedMap.get?_getD_empty]

theorem flatten_finalize (a : NestedAggregate String Nat α γ) :
    (finalize a).flatten = Aggregate.finalize a.flatten := by
  apply SortedMap.ext_get?
  intro k
  rw [SortedMap.get?_flatten, finalize, SortedMap.get?_map, Aggregate.finalize,
    SortedMap.get?_filterMap, SortedMap.get?_flatten]
  cases a.get? k.event with
  | none => rfl
  | some group => exact SortedMap.get?_filterMap ..

omit [Scalar α] [Counter γ] in
theorem pairCount_eq_size_flatten (a : NestedAggregate String Nat α γ) :
    a.pairCount = a.flatten.size :=
  (SortedMap.size_flatten a).symm

omit [Scalar α] in
theorem observationCount_flatten (a : NestedAggregate String Nat α γ) :
    Aggregate.observationCount a.flatten = a.observationCount :=
  SortedMap.sum_values_flatten RunningState.count a

end Flatten

/-! ## No key without a group -/

/-- Behind every outer key there is a group. -/
def Populated {κ ι α γ : Type} [Ord κ] [Ord ι] (a : NestedAggregate κ ι α γ) : Prop :=
  ∀ outer group, a.get? outer = some group → ∃ inner s, group.get? inner = some s

section Populated

variable {κ ι α γ : Type} [Ord κ] [Ord ι]

theorem populated_empty : Populated (.empty : NestedAggregate κ ι α γ) := by
  intro outer group found
  cases found

variable [Std.TransOrd κ] [Std.TransOrd ι] [Std.LawfulEqOrd κ] [Std.LawfulEqOrd ι]
  [DecidableEq κ] [DecidableEq ι] [Scalar α] [Counter γ]

theorem populated_observe {a : NestedAggregate κ ι α γ} (populated : Populated a) (outer : κ)
    (inner : ι) (x : α) : Populated (a.observe outer inner x) := by
  intro k group found
  rw [get?_observe] at found
  by_cases same : outer = k
  · rw [if_pos same] at found
    cases found
    refine ⟨inner, ((((a.get? k).getD .empty).get? inner).getD .empty).observe x, ?_⟩
    rw [Aggregate.get?_observe, if_pos rfl]
    rfl
  · rw [if_neg same] at found
    exact populated k group found

theorem populated_observeAll {a : NestedAggregate κ ι α γ} (populated : Populated a)
    (values : List ((κ × ι) × α)) : Populated (a.observeAll values) := by
  induction values generalizing a with
  | nil => exact populated
  | cons v values ih => exact ih (populated_observe populated v.1.1 v.1.2 v.2)

omit [DecidableEq κ] [DecidableEq ι] in
/-- A merge adds groups of the other aggregate only, none of which is empty. -/
theorem populated_merge {a b : NestedAggregate κ ι α γ} (left : Populated a) (right : Populated b) :
    Populated (a.merge b) := by
  intro k group found
  rw [get?_merge] at found
  cases other : b.get? k with
  | none =>
      rw [other] at found
      exact left k group found
  | some group' =>
      rw [other] at found
      cases found
      obtain ⟨inner, s, there⟩ := right k group' other
      refine ⟨inner, ?_⟩
      rw [Aggregate.get?_merge, there]
      cases ((a.get? k).getD .empty).get? inner with
      | none => exact ⟨s, rfl⟩
      | some t => exact ⟨t.merge s, rfl⟩

end Populated

section Flat

variable {α γ : Type}

/-- A nested aggregate is empty when its flat form is. -/
theorem isEmpty_flatten {a : NestedAggregate String Nat α γ} (populated : Populated a) :
    a.flatten.isEmpty = a.isEmpty := by
  have occupied : a.flatten.isEmpty = false ↔ SortedMap.isEmpty a = false := by
    rw [SortedMap.isEmpty_eq_false_iff, SortedMap.isEmpty_eq_false_iff]
    constructor
    · rintro ⟨key, s, found⟩
      rw [SortedMap.get?_flatten] at found
      obtain ⟨group, outer, -⟩ := Option.bind_eq_some_iff.1 found
      exact ⟨key.event, group, outer⟩
    · rintro ⟨outer, group, found⟩
      obtain ⟨inner, s, there⟩ := populated outer group found
      refine ⟨⟨outer, inner⟩, s, ?_⟩
      rw [SortedMap.get?_flatten, found]
      exact there
  revert occupied
  cases a.flatten.isEmpty <;> cases SortedMap.isEmpty a <;> decide

/-- The groups that the flat form of a nested aggregate holds. -/
theorem get?_eq_of_flatten_eq {a b : NestedAggregate String Nat α γ} (populated : Populated a)
    (same : a.flatten = b.flatten) {outer : String} {group : Aggregate Nat α γ}
    (found : a.get? outer = some group) : b.get? outer = some group := by
  have lookups : ∀ inner, group.get? inner =
      (b.get? outer).bind fun group => group.get? inner := by
    intro inner
    have flat := congrArg (fun m => m.get? ⟨outer, inner⟩) same
    rw [SortedMap.get?_flatten, SortedMap.get?_flatten, found] at flat
    exact flat
  cases other : b.get? outer with
  | none =>
      -- a missing group would look like an empty one, which this is not
      obtain ⟨inner, s, there⟩ := populated outer group found
      have absent := lookups inner
      rw [there, other] at absent
      cases absent
  | some group' =>
      congr 1
      apply SortedMap.ext_get?
      intro inner
      rw [lookups inner, other]
      rfl

/-- Under `Populated`, flattening forgets nothing. -/
theorem eq_of_flatten_eq {a b : NestedAggregate String Nat α γ} (left : Populated a)
    (right : Populated b) (same : a.flatten = b.flatten) : a = b := by
  apply SortedMap.ext_get?
  intro outer
  apply Option.ext
  intro group
  exact ⟨get?_eq_of_flatten_eq left same, get?_eq_of_flatten_eq right same.symm⟩

end Flat

/-! ## A new nested aggregate -/

section OfEvents

variable {α : Type} [Scalar α] (values : List (EventKey × α))

/-- The nested aggregate that has taken in some values. -/
def ofEvents : NestedAggregate String Nat α :=
  observeAll .empty (values.map fun v => ((v.1.event, v.1.items), v.2))

theorem flatten_ofEvents : (ofEvents values).flatten = Aggregate.observeAll .empty values :=
  flatten_observeAll .empty values

theorem groups_finalize_ofEvents : Groups values (finalize (ofEvents values)).flatten.entries := by
  rw [flatten_finalize, flatten_ofEvents]
  exact Aggregate.groups_finalize values

theorem size_finalize_ofEvents :
    (finalize (ofEvents values)).flatten.size = (ofEvents values).pairCount := by
  rw [flatten_finalize, pairCount_eq_size_flatten, flatten_ofEvents]
  exact Aggregate.size_finalize (Aggregate.occupied_observeAll values)

/-- No event is left without a summary. -/
theorem isEmpty_of_get?_finalize_ofEvents {event : String} {summaries : SortedMap Nat (Summary α)}
    (found : (finalize (ofEvents values)).get? event = some summaries) :
    summaries.isEmpty = false := by
  rw [finalize, SortedMap.get?_map] at found
  obtain ⟨group, there, rfl⟩ := Option.map_eq_some_iff.1 found
  obtain ⟨items, s, inGroup⟩ := populated_observeAll populated_empty _ event group there
  have flat : (Aggregate.observeAll .empty values).get? ⟨event, items⟩ = some s := by
    rw [← flatten_ofEvents, SortedMap.get?_flatten, there]
    exact inGroup
  have seen : s.summarize.isSome := by
    rw [RunningState.summarize_isSome, RunningState.isEmpty]
    simpa using Aggregate.occupied_observeAll values _ s flat
  obtain ⟨summary, summarized⟩ := Option.isSome_iff_exists.1 seen
  refine SortedMap.isEmpty_eq_false_iff.2 ⟨items, summary, ?_⟩
  rw [Aggregate.finalize, SortedMap.get?_filterMap, inGroup]
  exact summarized

end OfEvents

end NestedAggregate

end Timings
