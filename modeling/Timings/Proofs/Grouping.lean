import Timings.Proofs.SortedMap
import Timings.Stats.Aggregate

/-!
What an aggregate holds after a list of keyed values.

`valuesOf` is the group of a key, said without any map: its values, in their
order. `Aggregate.get?_observeAll` says that an aggregate holds behind each key
the fold of exactly these values, whatever came under other keys in between.
`Groups` is the table that belongs to a list of keyed values, and
`Aggregate.groups_finalize` that this table comes out.
-/

namespace Timings

/-- The values of one key, in their order. -/
def valuesOf {κ α : Type} [DecidableEq κ] (key : κ) (values : List (κ × α)) : List α :=
  (values.filter fun v => v.1 = key).map (·.2)

section ValuesOf

variable {κ α : Type} [DecidableEq κ]

theorem valuesOf_cons (key k : κ) (x : α) (values : List (κ × α)) :
    valuesOf key ((k, x) :: values) =
      if k = key then x :: valuesOf key values else valuesOf key values := by
  unfold valuesOf
  by_cases same : k = key
  · rw [if_pos same, List.filter_cons_of_pos (by simpa using same), List.map_cons]
  · rw [if_neg same, List.filter_cons_of_neg (by simpa using same)]

theorem valuesOf_append (key : κ) (values more : List (κ × α)) :
    valuesOf key (values ++ more) = valuesOf key values ++ valuesOf key more := by
  unfold valuesOf
  rw [List.filter_append, List.map_append]

theorem valuesOf_perm (key : κ) {values more : List (κ × α)} (perm : values.Perm more) :
    (valuesOf key values).Perm (valuesOf key more) :=
  (perm.filter _).map _

theorem valuesOf_ne_nil_iff {key : κ} {values : List (κ × α)} :
    valuesOf key values ≠ [] ↔ key ∈ values.map (·.1) := by
  constructor
  · intro nonempty
    obtain ⟨x, member⟩ := List.exists_mem_of_ne_nil _ nonempty
    obtain ⟨v, kept, -⟩ := List.mem_map.1 member
    obtain ⟨occurs, same⟩ := List.mem_filter.1 kept
    exact List.mem_map.2 ⟨v, occurs, by simpa using same⟩
  · intro member
    obtain ⟨v, occurs, same⟩ := List.mem_map.1 member
    have kept : v ∈ values.filter fun v => v.1 = key :=
      List.mem_filter.2 ⟨occurs, by simpa using same⟩
    exact List.ne_nil_of_mem (List.mem_map.2 ⟨v, kept, rfl⟩)

end ValuesOf

/-! ## The state of a group -/

namespace RunningState

variable {α : Type} [Scalar α]

/-- Takes a value into the state of a group, which may not be there yet. -/
def takeIn {γ : Type} [Counter γ] (state? : Option (RunningState α γ)) (x : α) :
    Option (RunningState α γ) :=
  some ((state?.getD .empty).observe x)

/-- The state of the group of some values, if there are any. -/
def ofGroup? : List α → Option (RunningState α)
  | [] => none
  | x :: xs => some (ofList (x :: xs))

theorem foldl_takeIn_some (xs : List α) (s : RunningState α) :
    xs.foldl takeIn (some s) = some (xs.foldl observe s) := by
  induction xs generalizing s with
  | nil => rfl
  | cons x xs ih => exact ih (s.observe x)

theorem foldl_takeIn_none (xs : List α) : xs.foldl takeIn none = ofGroup? xs := by
  cases xs with
  | nil => rfl
  | cons x xs => exact foldl_takeIn_some xs (empty.observe x)

theorem foldl_takeIn_ofGroup? (xs ys : List α) :
    ys.foldl takeIn (ofGroup? xs) = ofGroup? (xs ++ ys) := by
  rw [← foldl_takeIn_none, ← List.foldl_append, foldl_takeIn_none]

theorem count_foldl_observe (xs : List α) (s : RunningState α) :
    (xs.foldl observe s).count = s.count + xs.length := by
  induction xs generalizing s with
  | nil => rfl
  | cons x xs ih =>
      rw [List.foldl_cons, ih, count_observe, List.length_cons]
      omega

theorem count_ofList (xs : List α) : (ofList xs : RunningState α).count = xs.length := by
  have counted := count_foldl_observe xs (empty : RunningState α)
  rw [show (empty : RunningState α).count = 0 from rfl, Nat.zero_add] at counted
  exact counted

theorem summarize_eq_none_iff {s : RunningState α} : s.summarize = none ↔ s.count = 0 := by
  rw [← Option.not_isSome_iff_eq_none, summarize_isSome, isEmpty]
  simp

/-- The mean that a summary tells. -/
def mean (s : RunningState α) : α := s.sum / Scalar.ofNat s.count

/-- The variance that the standard deviation of a summary is the root of, unless it is cut
off. -/
def variance (s : RunningState α) : α := populationVariance s.sumSquares s.mean s.count

theorem summarize_eq_some {s : RunningState α} (seen : 0 < s.count) :
    s.summarize =
      some ⟨s.count, s.mean, Scalar.sqrt (Scalar.atLeastZero s.variance), s.min, s.max⟩ := by
  have seen : s.isEmpty = false := beq_false_of_ne (Nat.ne_of_gt seen)
  unfold summarize
  rw [seen, if_neg Bool.false_ne_true]
  rfl

theorem count_of_summarize {s : RunningState α} {t : Summary α} (h : s.summarize = some t) :
    t.count = s.count := by
  unfold summarize at h
  split at h
  · cases h
  · cases h
    rfl

/-- The state before any value has no summary either, so a missing group and an
empty one are summarized alike. -/
theorem bind_summarize_ofGroup? (xs : List α) :
    (ofGroup? xs).bind summarize = (ofList xs).summarize := by
  cases xs with
  | nil => exact (summarize_eq_none_iff.2 rfl).symm
  | cons x xs => rfl

end RunningState

/-! ## Taking values in -/

namespace Aggregate

variable {κ α : Type} [Ord κ] [Std.TransOrd κ] [Scalar α]

section Counters

variable {γ : Type} [Counter γ]

/-- A value changes the state of its own key, and no other. -/
theorem get?_observe [Std.LawfulEqOrd κ] [DecidableEq κ] (a : Aggregate κ α γ) (key k : κ)
    (x : α) :
    (a.observe key x).get? k =
      if key = k then RunningState.takeIn (a.get? k) x else a.get? k := by
  rw [observe, SortedMap.get?_alter]
  by_cases same : key = k
  · subst same
    rw [if_pos Std.ReflCmp.compare_self, if_pos rfl]
    rfl
  · rw [if_neg same, if_neg]
    intro equal
    exact same (Std.LawfulEqCmp.eq_of_compare equal).symm

/-- A list of values changes the state of a key as the values of that key do. -/
theorem get?_observeAll [Std.LawfulEqOrd κ] [DecidableEq κ] (a : Aggregate κ α γ)
    (values : List (κ × α)) (k : κ) :
    (a.observeAll values).get? k =
      (valuesOf k values).foldl RunningState.takeIn (a.get? k) := by
  induction values generalizing a with
  | nil => rfl
  | cons v values ih =>
      obtain ⟨key, x⟩ := v
      have step : (a.observeAll ((key, x) :: values)) = (a.observe key x).observeAll values := rfl
      rw [step, ih, get?_observe, valuesOf_cons]
      by_cases same : key = k
      · rw [if_pos same, if_pos same, List.foldl_cons]
      · rw [if_neg same, if_neg same]

theorem mergeState_eq_alter (a : Aggregate κ α γ) (key : κ) (other : RunningState α γ) :
    a.mergeState key other =
      a.alter key fun state? => state?.elim other fun state => state.merge other := by
  unfold mergeState
  congr 1
  funext state?
  cases state? <;> rfl

/-- Behind each key of a merged aggregate stand both states, as far as they are there. -/
theorem get?_merge [Std.LawfulEqOrd κ] (a b : Aggregate κ α γ) (k : κ) :
    (a.merge b).get? k = (a.get? k).merge RunningState.merge (b.get? k) := by
  unfold merge
  simp only [mergeState_eq_alter]
  rw [SortedMap.get?_foldl_alter
    fun other state? => state?.elim other fun state => RunningState.merge state other]
  cases b.get? k with
  | none => exact Option.merge_none_right.symm
  | some other => cases a.get? k <;> rfl

end Counters

/-- Behind each key of a new aggregate stands the fold of its values. -/
theorem get?_observeAll_empty [Std.LawfulEqOrd κ] [DecidableEq κ] (values : List (κ × α))
    (k : κ) :
    (observeAll .empty values : Aggregate κ α).get? k =
      RunningState.ofGroup? (valuesOf k values) := by
  rw [get?_observeAll, SortedMap.get?_empty, RunningState.foldl_takeIn_none]

theorem observationCount_observe (a : Aggregate κ α) (key : κ) (x : α) :
    (a.observe key x).observationCount = a.observationCount + 1 := by
  have change := SortedMap.sum_values_alter RunningState.count a key
    fun state? => (state?.getD .empty).observe x
  rw [RunningState.count_observe] at change
  have before : ((a.get? key).map RunningState.count).getD 0 =
      ((a.get? key).getD RunningState.empty).count := by
    cases a.get? key <;> rfl
  rw [before] at change
  have counted : ((a.observe key x).values.map RunningState.count).sum =
      (a.values.map RunningState.count).sum + 1 := by
    unfold observe
    omega
  exact counted

theorem observationCount_observeAll (a : Aggregate κ α) (values : List (κ × α)) :
    (a.observeAll values).observationCount = a.observationCount + values.length := by
  induction values generalizing a with
  | nil => rfl
  | cons v values ih =>
      have step : a.observeAll (v :: values) = (a.observe v.1 v.2).observeAll values := rfl
      rw [step, ih, observationCount_observe, List.length_cons]
      omega

/-! ## Merging -/

theorem observationCount_mergeState (a : Aggregate κ α) (key : κ) (other : RunningState α) :
    (a.mergeState key other).observationCount = a.observationCount + other.count := by
  have change := SortedMap.sum_values_alter RunningState.count a key fun state? =>
    state?.elim other fun state => state.merge other
  have counted : ((a.mergeState key other).values.map RunningState.count).sum =
      (a.values.map RunningState.count).sum + other.count := by
    rw [mergeState_eq_alter]
    cases found : a.get? key with
    | none =>
        rw [found, Option.map_none, Option.getD_none, Option.elim_none] at change
        exact change
    | some state =>
        rw [found, Option.map_some, Option.getD_some, Option.elim_some,
          RunningState.count_merge] at change
        omega
  exact counted

theorem observationCount_merge (a b : Aggregate κ α) :
    (a.merge b).observationCount = a.observationCount + b.observationCount := by
  have counted (entries : List (κ × RunningState α)) :
      observationCount (entries.foldl (fun a e => mergeState a e.1 e.2) a) =
        a.observationCount + ((entries.map (·.2)).map (·.count)).sum := by
    induction entries generalizing a with
    | nil => rfl
    | cons e entries ih =>
        rw [List.foldl_cons, ih, observationCount_mergeState, List.map_cons, List.map_cons,
          List.sum_cons, Nat.add_assoc]
  exact counted b.entries

/-! ## Summaries -/

omit [Std.TransOrd κ] in
/-- A state that is left out of the summaries has seen nothing. -/
theorem sum_counts_finalize (a : Aggregate κ α) :
    (a.finalize.values.map (·.count)).sum = a.observationCount := by
  unfold observationCount finalize SortedMap.filterMap SortedMap.values
  rw [Counter.sum_naturals]
  obtain ⟨entries, ascending⟩ := a
  induction entries with
  | nil => rfl
  | cons head rest ih =>
      obtain ⟨key, s⟩ := head
      simp only [List.map_cons, List.sum_cons] at ih ⊢
      have rest := ih (List.pairwise_cons.1 ascending).2
      -- without a summary the count is zero, so the sum does not miss the entry
      cases summary : s.summarize with
      | none =>
          rw [List.filterMap_cons_none (by rw [summary]; rfl), rest,
            RunningState.summarize_eq_none_iff.1 summary, Nat.zero_add]
      | some t =>
          rw [List.filterMap_cons_some (by rw [summary]; rfl), List.map_cons, List.map_cons,
            List.sum_cons, rest, RunningState.count_of_summarize summary]

/-- Every key of the aggregate has seen a value. -/
def Occupied (a : Aggregate κ α) : Prop := ∀ k s, a.get? k = some s → s.count ≠ 0

theorem occupied_observeAll [Std.LawfulEqOrd κ] [DecidableEq κ] (values : List (κ × α)) :
    Occupied (observeAll .empty values : Aggregate κ α) := by
  intro k s found
  rw [get?_observeAll_empty] at found
  cases group : valuesOf k values with
  | nil =>
      rw [group] at found
      cases found
  | cons x xs =>
      rw [group] at found
      cases found
      rw [RunningState.count_ofList, List.length_cons]
      omega

/-- No key that has seen a value is left out of the summaries. -/
theorem size_finalize [Std.LawfulEqOrd κ] {a : Aggregate κ α} (occupied : Occupied a) :
    a.finalize.size = a.size := by
  unfold finalize SortedMap.filterMap SortedMap.size
  rw [List.filterMap_length_eq_length]
  rintro ⟨k, s⟩ member
  have seen : s.count ≠ 0 := occupied k s (SortedMap.get?_eq_some_iff.2 member)
  rw [Option.isSome_map, RunningState.summarize_isSome, RunningState.isEmpty]
  simpa using seen

theorem get?_finalize_observeAll [Std.LawfulEqOrd κ] [DecidableEq κ] (values : List (κ × α))
    (k : κ) :
    (observeAll .empty values : Aggregate κ α).finalize.get? k =
      (RunningState.ofList (valuesOf k values)).summarize := by
  rw [finalize, SortedMap.get?_filterMap, get?_observeAll_empty,
    RunningState.bind_summarize_ofGroup?]

end Aggregate

/-! ## The table of a list of keyed values -/

/-- A table of summaries is the grouping of a list of keyed values. -/
structure Groups {κ α : Type} [Ord κ] [DecidableEq κ] [Scalar α] (values : List (κ × α))
    (table : List (κ × Summary α)) : Prop where
  /-- The keys ascend strictly, so none stands twice. -/
  ascending : table.Pairwise fun a b => compare a.1 b.1 = .lt
  /-- They are the keys that occur. -/
  mem_keys_iff : ∀ key, key ∈ table.map (·.1) ↔ key ∈ values.map (·.1)
  /-- With a key stands the summary of its values, taken in one after the other. -/
  summary : ∀ key s, (key, s) ∈ table →
    (RunningState.ofList (valuesOf key values)).summarize = some s
  /-- Every value is counted under one key. -/
  total : (table.map (·.2.count)).sum = values.length

/-- The summaries of a new aggregate group the values that it took in. -/
theorem Aggregate.groups_finalize {κ α : Type} [Ord κ] [Std.TransOrd κ] [Std.LawfulEqOrd κ]
    [DecidableEq κ] [Scalar α] (values : List (κ × α)) :
    Groups values (observeAll .empty values : Aggregate κ α).finalize.entries where
  ascending := SortedMap.ascending _
  mem_keys_iff key := by
    refine Iff.trans ?_ valuesOf_ne_nil_iff
    change key ∈ SortedMap.keys _ ↔ _
    rw [SortedMap.mem_keys_iff, get?_finalize_observeAll, ← Option.isSome_iff_exists,
      Option.isSome_iff_ne_none, ne_eq, RunningState.summarize_eq_none_iff,
      RunningState.count_ofList, List.length_eq_zero_iff]
  summary key s member := by
    rw [← get?_finalize_observeAll]
    exact SortedMap.get?_eq_some_iff.2 member
  total := by
    have counted := sum_counts_finalize (observeAll .empty values : Aggregate κ α)
    rw [observationCount_observeAll] at counted
    unfold SortedMap.values at counted
    rw [List.map_map] at counted
    exact counted.trans (Nat.zero_add _)

end Timings
