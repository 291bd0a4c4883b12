import Timings.Proofs.History

/-!
# Counting with words

Whatever values are counted with, the other accumulators of a state do not depend on it. So an
aggregate with another counter is the one with natural numbers, each count put into that counter
(`History.aggregate_eq_recount`), and all of them together are the number of values observed
(`History.observationCount_eq_ofNat`). A word shows a count modulo the number of words. As long as
fewer values have been taken in than there are words, the summaries are the same
(`History.finalize_words_eq`). In general a key has no summary when the number of values
observed under it is a multiple of the number of words (`History.no_summary_in_words_iff`), as
it is after sixty-four merges of an aggregate with itself (`History.no_summary_of_doubled`).
-/

namespace Timings

/-! ## States -/

namespace RunningState

variable {α : Type} [Scalar α] (γ : Type) [Counter γ]

omit [Scalar α] in
/-- The state with its count in another counter. -/
def recount (s : RunningState α) : RunningState α γ where
  count := Counter.ofNat s.count
  sum := s.sum
  sumSquares := s.sumSquares
  min := s.min
  max := s.max

theorem recount_observe (s : RunningState α) (x : α) :
    (s.observe x).recount γ = (s.recount γ).observe x := rfl

theorem recount_merge (s t : RunningState α) :
    (s.merge t).recount γ = (s.recount γ).merge (t.recount γ) := by
  have added : (Counter.ofNat (s.count + t.count) : γ) =
      Counter.add (Counter.ofNat s.count) (Counter.ofNat t.count) :=
    Counter.ofNat_add s.count t.count
  unfold merge recount
  rw [← added]
  rfl

theorem takeIn_recount (state? : Option (RunningState α)) (x : α) :
    takeIn (state?.map (recount γ)) x = (takeIn state? x).map (recount γ) := by
  cases state? with
  | none => exact congrArg some (recount_observe γ empty x).symm
  | some s => exact congrArg some (recount_observe γ s x).symm

theorem foldl_takeIn_recount (xs : List α) (state? : Option (RunningState α)) :
    xs.foldl takeIn (state?.map (recount γ)) = (xs.foldl takeIn state?).map (recount γ) := by
  induction xs generalizing state? with
  | nil => rfl
  | cons x xs ih => rw [List.foldl_cons, takeIn_recount, ih, List.foldl_cons]

/-- The values that a state has counted, none where there is no state. -/
def counted (state? : Option (RunningState α)) : Nat := (state?.map count).getD 0

theorem counted_foldl_takeIn (xs : List α) (state? : Option (RunningState α)) :
    counted (xs.foldl takeIn state?) = counted state? + xs.length := by
  induction xs generalizing state? with
  | nil => rfl
  | cons x xs ih =>
      have step : counted (takeIn state? x) = counted state? + 1 := by cases state? <;> rfl
      rw [List.foldl_cons, ih, step, List.length_cons]
      omega

theorem counted_merge (left right : Option (RunningState α)) :
    counted (left.merge merge right) = counted left + counted right := by
  cases left with
  | none =>
      rw [Option.merge_none_left]
      exact (Nat.zero_add _).symm
  | some s => cases right <;> rfl

/-- A word is zero after each round through all words. -/
theorem summarize_recount_eq_none_iff {s : RunningState α} :
    (s.recount UInt64).summarize = none ↔ 2 ^ 64 ∣ s.count := by
  have shown : Counter.toNat (s.recount UInt64).count = s.count % 2 ^ 64 :=
    Counter.toNat_ofNat_word s.count
  rw [← Option.not_isSome_iff_eq_none, summarize_isSome, isEmpty, shown, Nat.dvd_iff_mod_eq_zero]
  simp

/-- In the first round a word shows the count itself. -/
theorem summarize_recount {s : RunningState α} (fewer : s.count < 2 ^ 64) :
    (s.recount UInt64).summarize = s.summarize := by
  have shown : Counter.toNat (s.recount UInt64).count = s.count :=
    (Counter.toNat_ofNat_word s.count).trans (Nat.mod_eq_of_lt fewer)
  unfold summarize isEmpty
  rw [shown]
  rfl

end RunningState

/-! ## Aggregates -/

namespace History

variable {κ α : Type} [Ord κ] [Std.TransOrd κ] [Std.LawfulEqOrd κ] [DecidableEq κ] [Scalar α]

/-- **Another counter.** Aggregates count with it what they count with natural numbers. -/
theorem aggregate_eq_recount (γ : Type) [Counter γ] (h : History κ α) :
    (h.aggregate : Aggregate κ α γ) = h.aggregate.map (RunningState.recount γ) := by
  apply SortedMap.ext_get?
  intro key
  rw [SortedMap.get?_map]
  induction h with
  | new => rfl
  | observe before k value ih =>
      rw [aggregate, Aggregate.get?_observe, ih, aggregate, Aggregate.get?_observe]
      split
      · exact RunningState.takeIn_recount γ _ _
      · rfl
  | extend before values ih =>
      rw [aggregate, Aggregate.get?_observeAll, ih, aggregate, Aggregate.get?_observeAll]
      exact RunningState.foldl_takeIn_recount γ _ _
  | merge before other ihBefore ihOther =>
      rw [aggregate, Aggregate.get?_merge, ihBefore, ihOther, aggregate, Aggregate.get?_merge]
      cases before.aggregate.get? key with
      | none => cases other.aggregate.get? key <;> rfl
      | some s =>
          cases other.aggregate.get? key with
          | none => rfl
          | some t => exact congrArg some (RunningState.recount_merge γ s t).symm

/-- All groups together have counted the values observed, so a word shows their number modulo
the number of words. -/
theorem observationCount_eq_ofNat (γ : Type) [Counter γ] (h : History κ α) :
    (h.aggregate : Aggregate κ α γ).observationCount = Counter.ofNat h.observed.length := by
  have counts : ((h.aggregate.map (RunningState.recount γ)).values.map (·.count)) =
      (h.aggregate.values.map (·.count)).map (Counter.ofNat : Nat → γ) := by
    unfold SortedMap.map SortedMap.values
    rw [List.map_map, List.map_map, List.map_map, List.map_map]
    rfl
  rw [← observationCount_aggregate, aggregate_eq_recount, Aggregate.observationCount, counts,
    ← Counter.ofNat_sum]
  rfl

/-- A state has counted the values observed under its key. -/
theorem counted_aggregate (h : History κ α) (key : κ) :
    RunningState.counted (h.aggregate.get? key) = (valuesOf key h.observed).length := by
  induction h with
  | new => rfl
  | observe before k value ih =>
      have single : before.aggregate.observe k value =
          (before.aggregate.observeAll [(k, value)] : Aggregate κ α) := rfl
      rw [aggregate, single, Aggregate.get?_observeAll, RunningState.counted_foldl_takeIn, ih,
        observed, valuesOf_append, List.length_append]
  | extend before values ih =>
      rw [aggregate, Aggregate.get?_observeAll, RunningState.counted_foldl_takeIn, ih, observed,
        valuesOf_append, List.length_append]
  | merge before other ihBefore ihOther =>
      rw [aggregate, Aggregate.get?_merge, RunningState.counted_merge, ihBefore, ihOther, observed,
        valuesOf_append, List.length_append]

theorem get?_finalize_words (h : History κ α) (key : κ) :
    (h.aggregate : Aggregate κ α UInt64).finalize.get? key =
      (h.aggregate.get? key).bind fun s => (s.recount UInt64).summarize := by
  rw [aggregate_eq_recount, Aggregate.finalize, SortedMap.get?_filterMap, SortedMap.get?_map,
    Option.bind_map]
  rfl

/-- **Missing summaries.** Words give no summary of a key when the values observed under it have
gone round through all words, and of course when there are none. -/
theorem no_summary_in_words_iff (h : History κ α) (key : κ) :
    (h.aggregate : Aggregate κ α UInt64).finalize.get? key = none ↔
      2 ^ 64 ∣ (valuesOf key h.observed).length := by
  rw [get?_finalize_words, ← counted_aggregate]
  cases h.aggregate.get? key with
  | none => exact iff_of_true rfl (Nat.dvd_zero _)
  | some s => exact RunningState.summarize_recount_eq_none_iff

/-- An aggregate that is merged with itself so many times. -/
def doubled (h : History κ α) : Nat → History κ α
  | 0 => h
  | n + 1 => (h.doubled n).merge (h.doubled n)

omit [Ord κ] [Std.TransOrd κ] [Std.LawfulEqOrd κ] [Scalar α] in
theorem length_valuesOf_doubled (h : History κ α) (key : κ) (n : Nat) :
    (valuesOf key (h.doubled n).observed).length =
      2 ^ n * (valuesOf key h.observed).length := by
  induction n with
  | zero => rw [doubled, Nat.pow_zero, Nat.one_mul]
  | succ n ih =>
      rw [doubled, observed, valuesOf_append, List.length_append, ih, Nat.pow_succ', Nat.mul_assoc,
        Nat.two_mul]

/-- Sixty-four merges with itself leave no aggregate a summary in words. -/
theorem no_summary_of_doubled (h : History κ α) {n : Nat} (often : 64 ≤ n) (key : κ) :
    ((h.doubled n).aggregate : Aggregate κ α UInt64).finalize.get? key = none := by
  rw [no_summary_in_words_iff, length_valuesOf_doubled]
  exact Nat.dvd_mul_right_of_dvd (Nat.pow_dvd_pow 2 often) _

/-- **Words and natural numbers.** With fewer values than words both give the same summaries. -/
theorem finalize_words_eq {h : History κ α} (fewer : h.observed.length < 2 ^ 64) :
    (h.aggregate : Aggregate κ α UInt64).finalize = (h.aggregate : Aggregate κ α).finalize := by
  apply SortedMap.ext_get?
  intro key
  rw [get?_finalize_words, Aggregate.finalize, SortedMap.get?_filterMap]
  have counted := counted_aggregate h key
  have part : (valuesOf key h.observed).length ≤ h.observed.length := by
    rw [valuesOf, List.length_map]
    exact List.length_filter_le _ _
  cases found : h.aggregate.get? key with
  | none => rfl
  | some s =>
      rw [found] at counted
      have count : s.count = (valuesOf key h.observed).length := counted
      exact RunningState.summarize_recount (by omega)

end History

end Timings
