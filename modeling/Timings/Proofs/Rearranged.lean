import Timings.Proofs.Accepted
import Timings.Proofs.Ranked

/-!
Logs whose lines stand in another order.

Groups do not touch each other: `KeepsApart.same` says that two logs with the same values
behind every key have the same summaries and the same report, however the lines of
different keys are mixed. Within a group the order of the values decides how sums are
rounded, but nothing else: `KeepsApart.rearranged` says what is left of the summaries when
the lines of a log are put into any other order.
-/

namespace Timings

/-! ## Summaries of values in another order -/

/-- Two summaries have the same count and, as numbers, the same extremes. -/
structure Summary.Resembles (s t : Summary Float) : Prop where
  count : s.count = t.count
  min : (s.min == t.min) = true
  max : (s.max == t.max) = true

/-- Two tables have the same keys in the same order, with summaries that resemble each
other. -/
def Resemble {κ : Type} (table table' : List (κ × Summary Float)) : Prop :=
  List.Forall₂ (fun e e' => e.1 = e'.1 ∧ e.2.Resembles e'.2) table table'

/-- Values in another order have a summary when they have one in their own order, and the
two resemble each other. -/
theorem RunningState.rel_summarize {xs ys : List Float} (perm : xs.Perm ys) :
    Option.Rel Summary.Resembles (ofList xs).summarize (ofList ys).summarize := by
  have counts :
      (ofList xs : RunningState Float).count = (ofList ys : RunningState Float).count := by
    rw [count_ofList, count_ofList, perm.length_eq]
  unfold summarize isEmpty
  rw [← counts]
  split
  · exact .none
  · exact .some ⟨rfl, min_beq_of_perm perm, max_beq_of_perm perm⟩

namespace SortedMap

variable {κ ν μ : Type} [Ord κ] [Std.TransOrd κ] [Std.LawfulEqOrd κ]

/-- Maps whose values are related behind every key have related entries, one by one. -/
theorem forall₂_entries {R : ν → μ → Prop} {m : SortedMap κ ν} {n : SortedMap κ μ}
    (related : ∀ k, Option.Rel R (m.get? k) (n.get? k)) :
    List.Forall₂ (fun e e' => e.1 = e'.1 ∧ R e.2 e'.2) m.entries n.entries := by
  have keys : m.keys = n.keys := keys_eq_of_isSome fun k => by
    have behind := related k
    revert behind
    cases m.get? k <;> cases n.get? k <;> rintro ⟨⟩ <;> rfl
  have aligned : List.Forall₂ (fun (e : κ × ν) (e' : κ × μ) => e.1 = e'.1) m.entries n.entries := by
    rw [SortedMap.keys, SortedMap.keys, ← List.forall₂_eq_eq_eq, List.forall₂_map_left_iff,
      List.forall₂_map_right_iff] at keys
    exact keys
  rw [List.forall₂_iff_zip] at aligned ⊢
  refine ⟨aligned.1, ?_⟩
  rintro ⟨k, v⟩ ⟨k', w⟩ paired
  have same : k = k' := aligned.2 paired
  subst same
  obtain ⟨here, there⟩ := List.of_mem_zip paired
  have behind := related k
  rw [get?_eq_some_iff.2 here, get?_eq_some_iff.2 there] at behind
  cases behind with
  | some holds => exact ⟨rfl, holds⟩

end SortedMap

namespace Aggregate

variable {κ : Type} [Ord κ] [Std.TransOrd κ] [Std.LawfulEqOrd κ] [DecidableEq κ]

/-- An aggregate is decided by the values of each key. -/
theorem observeAll_congr {α : Type} [Scalar α] {values values' : List (κ × α)}
    (same : ∀ key, valuesOf key values = valuesOf key values') :
    (observeAll .empty values : Aggregate κ α) = observeAll .empty values' := by
  apply SortedMap.ext_get?
  intro k
  rw [get?_observeAll_empty, get?_observeAll_empty, same k]

theorem resemble_finalize {values values' : List (κ × Float)} (perm : values.Perm values') :
    Resemble (observeAll .empty values : Aggregate κ Float).finalize.entries
      (observeAll .empty values' : Aggregate κ Float).finalize.entries := by
  refine SortedMap.forall₂_entries fun k => ?_
  rw [get?_finalize_observeAll, get?_finalize_observeAll]
  exact RunningState.rel_summarize (valuesOf_perm k perm)

end Aggregate

namespace NestedAggregate

theorem ofEvents_congr {α : Type} [Scalar α] {values values' : List (EventKey × α)}
    (same : ∀ key, valuesOf key values = valuesOf key values') :
    ofEvents values = ofEvents values' := by
  refine eq_of_flatten_eq (populated_observeAll populated_empty _)
    (populated_observeAll populated_empty _) ?_
  rw [flatten_ofEvents, flatten_ofEvents, Aggregate.observeAll_congr same]

theorem resemble_finalize_ofEvents {values values' : List (EventKey × Float)}
    (perm : values.Perm values') :
    Resemble (finalize (ofEvents values)).flatten.entries
      (finalize (ofEvents values')).flatten.entries := by
  rw [flatten_finalize, flatten_finalize, flatten_ofEvents, flatten_ofEvents]
  exact Aggregate.resemble_finalize perm

end NestedAggregate

/-! ## Two logs -/

/-- The values of some observations under their keys. -/
def keyed {κ : Type} (observations : List (Observation κ)) : List (κ × Float) :=
  observations.map fun o => (o.key, o.value)

/-- The keys of an analysis keep apart. Its result has a table, and its report a row for
each entry of the table. -/
structure KeepsApart {κ ρ : Type} [DecidableEq κ] (parse : LineParser (Observation κ))
    (analyse : Source → Except Failure (Analysis ρ)) (table : ρ → List (κ × Summary Float))
    (row : κ → Summary Float → String) (report : ρ → String) : Prop where
  rows : ∀ result, report result = String.join ((table result).map fun e => row e.1 e.2)
  /-- Logs with the same values behind every key have the same result and report. -/
  same : ∀ (input input' : Bytes) observations observations',
    Parses parse 0 input.lines observations → Parses parse 0 input'.lines observations' →
    (∀ key, valuesOf key (keyed observations) = valuesOf key (keyed observations')) →
    ∃ a a', analyse (.ofBytes input) = .ok a ∧ analyse (.ofBytes input') = .ok a' ∧
      a.result = a'.result ∧ report a.result = report a'.result
  /-- A log with the same lines in another order, but for their ends, has an analysis as
  well, and tables that resemble each other. -/
  rearranged : ∀ (input input' : Bytes) observations, Parses parse 0 input.lines observations →
    (input'.lines.map Bytes.stripped).Perm (input.lines.map Bytes.stripped) →
    ∃ a a', analyse (.ofBytes input) = .ok a ∧ analyse (.ofBytes input') = .ok a' ∧
      Resemble (table a.result) (table a'.result)

/-- An analysis keeps its keys apart when its result is made of the values of each key, and
its table resembles that of the same values in any order. -/
theorem KeepsApart.of_result {κ ρ : Type} [DecidableEq κ] {parse : LineParser (Observation κ)}
    {analyse : Source → Except Failure (Analysis ρ)} {table : ρ → List (κ × Summary Float)}
    {row : κ → Summary Float → String} {report : ρ → String} (result : List (κ × Float) → ρ)
    (ignores : IgnoresEnds parse) (unnumbered : Unnumbered parse)
    (analysed : ∀ (input : Bytes) observations, Parses parse 0 input.lines observations →
      ∃ a, analyse (.ofBytes input) = .ok a ∧ a.result = result (keyed observations))
    (congr : ∀ values values', (∀ key, valuesOf key values = valuesOf key values') →
      result values = result values')
    (resemble : ∀ values values', values.Perm values' →
      Resemble (table (result values)) (table (result values')))
    (rows : ∀ result, report result = String.join ((table result).map fun e => row e.1 e.2)) :
    KeepsApart parse analyse table row report where
  rows := rows
  same input input' observations observations' parsed parsed' alike := by
    obtain ⟨a, analysis, made⟩ := analysed input observations parsed
    obtain ⟨a', analysis', made'⟩ := analysed input' observations' parsed'
    have equal : a.result = a'.result := by rw [made, made', congr _ _ alike]
    exact ⟨a, a', analysis, analysis', equal, congrArg report equal⟩
  rearranged input input' observations parsed perm := by
    obtain ⟨observations', parsed', permItems⟩ := parsed.exists_perm ignores unnumbered perm
    obtain ⟨a, analysis, made⟩ := analysed input observations parsed
    obtain ⟨a', analysis', made'⟩ := analysed input' observations' parsed'
    refine ⟨a, a', analysis, analysis', ?_⟩
    rw [made, made']
    exact resemble _ _ (permItems.symm.map _)

namespace Analysis

theorem keepsApart_byLabel (format : ColumnFormat) :
    KeepsApart (Line.labelled format) (byLabel format) SortedMap.entries
      (fun label => Report.labelLine label.display) Report.byLabel := by
  refine .of_result
    (fun values => (Aggregate.observeAll .empty values : Aggregate Label Float).finalize)
    (Line.ignoresEnds_labelled format) (Line.unnumbered_labelled format) ?_ ?_ ?_ fun _ => rfl
  · intro input observations parsed
    refine ⟨_, (isFold_byLabel format).of_parses parsed, ?_⟩
    rw [foldl_observe_label]
    rfl
  · exact fun _ _ same => congrArg Aggregate.finalize (Aggregate.observeAll_congr same)
  · exact fun _ _ perm => Aggregate.resemble_finalize perm

theorem keepsApart_byEvent :
    KeepsApart Line.event byEvent (fun result => result.flatten.entries)
      (fun key => Report.eventLine key.event key.items) Report.byEvent := by
  refine .of_result (fun values => NestedAggregate.finalize (NestedAggregate.ofEvents values))
    Line.ignoresEnds_event Line.unnumbered_event ?_ ?_ ?_ rows_byEvent
  · intro input observations parsed
    refine ⟨_, isFold_byEvent.of_parses parsed, ?_⟩
    rw [foldl_observe_event]
    rfl
  · exact fun _ _ same => congrArg NestedAggregate.finalize (NestedAggregate.ofEvents_congr same)
  · exact fun _ _ perm => NestedAggregate.resemble_finalize_ofEvents perm

/-- **Keys keep apart.** In both grouping analyses the summaries and the report are decided
by the values of each key in their order, and the keys, counts and extremes by the lines in
any order. -/
theorem keys_keep_apart :
    (∀ format, KeepsApart (Line.labelled format) (byLabel format) SortedMap.entries
      (fun label => Report.labelLine label.display) Report.byLabel) ∧
    KeepsApart Line.event byEvent (fun result => result.flatten.entries)
      (fun key => Report.eventLine key.event key.items) Report.byEvent :=
  ⟨keepsApart_byLabel, keepsApart_byEvent⟩

/-- Lines of different keys are mixed in another way, or all lines come in another order, with
other ends. -/
theorem mixed_lines_keep_apart :
    let log := Bytes.ofText "a x 0.1\nb x 5\na x 0.3\n"
    let mixed := Bytes.ofText "b x 5\na x 0.1\na x 0.3\n"
    let turned := Bytes.ofText "a x 0.3\r\nb x 5\na x 0.1"
    let event := Bytes.ofText "\x7b\"message\":\"s\",\"items\":1,\"time/item\":0.1\x7d\n"
    let other := Bytes.ofText "\x7b\"message\":\"s\",\"items\":2,\"time/item\":5\x7d\n"
    (∃ a a', byLabel .standard (.ofBytes log) = .ok a ∧
      byLabel .standard (.ofBytes mixed) = .ok a' ∧
      a.result = a'.result ∧ Report.byLabel a.result = Report.byLabel a'.result) ∧
    (∃ a a', byLabel .standard (.ofBytes log) = .ok a ∧
      byLabel .standard (.ofBytes turned) = .ok a' ∧
      Resemble a.result.entries a'.result.entries) ∧
    ∃ a a', byEvent (.ofBytes (event ++ other)) = .ok a ∧
      byEvent (.ofBytes (other ++ event)) = .ok a' ∧
      Resemble a.result.flatten.entries a'.result.flatten.entries := by
  intro log mixed turned event other
  have parsed : Parses (Line.labelled .standard) 0 log.lines
      [⟨.text "a", 0.1⟩, ⟨.text "b", 5⟩, ⟨.text "a", 0.3⟩] := by decide +kernel
  refine ⟨(keys_keep_apart.1 .standard).same log mixed _
      [⟨.text "b", 5⟩, ⟨.text "a", 0.1⟩, ⟨.text "a", 0.3⟩] parsed (by decide +kernel) ?_,
    (keys_keep_apart.1 .standard).rearranged log turned _ parsed (by decide +kernel),
    keys_keep_apart.2.rearranged (event ++ other) (other ++ event)
      [⟨⟨"s", 1⟩, 0.1⟩, ⟨⟨"s", 2⟩, 5⟩] (by decide +kernel) (by decide +kernel)⟩
  intro key
  by_cases same : Label.text "a" = key
  · rw [← same]
    decide +kernel
  · simp only [keyed, List.map_cons, List.map_nil, valuesOf_cons, if_neg same]

/-- Within a key the order of the values does show, in how their sum is rounded. -/
example : (RunningState.ofList [0.1, 0.2, 0.3]).sum ≠
    (RunningState.ofList [(0.3 : Float), 0.2, 0.1]).sum := by decide +kernel

end Analysis

end Timings
