import Timings.Proofs.Nested
import Timings.Proofs.Outcomes
import Timings.Proofs.Stream
import Timings.Report.Table

/-!
Analyses of whole logs.

Each analysis folds the stream of its parser, so what a log is worth is decided
line by line. `FailFast` says for which logs there is an analysis and which
failure the others have. `Tabulated` says what the groups of an analysis are and
that its report has them as rows.
-/

namespace Timings

namespace Source

theorem lines_ofBytes (input : Bytes) : (ofBytes input).lines = input.lines := by
  have whole : (ofBytes input).content = input := List.append_nil input
  rw [lines_of_fault?_none rfl, whole]

end Source

/-! ## Failing at the first line -/

/-- An analysis accepts the logs of which a parser accepts every line. Of any other
log it gives the failure of the first line that is not accepted. -/
structure FailFast {α ρ : Type} (parse : LineParser α)
    (analyse : Source → Except Failure (Analysis ρ)) : Prop where
  /-- There is an analysis when every line encodes a text that is accepted. -/
  ok_iff : ∀ input : Bytes, (∃ a, analyse (.ofBytes input) = .ok a) ↔
    ∀ i line, input.lines[i]? = some line → ∃ item, LineResult parse line (i + 1) (.ok item)
  /-- There is a failure when some line fails, and it is that of the first such line. -/
  error_iff : ∀ (input : Bytes) failure, analyse (.ofBytes input) = .error failure ↔
    ∃ number, FirstFailure parse input.lines number failure
  /-- What stands behind the end of that line has no part in it. -/
  unread : ∀ (through rest rest' : Bytes) number failure, through.getLast? = some Bytes.newline →
    number ≤ through.lines.length → FirstFailure parse (through ++ rest).lines number failure →
    analyse (.ofBytes (through ++ rest')) = .error failure

/-- An analysis is a fold of a stream, finished when the stream has ended. -/
def IsFold {α σ ρ : Type} (parse : LineParser α) (step : σ → α → σ) (value : σ)
    (finish : σ → Nat → Analysis ρ) (analyse : Source → Except Failure (Analysis ρ)) : Prop :=
  ∀ source, analyse source =
    (Stream.fold parse step value (Stream.start source)).map fun p => finish p.1 p.2

namespace IsFold

variable {α σ ρ : Type} {parse : LineParser α} {step : σ → α → σ} {value : σ}
  {finish : σ → Nat → Analysis ρ} {analyse : Source → Except Failure (Analysis ρ)}

theorem of_parses (folds : IsFold parse step value finish analyse) {input : Bytes}
    {items : List α} (parsed : Parses parse 0 input.lines items) :
    analyse (.ofBytes input) = .ok (finish (items.foldl step value) input.lines.length) := by
  have lines := Source.lines_ofBytes input
  rw [← lines] at parsed
  rw [folds, Stream.fold_of_parses rfl parsed, lines]
  rfl

theorem of_firstFailure (folds : IsFold parse step value finish analyse) {input : Bytes}
    {number : Nat} {failure : Failure} (first : FirstFailure parse input.lines number failure) :
    analyse (.ofBytes input) = .error failure := by
  rw [← Source.lines_ofBytes input] at first
  rw [folds, Stream.fold_of_firstFailure first]
  rfl

theorem exists_parses (folds : IsFold parse step value finish analyse) {input : Bytes}
    {a : Analysis ρ} (analysed : analyse (.ofBytes input) = .ok a) :
    ∃ items, Parses parse 0 input.lines items := by
  rcases parses_or_firstFailure parse input.lines with all | ⟨number, failure, first⟩
  · exact all
  · rw [folds.of_firstFailure first] at analysed
    cases analysed

/-- What is analysed are items of the parser, one for each line, however the lines arrive. -/
theorem exists_items (folds : IsFold parse step value finish analyse) {source : Source}
    {a : Analysis ρ} (analysed : analyse source = .ok a) :
    ∃ items : List α, a = finish (items.foldl step value) items.length ∧
      ∀ item ∈ items, ∃ text number, parse text number = .ok item := by
  rw [folds] at analysed
  obtain ⟨⟨last, lines⟩, folded, rfl⟩ := map_eq_ok_iff.1 analysed
  obtain ⟨items, rfl, counted, accepted⟩ := Stream.exists_items_of_fold folded
  have counted : lines = items.length := counted.trans (Nat.zero_add _)
  exact ⟨items, by rw [counted], accepted⟩

theorem failFast (folds : IsFold parse step value finish analyse) : FailFast parse analyse where
  ok_iff input := by
    have accepted := exists_parses_iff parse 0 input.lines
    simp only [Nat.zero_add] at accepted
    rw [← accepted]
    constructor
    · rintro ⟨a, analysed⟩
      exact folds.exists_parses analysed
    · rintro ⟨items, parsed⟩
      exact ⟨_, folds.of_parses parsed⟩
  error_iff input failure := by
    constructor
    · intro failed
      rcases parses_or_firstFailure parse input.lines with ⟨items, parsed⟩ | ⟨number, f, first⟩
      · rw [folds.of_parses parsed] at failed
        cases failed
      · rw [folds.of_firstFailure first] at failed
        cases failed
        exact ⟨number, first⟩
    · rintro ⟨number, first⟩
      exact folds.of_firstFailure first
  unread through rest rest' number failure terminated within first := by
    rw [Bytes.lines_append terminated] at first
    apply folds.of_firstFailure
    rw [Bytes.lines_append terminated]
    exact first.of_append within rest'.lines

end IsFold

namespace Analysis

theorem isFold_byEvent : IsFold Line.event
    (fun (a : NestedAggregate String Nat Float) o =>
      NestedAggregate.observe a o.key.event o.key.items o.value) .empty
    (fun aggregate lines =>
      ⟨NestedAggregate.finalize aggregate, lines, NestedAggregate.pairCount aggregate⟩)
    byEvent := by
  intro source
  unfold byEvent
  generalize Stream.fold Line.event _ _ (Stream.start source) = folded
  cases folded <;> rfl

theorem isFold_byLabel (format : ColumnFormat) : IsFold (Line.labelled format)
    (fun (a : Aggregate Label Float) o => Aggregate.observe a o.key o.value) .empty
    (fun aggregate lines => ⟨Aggregate.finalize aggregate, lines, aggregate.size⟩)
    (byLabel format) := by
  intro source
  unfold byLabel
  generalize Stream.fold (Line.labelled format) _ _ (Stream.start source) = folded
  cases folded <;> rfl

theorem isFold_latencies : IsFold Line.latency
    (fun (rows : Array Latency) row => rows.push row) #[]
    (fun rows lines => ⟨rows.toList, lines, 0⟩) latencies := by
  intro source
  unfold latencies
  generalize Stream.fold Line.latency _ _ (Stream.start source) = folded
  cases folded <;> rfl

theorem latencies_of_parses {input : Bytes} {rows : List Latency}
    (parsed : Parses Line.latency 0 input.lines rows) :
    latencies (.ofBytes input) = .ok ⟨rows, rows.length, 0⟩ := by
  rw [isFold_latencies.of_parses parsed, parsed.length_eq, List.foldl_push_eq_append']
  simp

/-- **Fail-fast.** Every analysis is decided by its first bad line, and the list of
latencies has a row for every line. -/
theorem analyses_fail_fast :
    FailFast Line.event byEvent ∧ (∀ format, FailFast (Line.labelled format) (byLabel format)) ∧
      FailFast Line.latency latencies ∧
      ∀ (input : Bytes) a, latencies (.ofBytes input) = .ok a ↔
        Parses Line.latency 0 input.lines a.result ∧ a.lines = a.result.length ∧ a.groups = 0 := by
  refine ⟨isFold_byEvent.failFast, fun format => (isFold_byLabel format).failFast,
    isFold_latencies.failFast, ?_⟩
  intro input a
  constructor
  · intro analysed
    obtain ⟨rows, parsed⟩ := isFold_latencies.exists_parses analysed
    rw [latencies_of_parses parsed] at analysed
    cases analysed
    exact ⟨parsed, rfl, rfl⟩
  · rintro ⟨parsed, lines, groups⟩
    rw [latencies_of_parses parsed, ← lines, ← groups]

end Analysis

/-! ## Grouping all lines -/

/-- The table and the report of an analysis are those of the keyed values of a log. -/
structure Tabulated {κ ρ : Type} [Ord κ] [DecidableEq κ] (input : Bytes)
    (values : List (κ × Float)) (table : List (κ × Summary Float)) (a : Analysis ρ)
    (row : κ → Summary Float → String) (report : String) : Prop extends Groups values table where
  /-- All lines are counted, -/
  lines_eq : a.lines = input.lines.length
  /-- each under one key. -/
  counts : (table.map (·.2.count)).sum = a.lines
  groups_eq : a.groups = table.length
  /-- Every group is one row of the report, in the order of the table. -/
  rows : report = String.join (table.map fun e => row e.1 e.2)

namespace Analysis

theorem foldl_observe_label (observations : List (Observation Label)) :
    observations.foldl (fun (a : Aggregate Label Float) o => Aggregate.observe a o.key o.value)
        .empty =
      Aggregate.observeAll .empty (observations.map fun o => (o.key, o.value)) := by
  rw [Aggregate.observeAll, List.foldl_map]

theorem foldl_observe_event (observations : List (Observation EventKey)) :
    observations.foldl
        (fun (a : NestedAggregate String Nat Float) o =>
          NestedAggregate.observe a o.key.event o.key.items o.value) .empty =
      NestedAggregate.ofEvents (observations.map fun o => (o.key, o.value)) := by
  rw [NestedAggregate.ofEvents, NestedAggregate.observeAll, List.foldl_map, List.foldl_map]

theorem tabulated_byLabel {format : ColumnFormat} {input : Bytes}
    {observations : List (Observation Label)}
    (parsed : Parses (Line.labelled format) 0 input.lines observations) :
    ∃ a, byLabel format (.ofBytes input) = .ok a ∧
      Tabulated input (observations.map fun o => (o.key, o.value)) a.result.entries a
        (fun label => Report.labelLine label.display) (Report.byLabel a.result) := by
  refine ⟨_, (isFold_byLabel format).of_parses parsed, ?_⟩
  rw [foldl_observe_label]
  have groups := Aggregate.groups_finalize (observations.map fun o => (o.key, o.value))
  have occupied := Aggregate.occupied_observeAll (observations.map fun o => (o.key, o.value))
  refine { groups with lines_eq := rfl, counts := ?_, groups_eq := ?_, rows := rfl }
  · rw [groups.total, List.length_map, parsed.length_eq]
  · exact (Aggregate.size_finalize occupied).symm

theorem rows_byEvent (summaries : EventSummaries) :
    Report.byEvent summaries =
      String.join (summaries.flatten.entries.map fun e =>
        Report.eventLine e.1.event e.1.items e.2) := by
  unfold Report.byEvent SortedMap.flatten
  rw [List.map_flatMap]
  simp only [List.map_map]
  rfl

theorem tabulated_byEvent {input : Bytes} {observations : List (Observation EventKey)}
    (parsed : Parses Line.event 0 input.lines observations) :
    ∃ a, byEvent (.ofBytes input) = .ok a ∧
      Tabulated input (observations.map fun o => (o.key, o.value)) a.result.flatten.entries a
        (fun key => Report.eventLine key.event key.items) (Report.byEvent a.result) ∧
      ∀ event summaries, a.result.get? event = some summaries → summaries.isEmpty = false := by
  refine ⟨_, isFold_byEvent.of_parses parsed, ?_⟩
  rw [foldl_observe_event]
  have groups :=
    NestedAggregate.groups_finalize_ofEvents (observations.map fun o => (o.key, o.value))
  refine ⟨{ groups with lines_eq := rfl, counts := ?_, groups_eq := ?_, rows := ?_ }, ?_⟩
  · rw [groups.total, List.length_map, parsed.length_eq]
  · exact (NestedAggregate.size_finalize_ofEvents _).symm
  · exact rows_byEvent _
  · intro event summaries found
    exact NestedAggregate.isEmpty_of_get?_finalize_ofEvents _ found

/-- **Grouping.** A log whose lines are all accepted has an analysis: the table of its
keyed values, with a row of the report for each key. -/
theorem analyses_group_by_key (input : Bytes) :
    (∀ format observations, Parses (Line.labelled format) 0 input.lines observations →
      ∃ a, byLabel format (.ofBytes input) = .ok a ∧
        Tabulated input (observations.map fun o => (o.key, o.value)) a.result.entries a
          (fun label => Report.labelLine label.display) (Report.byLabel a.result)) ∧
    ∀ observations, Parses Line.event 0 input.lines observations →
      ∃ a, byEvent (.ofBytes input) = .ok a ∧
        Tabulated input (observations.map fun o => (o.key, o.value)) a.result.flatten.entries a
          (fun key => Report.eventLine key.event key.items) (Report.byEvent a.result) ∧
        (a.result.flatten.entries.Pairwise fun x y =>
          x.1.event < y.1.event ∨ x.1.event = y.1.event ∧ x.1.items < y.1.items) ∧
        ∀ event summaries, a.result.get? event = some summaries → summaries.isEmpty = false := by
  constructor
  · intro format observations parsed
    exact tabulated_byLabel parsed
  · intro observations parsed
    obtain ⟨a, analysed, tabulated, populated⟩ := tabulated_byEvent parsed
    refine ⟨a, analysed, tabulated, ?_, populated⟩
    exact tabulated.ascending.imp EventKey.compare_eq_lt_iff_lt.1

theorem small_logs_group_by_key :
    (∃ (observations : List (Observation Label)) (a : Analysis LabelSummaries),
      byLabel .standard (.ofBytes (Bytes.ofText "b x 2\na x 1\nb x 4\n")) = .ok a ∧
        a.lines = 3 ∧
        Groups (observations.map fun o => (o.key, o.value)) a.result.entries) ∧
    ∃ (observations : List (Observation EventKey)) (a : Analysis EventSummaries),
      byEvent (.ofBytes (Bytes.ofText
        ("\x7b\"message\":\"s\",\"items\":10,\"time/item\":2.0\x7d\n" ++
          "\x7b\"message\":\"s\",\"items\":1,\"time/item\":0.5\x7d"))) = .ok a ∧
        a.lines = 2 ∧
        Groups (observations.map fun o => (o.key, o.value)) a.result.flatten.entries := by
  constructor
  · obtain ⟨observations, parsed⟩ : ∃ observations, Parses (Line.labelled .standard) 0
        (Bytes.lines (Bytes.ofText "b x 2\na x 1\nb x 4\n")) observations := by
      decide +kernel
    obtain ⟨a, analysed, tabulated⟩ := (analyses_group_by_key _).1 .standard observations parsed
    exact ⟨observations, a, analysed, tabulated.lines_eq, tabulated.toGroups⟩
  · obtain ⟨observations, parsed⟩ : ∃ observations, Parses Line.event 0
        (Bytes.lines (Bytes.ofText
          ("\x7b\"message\":\"s\",\"items\":10,\"time/item\":2.0\x7d\n" ++
            "\x7b\"message\":\"s\",\"items\":1,\"time/item\":0.5\x7d"))) observations := by
      decide +kernel
    obtain ⟨a, analysed, tabulated, -, -⟩ := (analyses_group_by_key _).2 observations parsed
    exact ⟨observations, a, analysed, tabulated.lines_eq, tabulated.toGroups⟩

end Analysis

end Timings
