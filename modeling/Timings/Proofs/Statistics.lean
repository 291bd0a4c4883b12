import Timings.Proofs.Analyses
import Timings.Proofs.FiniteLines
import Timings.Proofs.Unsigned

/-!
Statistics that are numbers.

A state that takes in finite values adds them to a number, and their squares to one without
a minus, both perhaps infinite (`RunningState.Summable`). So whatever overflows, the mean of
its summary is a number, and since a variance that is none counts as zero, its standard
deviation is one as well (`Summary.Sound`). All values of an analysis are finite, and
`Analysis.reports_show_numbers` says this of its summaries and of the rows of its report.
-/

namespace Timings

/-! ## Sums of finite values -/

namespace RunningState

/-- The sum of a state is a number, and that of the squares is one without a minus. -/
structure Summable (s : RunningState Float) : Prop where
  sum : s.sum.isNaN = false
  sumSquares : Double.Unsigned s.sumSquares

theorem summable_empty : (empty : RunningState Float).Summable where
  sum := Double.Unsigned.zero.isNaN
  sumSquares := Double.Unsigned.zero

/-- A finite value may make a sum overflow, but it cannot undo an infinite one. -/
theorem Summable.observe {s : RunningState Float} {x : Float} (known : s.Summable)
    (finite : x.isFinite = true) : (s.observe x).Summable where
  sum := Double.isNaN_add known.sum finite
  sumSquares := known.sumSquares.add (.square (Double.isNaN_of_isFinite finite))

theorem Summable.foldl_observe {s : RunningState Float} {xs : List Float} (known : s.Summable)
    (finite : AllFinite xs) : (xs.foldl RunningState.observe s).Summable := by
  induction xs generalizing s with
  | nil => exact known
  | cons x xs ih =>
      have head := finite x List.mem_cons_self
      exact ih (known.observe head) fun y inside => finite y (List.mem_cons_of_mem x inside)

theorem summable_ofList {xs : List Float} (finite : AllFinite xs) : (ofList xs).Summable :=
  summable_empty.foldl_observe finite

theorem represents_ofList {xs : List Float} (nonempty : xs ≠ []) (finite : AllFinite xs) :
    (ofList xs).Represents xs := by
  have nothing : Represents? none [] := rfl
  have known := nothing.foldl_takeIn (fun _ impossible => nomatch impossible) finite
  rw [foldl_takeIn_none, List.nil_append] at known
  cases xs with
  | nil => exact absurd rfl nonempty
  | cons x xs => exact known

end RunningState

/-! ## Summaries -/

/-- The statistics are numbers: finite extremes in their order, a mean, and a standard
deviation that is not negative. -/
structure Summary.Sound (t : Summary Float) : Prop where
  min : t.min.isFinite = true
  max : t.max.isFinite = true
  min_le_max : t.min ≤ t.max
  mean : t.mean.isNaN = false
  stddev : t.stddev.isNaN = false
  stddev_nonneg : 0 ≤ t.stddev

/-- What is cut off below zero has no minus, though it may have been no number. -/
theorem Double.unsigned_atLeastZero (x : Float) : Unsigned (Scalar.atLeastZero x) := by
  unfold Scalar.atLeastZero
  split
  · exact .of_pos ‹_›
  · exact .zero

/-- The summary of finite values is sound, as long as their number fits a word. -/
theorem RunningState.exists_sound_summary {xs : List Float} (nonempty : xs ≠ [])
    (finite : AllFinite xs) (word : xs.length < 2 ^ 64) :
    ∃ t, (ofList xs).summarize = some t ∧ t.Sound := by
  have known := represents_ofList nonempty finite
  have sums := summable_ofList finite
  have root := (Double.unsigned_atLeastZero (ofList xs).variance).sqrt
  refine ⟨_, summarize_eq_some known.count_pos, finite _ known.least.mem,
    finite _ known.greatest.mem, known.least.bound _ known.greatest.mem, ?_, root.isNaN,
    root.zero_le⟩
  exact Double.isNaN_div_count sums.sum known.count_pos (known.count ▸ word)

/-- So all summaries of a table of finite values are sound. -/
theorem Groups.sound {κ : Type} [Ord κ] [DecidableEq κ] {values : List (κ × Float)}
    {table : List (κ × Summary Float)} (groups : Groups values table)
    (finite : ∀ v ∈ values, v.2.isFinite = true) (word : values.length < 2 ^ 64) :
    ∀ e ∈ table, e.2.Sound := by
  rintro ⟨key, t⟩ inside
  have nonempty : valuesOf key values ≠ [] := by
    rw [valuesOf_ne_nil_iff, ← groups.mem_keys_iff]
    exact List.mem_map_of_mem inside
  have all : AllFinite (valuesOf key values) := by
    intro x member
    obtain ⟨v, kept, rfl⟩ := List.mem_map.1 member
    exact finite v (List.mem_of_mem_filter kept)
  have fewer : (valuesOf key values).length < 2 ^ 64 := by
    rw [valuesOf, List.length_map]
    exact Nat.lt_of_le_of_lt (List.length_filter_le _ _) word
  obtain ⟨t', summary, sound⟩ := RunningState.exists_sound_summary nonempty all fewer
  rw [groups.summary key t inside] at summary
  cases summary
  exact sound

/-! ## Reports -/

namespace Report

/-- Only what is no number is written as such. -/
theorem number_ne_nan {x : Float} (known : x.isNaN = false) : number x ≠ "NaN" := by
  have within := Double.ofFloat_le_infinity known
  intro written
  have chars : numberStyle.writeChars x = ['N', 'a', 'N'] :=
    String.ofList_injective written
  unfold Style.writeChars at chars
  dsimp only at chars
  rw [if_neg (Nat.not_lt.2 within)] at chars
  -- the first character is a minus, that of infinity or a digit
  cases sign : Pattern.isNegative x with
  | true =>
      rw [sign, if_pos rfl] at chars
      cases chars
  | false =>
      rw [sign, if_neg Bool.false_ne_true, List.nil_append] at chars
      split at chars
      · cases chars
      · have digit := (numberStyle.writes_layOut
          (Decimal.shortest numberStyle.tie (Pattern.ofFloat x))).digit
        rw [chars] at digit
        exact absurd (digit _ rfl) (by decide)

/-- A report has a row for each of some summaries, behind the columns of its keys. The
summaries are sound, and none of their columns is that of a NaN. -/
structure Shows (report : String) (rows : List (List String × Summary Float)) : Prop where
  text : report = String.join (rows.map fun r => line (r.1 ++ summaryColumns r.2))
  sound : ∀ r ∈ rows, r.2.Sound
  columns : ∀ r ∈ rows, ∀ column ∈ summaryColumns r.2, column ≠ "NaN"

theorem Shows.of_rows {report : String} {rows : List (List String × Summary Float)}
    (text : report = String.join (rows.map fun r => line (r.1 ++ summaryColumns r.2)))
    (sound : ∀ r ∈ rows, r.2.Sound) : Shows report rows where
  text := text
  sound := sound
  columns r inside column shown := by
    have known := sound r inside
    simp only [summaryColumns, List.mem_cons, List.not_mem_nil, or_false] at shown
    rcases shown with rfl | rfl | rfl | rfl
    · exact number_ne_nan known.mean
    · exact number_ne_nan known.stddev
    · exact number_ne_nan (Double.isNaN_of_isFinite known.min)
    · exact number_ne_nan (Double.isNaN_of_isFinite known.max)

end Report

namespace Analysis

variable {source : Source}

/-- The keyed values of observations are finite if each of them is. -/
theorem forall_isFinite_map {κ : Type} {parse : LineParser (Observation κ)}
    {items : List (Observation κ)}
    (finite : ∀ {text number o}, parse text number = .ok o → o.value.isFinite = true)
    (accepted : ∀ o ∈ items, ∃ text number, parse text number = .ok o) :
    ∀ v ∈ items.map (fun o => (o.key, o.value)), v.2.isFinite = true := by
  intro v inside
  obtain ⟨o, member, rfl⟩ := List.mem_map.1 inside
  obtain ⟨text, number, parsed⟩ := accepted o member
  exact finite parsed

theorem shows_byLabel {format : ColumnFormat} {a : Analysis LabelSummaries}
    (analysed : byLabel format source = .ok a) (word : a.lines < 2 ^ 64) :
    Report.Shows (Report.byLabel a.result)
      (a.result.entries.map fun e => ([e.1.display], e.2)) := by
  obtain ⟨items, rfl, accepted⟩ := (isFold_byLabel format).exists_items analysed
  have groups := Aggregate.groups_finalize (items.map fun o => (o.key, o.value))
  rw [← foldl_observe_label] at groups
  have sound := groups.sound (forall_isFinite_map Line.isFinite_of_labelled accepted)
    (by rw [List.length_map]; exact word)
  apply Report.Shows.of_rows
  · rw [List.map_map]
    rfl
  · intro r inside
    obtain ⟨e, member, rfl⟩ := List.mem_map.1 inside
    exact sound e member

theorem shows_byEvent {a : Analysis EventSummaries} (analysed : byEvent source = .ok a)
    (word : a.lines < 2 ^ 64) :
    Report.Shows (Report.byEvent a.result)
      (a.result.flatten.entries.map fun e => ([e.1.event, toString e.1.items], e.2)) := by
  obtain ⟨items, rfl, accepted⟩ := isFold_byEvent.exists_items analysed
  have groups :=
    NestedAggregate.groups_finalize_ofEvents (items.map fun o => (o.key, o.value))
  rw [← foldl_observe_event] at groups
  have sound := groups.sound (forall_isFinite_map Line.isFinite_of_event accepted)
    (by rw [List.length_map]; exact word)
  apply Report.Shows.of_rows
  · rw [rows_byEvent, List.map_map]
    rfl
  · intro r inside
    obtain ⟨e, member, rfl⟩ := List.mem_map.1 inside
    exact sound e member

/-- **No NaN.** Over finite values the sum of a state is a number and that of the squares is
one that is not negative, even if they overflow. So every summary of an analysis is sound, as
long as the number of lines fits a word, and no row of its report shows a NaN. -/
theorem reports_show_numbers :
    (∀ xs, AllFinite xs →
      (RunningState.ofList xs).sum.isNaN = false ∧
        (RunningState.ofList xs).sumSquares.isNaN = false ∧
        0 ≤ (RunningState.ofList xs).sumSquares) ∧
    (∀ format source a, byLabel format source = .ok a → a.lines < 2 ^ 64 →
      Report.Shows (Report.byLabel a.result)
        (a.result.entries.map fun e => ([e.1.display], e.2))) ∧
    ∀ source a, byEvent source = .ok a → a.lines < 2 ^ 64 →
      Report.Shows (Report.byEvent a.result)
        (a.result.flatten.entries.map fun e => ([e.1.event, toString e.1.items], e.2)) := by
  refine ⟨?_, fun _ _ _ => shows_byLabel, fun _ _ => shows_byEvent⟩
  intro xs finite
  have known := RunningState.summable_ofList finite
  exact ⟨known.sum, known.sumSquares.isNaN, known.sumSquares.zero_le⟩

/-- Sums of values near both ends of the doubles, which overflow, and of their squares. -/
theorem overflowing_reports_show_numbers :
    (AllFinite [1e308, 1e308, -1e308] ∧
      (RunningState.ofList [1e308, 1e308, -1e308] : RunningState Float).sum.isInf = true ∧
      (RunningState.ofList [1e308, 1e308, -1e308] : RunningState Float).sum.isNaN = false) ∧
    (∃ a, byLabel .standard (.ofBytes (Bytes.ofText "a x 1e308\na x 1e308\na x -1e308\n")) = .ok a ∧
      a.lines < 2 ^ 64 ∧
      Report.Shows (Report.byLabel a.result)
        (a.result.entries.map fun e => ([e.1.display], e.2))) ∧
    ∃ a, byEvent (.ofBytes (Bytes.ofText
        ("\x7b\"message\":\"s\",\"items\":1,\"time/item\":-1e308\x7d\n" ++
          "\x7b\"message\":\"s\",\"items\":1,\"time/item\":-1.5e308\x7d"))) = .ok a ∧
      a.lines < 2 ^ 64 ∧
      Report.Shows (Report.byEvent a.result)
        (a.result.flatten.entries.map fun e => ([e.1.event, toString e.1.items], e.2)) := by
  obtain ⟨sums, labels, events⟩ := reports_show_numbers
  have finite : AllFinite [1e308, 1e308, -1e308] := by decide +kernel
  refine ⟨⟨finite, by decide +kernel, (sums _ finite).1⟩, ?_, ?_⟩
  · obtain ⟨observations, parsed⟩ : ∃ observations, Parses (Line.labelled .standard) 0
        (Bytes.lines (Bytes.ofText "a x 1e308\na x 1e308\na x -1e308\n")) observations := by
      decide +kernel
    obtain ⟨a, analysed, tabulated⟩ := tabulated_byLabel parsed
    have word : a.lines < 2 ^ 64 := by
      rw [tabulated.lines_eq]
      decide +kernel
    exact ⟨a, analysed, word, labels _ _ a analysed word⟩
  · obtain ⟨observations, parsed⟩ : ∃ observations, Parses Line.event 0
        (Bytes.lines (Bytes.ofText
          ("\x7b\"message\":\"s\",\"items\":1,\"time/item\":-1e308\x7d\n" ++
            "\x7b\"message\":\"s\",\"items\":1,\"time/item\":-1.5e308\x7d"))) observations := by
      decide +kernel
    obtain ⟨a, analysed, tabulated, -⟩ := tabulated_byEvent parsed
    have word : a.lines < 2 ^ 64 := by
      rw [tabulated.lines_eq]
      decide +kernel
    exact ⟨a, analysed, word, events _ a analysed word⟩

end Analysis

end Timings
