import Timings.Proofs.Labels
import Timings.Proofs.Notation
import Timings.Proofs.Rearranged
import Timings.Proofs.Tables

/-!
The report of labels, read back as a log.

A row of the report is a line of a plain log with tabs between its columns: its label is
read as the key of the row, and each of its numbers as itself. So a report that is read in
one of its columns has one value for each key (`Analysis.report_reads_back`).
-/

namespace Timings

/-! ## Numbers in columns -/

namespace Line

theorem isBlank_of_mem_write {style : Style} {x : Float} {c : Char}
    (occurs : c ∈ (style.write x).toList) : Text.isBlank c = false := by
  unfold Style.write at occurs
  rw [String.toList_ofList] at occurs
  exact style.isBlank_of_mem_writeChars x c occurs

theorem isLineEnd_of_solid {c : Char} (solid : Text.isBlank c = false) : isLineEnd c = false := by
  rw [← Bool.not_eq_true]
  intro ends
  rcases Bool.or_eq_true_iff.1 ends with return' | feed
  · rw [eq_of_beq return'] at solid
    cases solid
  · rw [eq_of_beq feed] at solid
    cases solid

theorem isLineEnd_of_mem_write {style : Style} {x : Float} {c : Char}
    (occurs : c ∈ (style.write x).toList) : isLineEnd c = false :=
  isLineEnd_of_solid (isBlank_of_mem_write occurs)

theorem value?_write (style : Style) {x : Float} (finite : x.isFinite = true) :
    value? (style.write x).toList = some x := by
  have solid : Text.trim Text.isBlank (style.write x).toList = (style.write x).toList :=
    Text.trim_eq_self fun _ occurs => isBlank_of_mem_write occurs
  rw [value?, solid, Style.write, String.toList_ofList, style.parse?_writeChars finite]

end Line

/-! ## Groups of one value -/

/-- The summary of one finite value. -/
theorem RunningState.summarize_singleton {x : Float} (finite : x.isFinite = true) :
    ∃ t, (ofList [x]).summarize = some t ∧ t.count = 1 ∧ t.min = x ∧ t.max = x := by
  refine ⟨_, rfl, rfl, ?_, ?_⟩
  · exact Double.least_infinity finite
  · exact Double.greatest_negInfinity finite

/-- With one value for each key of a map, a key has the value behind it in the map. -/
theorem SortedMap.valuesOf_entries {κ ν α : Type} [Ord κ] [Std.TransOrd κ] [Std.LawfulEqOrd κ]
    [DecidableEq κ] (m : SortedMap κ ν) (value : ν → α) (key : κ) :
    valuesOf key (m.entries.map fun e => (e.1, value e.2)) = ((m.get? key).map value).toList := by
  obtain ⟨entries, ascending⟩ := m
  simp only [get?]
  induction entries with
  | nil => rfl
  | cons head rest ih =>
      obtain ⟨k, v⟩ := head
      obtain ⟨above, tail⟩ := List.pairwise_cons.1 ascending
      rw [List.map_cons, valuesOf_cons, ih tail, find?_cons]
      by_cases same : k = key
      · subst same
        have self : compare k k = .eq := Std.ReflCmp.compare_self
        rw [if_pos rfl, if_pos self, find?_eq_none_of_above above]
        rfl
      · have differs : compare key k ≠ .eq := fun equal =>
          same (Std.LawfulEqCmp.eq_of_compare equal).symm
        rw [if_neg same, if_neg differs]

namespace Aggregate

variable {κ ν α : Type} [Ord κ] [Std.TransOrd κ] [Std.LawfulEqOrd κ] [DecidableEq κ] [Scalar α]

/-- The groups of one value for each key of a map. -/
theorem get?_finalize_entries (m : SortedMap κ ν) (value : ν → α) (key : κ) :
    (observeAll .empty (m.entries.map fun e => (e.1, value e.2)) :
        Aggregate κ α).finalize.get? key =
      (m.get? key).bind fun v => (RunningState.ofList [value v]).summarize := by
  rw [get?_finalize_observeAll, SortedMap.valuesOf_entries]
  cases m.get? key <;> rfl

theorem keys_finalize_entries (m : SortedMap κ ν) (value : ν → α) :
    (observeAll .empty (m.entries.map fun e => (e.1, value e.2)) : Aggregate κ α).finalize.keys =
      m.keys := by
  apply SortedMap.keys_eq_of_isSome
  intro key
  rw [get?_finalize_entries]
  cases m.get? key <;> rfl

end Aggregate

/-! ## The report as a log -/

namespace Report

/-- The numbers of a row, in the order of their columns. -/
def statistics (s : Summary Float) : List Float := [s.mean, s.stddev, s.min, s.max]

/-- The number in a column of a row. The label stands in column 0. -/
def statistic? (s : Summary Float) : Nat → Option Float
  | 0 => none
  | i + 1 => (statistics s)[i]?

/-- A row of the report that can be read: its key is the label of a text and shown on one
line and in one column, and its numbers are finite. -/
structure Legible (key : Label) (s : Summary Float) : Prop where
  parsed : ∃ raw, Label.parse raw = key
  column : '\t' ∉ key.display.toList
  line : '\n' ∉ key.display.toList
  finite : ∀ x ∈ statistics s, x.isFinite = true

instance (key : Label) (s : Summary Float) : Decidable (Legible key s) :=
  decidable_of_iff
    (Label.parse key.display = key ∧ '\t' ∉ key.display.toList ∧ '\n' ∉ key.display.toList ∧
      ∀ x ∈ statistics s, x.isFinite = true)
    ⟨fun ⟨read, column, line, finite⟩ => ⟨Label.exists_parse_iff.2 read, column, line, finite⟩,
      fun legible =>
        ⟨Label.exists_parse_iff.1 legible.parsed, legible.column, legible.line, legible.finite⟩⟩

/-- A row without its line feed. -/
def row (key : Label) (s : Summary Float) : String :=
  String.intercalate "\t" (key.display :: summaryColumns s)

theorem byLabel_eq_rows (summaries : LabelSummaries) :
    byLabel summaries =
      String.join ((summaries.entries.map fun e => row e.1 e.2).map (· ++ "\n")) := by
  rw [List.map_map]
  rfl

variable {key : Label} {s : Summary Float}

/-- The columns of a row. -/
def columns (key : Label) (s : Summary Float) : List (List Char) :=
  key.display.toList :: (statistics s).map fun x => (number x).toList

theorem toList_row (key : Label) (s : Summary Float) :
    (row key s).toList = ['\t'].intercalate (columns key s) := by
  unfold row
  rw [String.toList_intercalate]
  rfl

/-- What stands behind the label of a row has no line ends. -/
theorem exists_toList_row (key : Label) (s : Summary Float) : ∃ rest,
    (row key s).toList = key.display.toList ++ rest ∧ rest ≠ [] ∧
      ∀ c ∈ rest, Line.isLineEnd c = false := by
  refine ⟨'\t' :: ['\t'].intercalate ((statistics s).map fun x => (number x).toList), ?_,
    List.cons_ne_nil _ _, ?_⟩
  · have numbers : ((statistics s).map fun x => (number x).toList) ≠ [] := List.cons_ne_nil _ _
    rw [toList_row, columns, List.intercalate_cons_of_ne_nil numbers, List.append_assoc,
      List.singleton_append]
  · intro c inside
    rcases List.mem_cons.1 inside with rfl | inside
    · rfl
    · rcases Text.mem_intercalate inside with rfl | ⟨column, known, occurs⟩
      · rfl
      · obtain ⟨x, -, rfl⟩ := List.mem_map.1 known
        exact Line.isLineEnd_of_mem_write occurs

theorem isLineEnd_of_mem_getLast?_row :
    ∀ c ∈ (row key s).toList.getLast?, Line.isLineEnd c = false := by
  obtain ⟨rest, text, nonempty, solid⟩ := exists_toList_row key s
  intro c last
  rw [text, List.getLast?_append_of_ne_nil _ nonempty] at last
  exact solid c (List.mem_of_getLast? last)

theorem Legible.newline_notMem (legible : Legible key s) : '\n' ∉ (row key s).toList := by
  obtain ⟨rest, text, -, solid⟩ := exists_toList_row key s
  rw [text]
  intro inside
  rcases List.mem_append.1 inside with label | behind
  · exact legible.line label
  · cases solid '\n' behind

/-- A row is cut into its columns again. -/
theorem Legible.pieces_row (legible : Legible key s) :
    Text.pieces '\t' (Text.dropEnd Line.isLineEnd (row key s).toList) = columns key s := by
  rw [Text.dropEnd_eq_self isLineEnd_of_mem_getLast?_row, toList_row]
  apply Text.pieces_intercalate (List.cons_ne_nil _ _)
  intro column inside tab
  rcases List.mem_cons.1 inside with rfl | inside
  · exact legible.column tab
  · obtain ⟨x, -, rfl⟩ := List.mem_map.1 inside
    cases Line.isBlank_of_mem_write tab

theorem getElem?_columns {column : Nat} {x : Float} (shown : statistic? s column = some x) :
    (columns key s)[column]? = some (number x).toList := by
  cases column with
  | zero => cases shown
  | succ i =>
      have place : (statistics s)[i]? = some x := shown
      rw [columns, List.getElem?_cons_succ, List.getElem?_map, place, Option.map_some]

theorem Legible.isFinite (legible : Legible key s) {column : Nat} {x : Float}
    (shown : statistic? s column = some x) : x.isFinite = true := by
  cases column with
  | zero => cases shown
  | succ i => exact legible.finite x (List.mem_of_getElem? shown)

/-- A row is a line of a plain log. -/
theorem Legible.labelled_row (legible : Legible key s) {column : Nat} {x : Float}
    (shown : statistic? s column = some x) :
    Line.labelled ⟨'\t', 0, column⟩ (row key s) 0 = .ok ⟨key, x⟩ := by
  have finite := legible.isFinite shown
  apply Line.labelled_eq_ok_iff.2
  rw [legible.pieces_row]
  refine ⟨_, _, rfl, getElem?_columns shown, ?_, Line.value?_write numberStyle finite, finite⟩
  rw [String.ofList_toList, Label.exists_parse_iff.1 legible.parsed]

/-- Every one of the four columns shows a number of the summary. -/
theorem exists_statistic {column : Nat} (first : 1 ≤ column) (last : column ≤ 4) :
    ∃ value : Summary Float → Float, ∀ s, statistic? s column = some (value s) := by
  have known : column = 1 ∨ column = 2 ∨ column = 3 ∨ column = 4 := by omega
  rcases known with rfl | rfl | rfl | rfl
  · exact ⟨Summary.mean, fun _ => rfl⟩
  · exact ⟨Summary.stddev, fun _ => rfl⟩
  · exact ⟨Summary.min, fun _ => rfl⟩
  · exact ⟨Summary.max, fun _ => rfl⟩

end Report

namespace Analysis

/-- **Reading back.** A report with legible rows is a plain log in any of its columns. Its
analysis has the keys of the report, each with the number in its row as the only value. -/
theorem report_reads_back {summaries : LabelSummaries}
    (legible : ∀ key s, summaries.get? key = some s → Report.Legible key s) {column : Nat}
    (first : 1 ≤ column) (last : column ≤ 4) :
    ∃ a, byLabel ⟨'\t', 0, column⟩ (.ofBytes (Bytes.ofText (Report.byLabel summaries))) = .ok a ∧
      a.lines = summaries.keys.length ∧ a.result.keys = summaries.keys ∧
      ∀ key s, summaries.get? key = some s → ∃ t, a.result.get? key = some t ∧ t.count = 1 ∧
        Report.statistic? s column = some t.min ∧ Report.statistic? s column = some t.max := by
  obtain ⟨value, shown⟩ := Report.exists_statistic first last
  have accepted : List.Forall₂
      (fun row o => Line.labelled ⟨'\t', 0, column⟩ row 0 = .ok o)
      (summaries.entries.map fun e => Report.row e.1 e.2)
      (summaries.entries.map fun e => ⟨e.1, value e.2⟩) := by
    rw [List.forall₂_map_left_iff, List.forall₂_map_right_iff, List.forall₂_same]
    intro e inside
    exact (legible _ _ (SortedMap.get?_eq_some_iff.2 inside)).labelled_row (shown e.2)
  have whole : ∀ row ∈ summaries.entries.map (fun e => Report.row e.1 e.2),
      '\n' ∉ row.toList := by
    intro row inside
    obtain ⟨e, known, rfl⟩ := List.mem_map.1 inside
    exact (legible _ _ (SortedMap.get?_eq_some_iff.2 known)).newline_notMem
  have parsed := Parses.of_rows (Line.ignoresEnds_labelled _) (Line.unnumbered_labelled _)
    whole accepted
  rw [Report.byLabel_eq_rows]
  refine ⟨_, (isFold_byLabel _).of_parses parsed, ?_, ?_, ?_⟩
  · rw [← parsed.length_eq, List.length_map, SortedMap.keys, List.length_map]
  · rw [foldl_observe_label, List.map_map]
    exact Aggregate.keys_finalize_entries summaries value
  · intro key s known
    obtain ⟨t, summary, count, min, max⟩ :=
      RunningState.summarize_singleton ((legible key s known).isFinite (shown s))
    refine ⟨t, ?_, count, by rw [shown s, min], by rw [shown s, max]⟩
    rw [foldl_observe_label, List.map_map]
    refine (Aggregate.get?_finalize_entries summaries value key).trans ?_
    rw [known, Option.bind_some, summary]

/-- Labels of texts that are empty, have a return or spell an integer, and numbers at both
ends of the doubles. -/
theorem odd_report_reads_back :
    let s : Summary Float :=
      ⟨7, .ofBits 0x8000000000000000, .ofBits 1, .ofBits 0xffefffffffffffff, .ofBits 0⟩
    let summaries : LabelSummaries :=
      .ofList [(Label.parse "a\r b", s), (Label.parse "", s), (Label.parse "-05", s)]
    (∀ key s, summaries.get? key = some s → Report.Legible key s) ∧ 1 ≤ 2 ∧ 2 ≤ 4 ∧
      ∃ a, byLabel ⟨'\t', 0, 2⟩ (.ofBytes (Bytes.ofText (Report.byLabel summaries))) = .ok a ∧
        a.lines = 3 ∧ a.result.keys = [.number (-5), .text "", .text "a\r b"] ∧
        ∃ t, a.result.get? (.text "") = some t ∧ t.count = 1 ∧ t.min = .ofBits 1 ∧
          t.max = .ofBits 1 := by
  intro s summaries
  have legible : ∀ key s, summaries.get? key = some s → Report.Legible key s := by
    intro key s found
    have each : ∀ e ∈ summaries.entries, Report.Legible e.1 e.2 := by decide +kernel
    exact each _ (SortedMap.get?_eq_some_iff.1 found)
  have keys : summaries.keys = [.number (-5), .text "", .text "a\r b"] := by decide +kernel
  have known : summaries.get? (.text "") = some s := by decide +kernel
  obtain ⟨a, read, lines, same, behind⟩ := @report_reads_back summaries legible 2 (by decide)
    (by decide)
  obtain ⟨t, found, count, min, max⟩ := behind _ s known
  refine ⟨legible, by decide, by decide, a, read, by rw [lines, keys]; rfl, by rw [same, keys], t,
    found, count, ?_, ?_⟩
  · exact (Option.some.inj min).symm
  · exact (Option.some.inj max).symm

end Analysis

end Timings
