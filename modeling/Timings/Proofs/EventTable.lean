import Timings.Proofs.Outcomes
import Timings.Proofs.ReadBack

/-!
The report of events as a table.

A row is cut at its tabs into the pieces of its event and five columns that have no tabs
(`pieces_eventRow`), so rows of different keys differ whatever the events are. The text of
all rows is a table of six columns with a line for each key exactly when no event has a
tab or a line feed (`Analysis.events_are_a_table`). Events come out of JSON strings, so they
can have both.
-/

namespace Timings

namespace Report

/-! ## A row -/

/-- The columns of a row behind the event. -/
def columnsBehind (items : Nat) (s : Summary Float) : List (List Char) :=
  (toString items).toList :: (statistics s).map fun x => (number x).toList

theorem length_columnsBehind (items : Nat) (s : Summary Float) :
    (columnsBehind items s).length = 5 := by
  rw [columnsBehind, List.length_cons, List.length_map]
  rfl

/-- A row without its line feed. -/
def eventRow (key : EventKey) (s : Summary Float) : List Char :=
  key.event.toList ++ '\t' :: ['\t'].intercalate (columnsBehind key.items s)

theorem toList_eventLine (key : EventKey) (s : Summary Float) :
    (eventLine key.event key.items s).toList = eventRow key s ++ ['\n'] := by
  have joined : (eventLine key.event key.items s).toList =
      ['\t'].intercalate (key.event.toList :: columnsBehind key.items s) ++ ['\n'] := by
    unfold eventLine line
    rw [String.toList_append, String.toList_intercalate]
    rfl
  have nonempty : columnsBehind key.items s ≠ [] := List.cons_ne_nil _ _
  rw [joined, List.intercalate_cons_of_ne_nil nonempty, List.append_assoc key.event.toList,
    List.singleton_append, eventRow]

/-- The columns behind the event have no tabs and no line feeds. -/
theorem solid_columnsBehind {items : Nat} {s : Summary Float} {column : List Char}
    (known : column ∈ columnsBehind items s) : ∀ c ∈ column, Text.isBlank c = false := by
  intro c inside
  rcases List.mem_cons.1 known with rfl | known
  · rw [Nat.toString_eq_repr, Nat.toList_repr] at inside
    exact Text.isBlank_of_isDigit ((Literal.isDigits_toDigits items).2 c inside)
  · obtain ⟨x, -, rfl⟩ := List.mem_map.1 known
    exact Line.isBlank_of_mem_write inside

/-- A row is the pieces of its event, and five columns. -/
theorem pieces_eventRow (key : EventKey) (s : Summary Float) :
    Text.pieces '\t' (eventRow key s) =
      Text.pieces '\t' key.event.toList ++ columnsBehind key.items s := by
  have whole : ∀ column ∈ columnsBehind key.items s, '\t' ∉ column := by
    intro column known tab
    cases solid_columnsBehind known '\t' tab
  have nonempty : columnsBehind key.items s ≠ [] := List.cons_ne_nil _ _
  rw [eventRow, Text.pieces_append, Text.pieces_intercalate nonempty whole]

theorem newline_mem_eventRow {key : EventKey} {s : Summary Float}
    (inside : '\n' ∈ eventRow key s) : '\n' ∈ key.event.toList := by
  rcases List.mem_append.1 inside with event | behind
  · exact event
  · rcases List.mem_cons.1 behind with tab | behind
    · cases tab
    · rcases Text.mem_intercalate behind with tab | ⟨column, known, occurs⟩
      · cases tab
      · cases solid_columnsBehind known '\n' occurs

/-- Rows of different keys differ, whatever the events and the summaries are. -/
theorem eventLine_injective {key other : EventKey} {s t : Summary Float}
    (same : eventLine key.event key.items s = eventLine other.event other.items t) :
    key = other := by
  have rows : eventRow key s = eventRow other t := by
    apply List.append_cancel_right
    rw [← toList_eventLine, ← toList_eventLine, same]
  have columns := congrArg (Text.pieces '\t') rows
  rw [pieces_eventRow, pieces_eventRow] at columns
  have width : (columnsBehind key.items s).length = (columnsBehind other.items t).length := by
    rw [length_columnsBehind, length_columnsBehind]
  obtain ⟨events, behind⟩ := List.append_inj' columns width
  have event : key.event = other.event := String.toList_inj.1 (Text.pieces_injective events)
  have items : key.items = other.items :=
    Nat.repr_injective (String.toList_inj.1 (List.cons.inj behind).1)
  obtain ⟨event', items'⟩ := key
  cases event
  cases items
  rfl

/-! ## The rows together -/

/-- Cut at its line feeds, the text has one line for each key; every line has six columns
between its tabs, of which the first two are the event and the number of items. -/
def IsTable (text : String) (keys : List EventKey) : Prop :=
  ∃ lines, Text.pieces '\n' text.toList = lines ++ [[]] ∧
    (∀ line ∈ lines, (Text.pieces '\t' line).length = 6) ∧
    lines.map (fun line => (Text.pieces '\t' line).take 2) =
      keys.map fun key => [key.event.toList, (toString key.items).toList]

/-- An event that can stand in a table: it has no tab and no line feed. -/
def Tabular (key : EventKey) : Prop := '\t' ∉ key.event.toList ∧ '\n' ∉ key.event.toList

instance (key : EventKey) : Decidable (Tabular key) :=
  inferInstanceAs (Decidable ('\t' ∉ key.event.toList ∧ '\n' ∉ key.event.toList))

theorem toList_byEvent (summaries : EventSummaries) :
    (byEvent summaries).toList =
      (summaries.flatten.entries.map fun e => eventRow e.1 e.2).flatMap (· ++ ['\n']) := by
  rw [Analysis.rows_byEvent, String.toList_join, List.flatMap_map, List.flatMap_map]
  simp only [toList_eventLine]

theorem isTable_of_tabular {summaries : EventSummaries}
    (tabular : ∀ key ∈ summaries.flatten.keys, Tabular key) :
    IsTable (byEvent summaries) summaries.flatten.keys := by
  have known : ∀ e ∈ summaries.flatten.entries, Tabular e.1 := fun e inside =>
    tabular e.1 (List.mem_map_of_mem inside)
  have pieces : ∀ e ∈ summaries.flatten.entries, Text.pieces '\t' (eventRow e.1 e.2) =
      e.1.event.toList :: columnsBehind e.1.items e.2 := by
    intro e inside
    rw [pieces_eventRow, Text.pieces_of_notMem (known e inside).1, List.singleton_append]
  refine ⟨summaries.flatten.entries.map fun e => eventRow e.1 e.2, ?_, ?_, ?_⟩
  · rw [toList_byEvent]
    apply Text.pieces_terminated
    intro line inside
    obtain ⟨e, entry, rfl⟩ := List.mem_map.1 inside
    exact fun newline => (known e entry).2 (newline_mem_eventRow newline)
  · intro line inside
    obtain ⟨e, entry, rfl⟩ := List.mem_map.1 inside
    rw [pieces e entry, List.length_cons, length_columnsBehind]
  · rw [SortedMap.keys, List.map_map, List.map_map]
    apply List.map_congr_left
    intro e entry
    rw [Function.comp_apply, Function.comp_apply, pieces e entry]
    rfl

/-- The cells of a table are pieces of lines, and these are pieces of the text. -/
theorem IsTable.tabular {text : String} {keys : List EventKey} (table : IsTable text keys) :
    ∀ key ∈ keys, Tabular key := by
  obtain ⟨lines, cut, -, cells⟩ := table
  intro key known
  have cell : [key.event.toList, (toString key.items).toList] ∈
      lines.map fun line => (Text.pieces '\t' line).take 2 := by
    rw [cells]
    exact List.mem_map_of_mem known
  obtain ⟨line, inside, first⟩ := List.mem_map.1 cell
  have column : key.event.toList ∈ Text.pieces '\t' line := by
    apply List.mem_of_mem_take
    rw [first]
    exact List.mem_cons_self
  have row : line ∈ Text.pieces '\n' text.toList := by
    rw [cut]
    exact List.mem_append_left _ inside
  refine ⟨fun tab => ?_, fun newline => ?_⟩
  · exact (Text.mem_of_mem_pieces column _ tab).2 rfl
  · have occurs := (Text.mem_of_mem_pieces column _ newline).1
    exact (Text.mem_of_mem_pieces row _ occurs).2 rfl

end Report

/-! ## The report of a log -/

namespace Analysis

/-- **The report of events.** In the report of a log that has one, there is a row for each
key, in ascending order, and rows of different keys differ. It is a table of six columns
under these keys exactly when no event has a tab or a line feed. -/
theorem events_are_a_table {input : Bytes} {a : Analysis EventSummaries}
    (analysed : byEvent (.ofBytes input) = .ok a) :
    a.groups = a.result.flatten.keys.length ∧
      (a.result.flatten.keys.Pairwise fun x y =>
        x.event < y.event ∨ x.event = y.event ∧ x.items < y.items) ∧
      Report.byEvent a.result = String.join (a.result.flatten.entries.map fun e =>
        Report.eventLine e.1.event e.1.items e.2) ∧
      (a.result.flatten.entries.Pairwise fun e f =>
        Report.eventLine e.1.event e.1.items e.2 ≠
          Report.eventLine f.1.event f.1.items f.2) ∧
      (Report.IsTable (Report.byEvent a.result) a.result.flatten.keys ↔
        ∀ key ∈ a.result.flatten.keys, Report.Tabular key) := by
  obtain ⟨observations, parsed⟩ := isFold_byEvent.exists_parses analysed
  obtain ⟨a', analysed', tabulated, -⟩ := tabulated_byEvent parsed
  obtain rfl : a' = a := Except.ok.inj (analysed'.symm.trans analysed)
  refine ⟨?_, ?_, tabulated.rows, ?_, fun table => table.tabular, Report.isTable_of_tabular⟩
  · rw [tabulated.groups_eq, SortedMap.keys, List.length_map]
  · exact List.pairwise_map.2
      (tabulated.ascending.imp EventKey.compare_eq_lt_iff_lt.1)
  · refine tabulated.ascending.imp fun {e f} less same => ?_
    have equal : e.1 = f.1 := Report.eventLine_injective same
    have self : compare f.1 f.1 = .eq := Std.ReflCmp.compare_self
    rw [equal, self] at less
    cases less

/-- The keys and the report of a log, if it has one. -/
def tabulate? (log : String) : Option (List EventKey × String) :=
  (byEvent (.ofBytes (Bytes.ofText log))).toOption.map fun a =>
    (a.result.flatten.keys, Report.byEvent a.result)

theorem exists_of_tabulate? {log report : String} {keys : List EventKey}
    (tabulated : tabulate? log = some (keys, report)) :
    ∃ a, byEvent (.ofBytes (Bytes.ofText log)) = .ok a ∧ a.result.flatten.keys = keys ∧
      Report.byEvent a.result = report := by
  obtain ⟨a, analysed, same⟩ := Option.map_eq_some_iff.1 tabulated
  obtain ⟨rfl, rfl⟩ := Prod.mk.inj same
  exact ⟨a, toOption_eq_some_iff.1 analysed, rfl, rfl⟩

/-- A log that is not in order: an event with a return, and one without characters. -/
def oddLog : String :=
  "\x7b\"message\":\"a\\r\",\"items\":10,\"time/item\":2.0\x7d\n" ++
    "\x7b\"message\":\"a\\r\",\"items\":9,\"time/item\":0.5\x7d\n" ++
    "\x7b\"message\":\"\",\"items\":9,\"time/item\":4\x7d"

theorem odd_events_are_a_table :
    ∃ a, byEvent (.ofBytes (Bytes.ofText oddLog)) = .ok a ∧ a.groups = 3 ∧
      a.result.flatten.keys = [⟨"", 9⟩, ⟨"a\r", 9⟩, ⟨"a\r", 10⟩] ∧
      Report.IsTable (Report.byEvent a.result) a.result.flatten.keys := by
  have tabulated : tabulate? oddLog =
      some ([⟨"", 9⟩, ⟨"a\r", 9⟩, ⟨"a\r", 10⟩],
        "\t9\t4.0\t0.0\t4.0\t4.0\n" ++ "a\r\t9\t0.5\t0.0\t0.5\t0.5\n" ++
          "a\r\t10\t2.0\t0.0\t2.0\t2.0\n") := by
    decide +kernel
  obtain ⟨a, analysed, keys, -⟩ := exists_of_tabulate? tabulated
  obtain ⟨groups, -, -, -, table⟩ := events_are_a_table analysed
  refine ⟨a, analysed, ?_, keys, table.2 ?_⟩
  · rw [groups, keys]
    rfl
  · rw [keys]
    decide

/-- The log of one event, which is written as in a JSON string. -/
def eventLog (message : String) : String :=
  "\x7b\"message\":\"" ++ message ++ "\",\"items\":1,\"time/item\":2.0\x7d\n"

/-- A line feed in an event breaks its row in two, a tab in an event makes one column more:
neither report is a table. -/
theorem event_with_delimiter_breaks_row :
    (∃ a, byEvent (.ofBytes (Bytes.ofText (eventLog "a\\nb"))) = .ok a ∧
        a.result.flatten.keys = [⟨"a\nb", 1⟩] ∧
        Report.byEvent a.result = "a\nb\t1\t2.0\t0.0\t2.0\t2.0\n" ∧
        ¬Report.IsTable (Report.byEvent a.result) a.result.flatten.keys) ∧
      ∃ a, byEvent (.ofBytes (Bytes.ofText (eventLog "a\\tb"))) = .ok a ∧
        a.result.flatten.keys = [⟨"a\tb", 1⟩] ∧
        Report.byEvent a.result = "a\tb\t1\t2.0\t0.0\t2.0\t2.0\n" ∧
        ¬Report.IsTable (Report.byEvent a.result) a.result.flatten.keys := by
  constructor
  · have tabulated : tabulate? (eventLog "a\\nb") =
        some ([⟨"a\nb", 1⟩], "a\nb\t1\t2.0\t0.0\t2.0\t2.0\n") := by
      decide +kernel
    obtain ⟨a, analysed, keys, report⟩ := exists_of_tabulate? tabulated
    refine ⟨a, analysed, keys, report, fun table => ?_⟩
    rw [keys] at table
    exact (table.tabular _ List.mem_cons_self).2 (by decide)
  · have tabulated : tabulate? (eventLog "a\\tb") =
        some ([⟨"a\tb", 1⟩], "a\tb\t1\t2.0\t0.0\t2.0\t2.0\n") := by
      decide +kernel
    obtain ⟨a, analysed, keys, report⟩ := exists_of_tabulate? tabulated
    refine ⟨a, analysed, keys, report, fun table => ?_⟩
    rw [keys] at table
    exact (table.tabular _ List.mem_cons_self).1 (by decide)

end Analysis

end Timings
