import Timings.Analysis

/-!
Reports: tables of summaries, with tabs between the columns, and the list of
latencies, comma-separated rows without a header.

Every line ends in a line feed. The columns of a table are those of the key, then
mean, standard deviation, least and greatest value. No field of a row can hold a
comma or a quote, so none is quoted.
-/

namespace Timings.Report

/-! ## Tables of summaries -/

/-- Numbers in tables: never with an exponent, whole ones with a point and a
zero, so that a column always reads as decimal numbers. -/
def numberStyle : Style := { tie := .up, plain := none, pointed := true, plus := false }

/-- A number in a table. -/
def number (x : Float) : String := numberStyle.write x

/-- The columns of a summary. -/
def summaryColumns (s : Summary Float) : List String :=
  [number s.mean, number s.stddev, number s.min, number s.max]

/-- A line of a table. -/
def line (columns : List String) : String := String.intercalate "\t" columns ++ "\n"

/-- The line of a group with one key. -/
def labelLine (label : String) (s : Summary Float) : String :=
  line (label :: summaryColumns s)

/-- The line of a group with two keys. -/
def eventLine (event : String) (items : Nat) (s : Summary Float) : String :=
  line (event :: toString items :: summaryColumns s)

/-- The table of summaries by label, in the order of the labels. -/
def byLabel (summaries : LabelSummaries) : String :=
  String.join (summaries.entries.map fun e => labelLine e.1.display e.2)

/-- The table of summaries by event, in the order of events and numbers of items. -/
def byEvent (summaries : EventSummaries) : String :=
  String.join (summaries.entries.flatMap fun e => e.2.entries.map fun b => eventLine e.1 b.1 b.2)

/-! ## Rows of latencies -/

/-- Numbers in rows: positional from `0.00001` to below ten to the sixteenth,
elsewhere with an exponent; whole positional ones with a point and a zero. -/
def rowStyle : Style := { tie := .even, plain := some (-5, 15), pointed := true, plus := false }

/-- The row of a latency. -/
def latencyRow (l : Latency) : String :=
  String.intercalate "," [rowStyle.write l.time, toString l.items, rowStyle.write l.timePerItem]
    ++ "\n"

/-- The rows of latencies, in their order. -/
def latencyRows (rows : List Latency) : Bytes := Bytes.ofText (String.join (rows.map latencyRow))

end Timings.Report
