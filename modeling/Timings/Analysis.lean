import Timings.Line.Columns
import Timings.Line.Stream
import Timings.Stats.Aggregate

/-!
The analyses behind the reports.

An analysis takes the stream of a whole log into one value. A log with a line
that cannot be used has no analysis, only the failure of that line.
-/

namespace Timings

/-- The result of an analysis, and how much went into it. -/
structure Analysis (ρ : Type) where
  result : ρ
  /-- The number of lines of the log. -/
  lines : Nat
  /-- The number of groups, zero for an analysis that does not group. -/
  groups : Nat

/-- Summaries by event, under each event by number of items. -/
abbrev EventSummaries := SortedMap String (SortedMap Nat (Summary Float))

/-- Summaries by label. -/
abbrev LabelSummaries := SortedMap Label (Summary Float)

namespace Analysis

/-- The time per item of structured lines, by event and number of items. -/
def byEvent (source : Source) : Except Failure (Analysis EventSummaries) := do
  let (aggregate, lines) ←
    Stream.fold Line.event
      (fun (a : NestedAggregate String Nat Float) o =>
        NestedAggregate.observe a o.key.event o.key.items o.value)
      .empty (Stream.start source)
  .ok ⟨NestedAggregate.finalize aggregate, lines, NestedAggregate.pairCount aggregate⟩

/-- The values of one column of plain lines, by the label in another column. -/
def byLabel (format : ColumnFormat) (source : Source) :
    Except Failure (Analysis LabelSummaries) := do
  let (aggregate, lines) ←
    Stream.fold (Line.labelled format)
      (fun (a : Aggregate Label Float) o => Aggregate.observe a o.key o.value)
      .empty (Stream.start source)
  .ok ⟨Aggregate.finalize aggregate, lines, aggregate.size⟩

/-- The latencies of structured lines, in the order of the log. -/
def latencies (source : Source) : Except Failure (Analysis (List Latency)) := do
  let (rows, lines) ←
    Stream.fold Line.latency (fun (rows : Array Latency) row => rows.push row) #[]
      (Stream.start source)
  .ok ⟨rows.toList, lines, 0⟩

end Analysis

end Timings
