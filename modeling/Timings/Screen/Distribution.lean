import Timings.Report.Table
import Timings.Screen.Area
import Timings.Histogram

/-!
The view of a distribution: a header, a plot in a box, labels of its axis and a
hint how to leave.
-/

namespace Timings

/-- The rows that each part of the view has. -/
structure Heights where
  header : Nat
  plot : Nat
  axis : Nat
  footer : Nat
deriving DecidableEq, Repr

/-- The shares of the parts in the rows there are. The plot needs three rows; then
come the header but for its blank line, the axis, the footer, the blank line of
the header, and what is left goes to the plot. -/
def Heights.share (rows : Nat) : Heights :=
  let header := if 9 ≤ rows then 4 else min 3 (rows - 3)
  let axis := if 7 ≤ rows then 1 else 0
  let footer := if 8 ≤ rows then 1 else 0
  ⟨header, rows - header - axis - footer, axis, footer⟩

theorem Heights.share_sum (rows : Nat) :
    let h := Heights.share rows
    h.header + h.plot + h.axis + h.footer = rows := by
  simp only [Heights.share]
  split <;> split <;> split <;> omega

namespace Distribution

/-! ## Header -/

/-- The width of the line below the title. -/
def separatorWidth : Nat := 60

/-- The lines above the plot: the title, a line, the facts, and a blank line. -/
def headerLines (title : String) (samples bins : Nat) (start stop : Float) (theme : Theme) :
    List (List Span) :=
  let label (text : String) : Span := ⟨text, theme.label⟩
  let value (text : String) : Span := ⟨text, theme.value⟩
  [[⟨" LATENCY DISTRIBUTION: " ++ title ++ " ", theme.header⟩],
    [⟨String.ofList (List.replicate separatorWidth '='), theme.separator⟩],
    [label "[ samples: ", value (toString samples), label " | bins: ", value (toString bins),
      label " | range: ", value (Report.number start), label " .. ", value (Report.number stop),
      label " ]"],
    []]

/-! ## Axis -/

/-- So many spaces. -/
def spaces (count : Nat) : List Char := List.replicate count ' '

/-- Labels at both ends of the axis and, if there is room for it, one in the
middle; only the left one if not even both ends have room. -/
def axisLabels (left mid right : List Char) (width : Nat) : List Char :=
  if width ≤ left.length + right.length then left
  else
    let gap := width - (left.length + right.length)
    if mid.length + 2 < gap then
      let before := (gap - mid.length) / 2
      left ++ spaces before ++ mid ++ spaces (gap - mid.length - before) ++ right
    else left ++ spaces gap ++ right

/-- The labels of the axis: both edges of the range and its middle. -/
def axisText (h : Histogram Float) (width : Nat) : String :=
  String.ofList (axisLabels (Report.number h.start).toList
    (Report.number ((h.start + h.stop) / 2)).toList (Report.number h.stop).toList width)

/-! ## The whole view -/

/-- How to leave the view. -/
def hint (theme : Theme) : List Span := [⟨"Press 'q' or Ctrl+C to exit", theme.dim⟩]

/-- Draws the plot: one bar for each column of the distribution, in a box. The bars
are drawn for the whole area, over the box. -/
def plot (s : Screen) (a : Area) (h : Histogram Float) (theme : Theme) : Screen :=
  let room := a.inside
  (s.fill a fun width height => .boxed width height theme.border " density " []).put room
    (.bars room.width room.height theme.bar (h.bars room.width))

/-- Draws lines of text. -/
def text (s : Screen) (a : Area) (lines : List (List Span)) : Screen :=
  s.fill a fun width height => .ofLines width height lines

/-- Draws a distribution under a title. -/
def view (s : Screen) (a : Area) (title : String) (h : Histogram Float) (theme : Theme) :
    Screen :=
  let share := Heights.share a.height
  let header := headerLines title h.total h.counts.length h.start h.stop theme
  let plotted := plot (text s (a.rows 0 share.header) header) (a.rows share.header share.plot)
    h theme
  let labelled := text plotted (a.rows (share.header + share.plot) share.axis)
    [[⟨axisText h a.width, theme.axis⟩]]
  text labelled (a.rows (share.header + share.plot + share.axis) share.footer) [hint theme]

/-- Draws that there is nothing to show. -/
def emptyView (s : Screen) (a : Area) (theme : Theme) : Screen :=
  s.fill a fun width height =>
    .boxed width height .plain " bench-stats "
      (.ofLines (Picture.inside width) (Picture.inside height)
        [[], [⟨"No latency samples found", theme.warning⟩], [], hint theme])

end Distribution

end Timings
