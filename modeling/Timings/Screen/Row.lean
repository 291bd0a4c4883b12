import Timings.Screen.Theme
import Timings.Text.ClusterWidth

/-!
Rows of cells, and text on them.

A cell shows one cluster of characters. A cluster of several columns takes the
cells behind it as well, which then stay blank.
-/

namespace Timings

/-- A cell of the screen. -/
structure Cell where
  shown : String
  paint : Paint
deriving DecidableEq, Repr

/-- A cell that nothing is written on. -/
def Cell.blank : Cell := ⟨" ", .plain⟩

/-- A row of cells. -/
abbrev Row := List Cell

/-- Text painted in one way. -/
structure Span where
  text : String
  paint : Paint
deriving DecidableEq, Repr

namespace Row

/-- A row that nothing is written on. -/
def blank (width : Nat) : Row := List.replicate width .blank

/-- The control characters; nothing is shown of them. -/
def isControl (c : Char) : Bool := c.toNat < 0x20 || (0x7f ≤ c.toNat && c.toNat < 0xa0)

/-- The clusters of a span, except those that hold a control character. -/
def visible (span : Span) : List (List Char × Paint) :=
  ((Text.clusters span.text.toList).filter fun cluster => !cluster.any isControl).map
    fun cluster => (cluster, span.paint)

/-- Writes clusters one behind the other into the `room` that is left of a row of
`width` cells. What is too wide for the whole row is left out, and the row ends
where a cluster does not fit any more. -/
def write (width room : Nat) : List (List Char × Paint) → Row
  | [] => blank room
  | (cluster, paint) :: rest =>
    let columns := Text.clusterWidth cluster
    if columns = 0 ∨ width < columns then write width room rest
    else if room < columns then blank room
    else
      ⟨String.ofList cluster, paint⟩ :: (blank (columns - 1) ++ write width (room - columns) rest)

/-- A row with a line of text at its left end. -/
def ofLine (width : Nat) (line : List Span) : Row := write width width (line.flatMap visible)

theorem length_blank (width : Nat) : (blank width).length = width := List.length_replicate

theorem length_write (width room : Nat) (clusters : List (List Char × Paint)) :
    (write width room clusters).length = room := by
  induction clusters generalizing room with
  | nil => exact length_blank room
  | cons head rest ih =>
    obtain ⟨cluster, paint⟩ := head
    simp only [write]
    split
    · exact ih room
    · split
      · exact length_blank room
      · simp only [List.length_cons, List.length_append, length_blank, ih]
        omega

/-- A line of text neither widens nor narrows its row. -/
theorem length_ofLine (width : Nat) (line : List Span) : (ofLine width line).length = width :=
  length_write width width _

end Row

end Timings
