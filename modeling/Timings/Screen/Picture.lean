import Timings.Screen.Row

/-!
Rectangles of cells: text, boxes and bars, and how they are put together.
-/

namespace Timings

/-- A rectangle of cells, as its rows from the top. -/
abbrev Picture := List Row

namespace Picture

/-- A rectangle that nothing is drawn on. -/
def blank (width height : Nat) : Picture := List.replicate height (Row.blank width)

/-- Lines of text from the top of a rectangle. -/
def ofLines (width height : Nat) (lines : List (List Span)) : Picture :=
  (lines.map (Row.ofLine width) ++ blank width height).take height

/-! ## Boxes -/

/-- One row with an edge at each end. The left edge comes first where there is
room for one only. -/
def edged (width : Nat) (left right : Cell) (between : Row) : Row :=
  match width with
  | 0 => []
  | 1 => [left]
  | inside + 2 => left :: ((between ++ Row.blank inside).take inside ++ [right])

/-- The upper edge of a box, with its title from the second cell. -/
def upperEdge (width : Nat) (paint : Paint) (title : String) : Row :=
  let line := title.toList.map fun c => Cell.mk (String.singleton c) paint
  edged width ⟨"┌", paint⟩ ⟨"┐", paint⟩ (line ++ List.replicate width ⟨"─", paint⟩)

/-- The lower edge of a box. -/
def lowerEdge (width : Nat) (paint : Paint) : Row :=
  edged width ⟨"└", paint⟩ ⟨"┘", paint⟩ (List.replicate width ⟨"─", paint⟩)

/-- The width inside a box, and also the height. -/
def inside (size : Nat) : Nat := size - 2

/-- A box around a picture. The upper edge comes first where there is room for one
only. -/
def boxed (width height : Nat) (paint : Paint) (title : String) (content : Picture) : Picture :=
  match height with
  | 0 => []
  | 1 => [upperEdge width paint title]
  | rows + 2 =>
    upperEdge width paint title ::
      ((content ++ blank (inside width) rows).take rows).map
        (edged width ⟨"│", paint⟩ ⟨"│", paint⟩) ++ [lowerEdge width paint]

/-! ## Bars -/

/-- The cells that are filled from below by so many eighths. -/
def eighths : List String := [" ", "▁", "▂", "▃", "▄", "▅", "▆", "▇", "█"]

/-- The height of a bar in eighths of a cell, where the highest of all bars fills
the rows. -/
def barHeight (rows highest value : Nat) : Nat := value * rows * 8 / highest

/-- The cell of a bar that has so many cells below it. -/
def barCell (paint : Paint) (below height : Nat) : Cell :=
  ⟨(eighths[min (height - 8 * below) 8]?).getD "█", paint⟩

/-- Bars side by side, each one cell wide, as many as there is room for. -/
def bars (width height : Nat) (paint : Paint) (values : List Nat) : Picture :=
  let highest := values.foldl max 0
  let heights := (values.take width).map (barHeight height highest)
  (List.range height).map fun row => heights.map (barCell paint (height - 1 - row))

/-! ## Putting pictures together -/

/-- Puts a row onto another, from a column on. -/
def pasteRow (column : Nat) (row onto : Row) : Row :=
  (onto.take column ++ row ++ onto.drop (column + row.length)).take onto.length

/-- Puts a picture onto another, its upper left corner at a column and a line.
What does not fit is cut off. -/
def paste (column line : Nat) (picture onto : Picture) : Picture :=
  (onto.take line ++
    (List.zipWith (pasteRow column) picture (onto.drop line) ++
      onto.drop (line + picture.length))).take onto.length

end Picture

end Timings
