import Timings.Screen.Picture

/-!
A screen, and the areas of it that pictures are put in.

An area may reach beyond the screen. Most things are drawn for the part of it that
can be seen, so that a box keeps all its edges; what is drawn for the whole area is
cut off at the edge of the screen.
-/

namespace Timings

/-- A rectangle by its upper left corner and its size. -/
structure Area where
  column : Nat
  line : Nat
  width : Nat
  height : Nat
deriving DecidableEq, Repr

namespace Area

/-- So many rows of an area, from one of them on. -/
def rows (a : Area) (first count : Nat) : Area :=
  { a with line := a.line + first, height := count }

/-- What is inside a box around an area. -/
def inside (a : Area) : Area :=
  ⟨a.column + 1, a.line + 1, Picture.inside a.width, Picture.inside a.height⟩

/-- The part of an area that lies on a screen of this size. -/
def visible (a : Area) (width height : Nat) : Area :=
  { a with width := min a.width (width - a.column), height := min a.height (height - a.line) }

end Area

/-- A screen, its size, and what is on it. -/
structure Screen where
  width : Nat
  height : Nat
  picture : Picture

namespace Screen

/-- A screen that nothing is drawn on. -/
def blank (width height : Nat) : Screen := ⟨width, height, .blank width height⟩

/-- The whole of a screen. -/
def area (s : Screen) : Area := ⟨0, 0, s.width, s.height⟩

/-- Puts a picture at the corner of an area. What reaches beyond the screen is cut
off. -/
def put (s : Screen) (a : Area) (picture : Picture) : Screen :=
  { s with picture := .paste a.column a.line picture s.picture }

/-- Draws what is made for the size of the visible part of an area. -/
def fill (s : Screen) (a : Area) (draw : Nat → Nat → Picture) : Screen :=
  let seen := a.visible s.width s.height
  s.put seen (draw seen.width seen.height)

end Screen

end Timings
