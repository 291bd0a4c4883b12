import Timings.Label
import Timings.Text.Basic

/-!
Colours of the view, and the themes that choose them.
-/

namespace Timings

/-- The colours in use. -/
inductive Colour where
  | black
  | red
  | green
  | yellow
  | blue
  | cyan
  | gray
  | darkGray
  | white
deriving DecidableEq, Repr

/-- How text is painted. Without a colour it has that of the terminal. -/
structure Paint where
  colour : Option Colour
  bold : Bool
deriving DecidableEq, Repr

namespace Paint

/-- As the terminal paints by itself. -/
def plain : Paint := ⟨none, false⟩

/-- In a colour. -/
def of (colour : Colour) : Paint := ⟨some colour, false⟩

/-- In a colour, bold. -/
def strong (colour : Colour) : Paint := ⟨some colour, true⟩

end Paint

/-- The backgrounds a terminal can have. -/
inductive Background where
  | dark
  | light
deriving DecidableEq, Repr

namespace Background

/-- The last dark colour number of a terminal; those above it are light. -/
def lastDark : Nat := 6

/-- The number of a colour: up to three decimal digits or more with zeros in
front, perhaps behind a plus sign, below 256. -/
def colourNumber? (cs : List Char) : Option Nat :=
  match Label.integer? cs with
  | some (.ofNat n) => if cs.head? ≠ some '-' ∧ n < 256 then some n else none
  | _ => none

/-- The background that a terminal tells: its colours stand between semicolons,
the background last. It is dark if nothing is told. -/
def detect (colours : Option String) : Background :=
  match colours.bind fun text => (Text.pieces ';' text.toList).getLast?.bind colourNumber? with
  | some n => if n ≤ lastDark then .dark else .light
  | none => .dark

end Background

/-- How each part of the view is painted. -/
structure Theme where
  header : Paint
  separator : Paint
  text : Paint
  dim : Paint
  label : Paint
  value : Paint
  warning : Paint
  /-- The bars of the plot. -/
  bar : Paint
  /-- The border around it. -/
  border : Paint
  /-- The labels below it. -/
  axis : Paint
deriving DecidableEq, Repr

namespace Theme

/-- For dark backgrounds. -/
def dark : Theme where
  header := .strong .cyan
  separator := .of .darkGray
  text := .of .white
  dim := .of .darkGray
  label := .of .gray
  value := .strong .white
  warning := .of .yellow
  bar := .of .cyan
  border := .of .darkGray
  axis := .of .gray

/-- For light backgrounds. -/
def light : Theme where
  header := .strong .blue
  separator := .of .gray
  text := .of .black
  dim := .of .gray
  label := .of .darkGray
  value := .strong .black
  warning := .of .red
  bar := .of .blue
  border := .of .gray
  axis := .of .darkGray

/-- For terminals with few colours: nothing is bold. -/
def classic : Theme where
  header := .of .cyan
  separator := .of .darkGray
  text := .of .white
  dim := .of .darkGray
  label := .of .gray
  value := .of .white
  warning := .of .yellow
  bar := .of .green
  border := .of .white
  axis := .of .white

/-- The theme for a background. -/
def onBackground : Background → Theme
  | .light => light
  | .dark => dark

/-- The theme of a name. Every other name leaves the choice to the terminal. -/
def named (name : String) (colours : Option String) : Theme :=
  if name = "light" then light
  else if name = "dark" then dark
  else if name = "classic" then classic
  else onBackground (.detect colours)

end Theme

end Timings
