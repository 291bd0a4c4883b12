import Timings.Decimal.Literal
import Timings.Line.Structured
import Timings.Text.Basic

/-!
Lines of a plain log: columns between delimiters.

Every occurrence of the delimiter separates two columns, so a repeated delimiter
makes an empty column.
-/

namespace Timings

/-- Which columns of a line hold the label and the value. -/
structure ColumnFormat where
  delimiter : Char
  keyColumn : Nat
  valueColumn : Nat
deriving DecidableEq, Repr

/-- Label, something, value, with single spaces between. -/
def ColumnFormat.standard : ColumnFormat := ⟨' ', 0, 2⟩

namespace Line

/-- The characters that end a line. -/
def isLineEnd (c : Char) : Bool := c == '\r' || c == '\n'

/-- The number a column holds: one literal, with blanks around it. -/
def value? (column : List Char) : Option Float :=
  (Literal.parse? (Text.trim Text.isBlank column)).map Literal.toFloat

/-- The labelled value of a line. A missing key column comes before a missing
value column, and that before what the value is. -/
def labelled (format : ColumnFormat) (text : String) (line : Nat) :
    Except Failure (Observation Label) :=
  let columns := Text.pieces format.delimiter (Text.dropEnd isLineEnd text.toList)
  match columns[format.keyColumn]?, columns[format.valueColumn]? with
  | none, _ => .error (.malformedLine line (.noColumn format.keyColumn columns.length))
  | some _, none => .error (.malformedLine line (.noColumn format.valueColumn columns.length))
  | some key, some column =>
    match value? column with
    | none => .error (.malformedLine line (.notNumeric (String.ofList column)))
    | some value => do
      ensureFinite line value
      .ok ⟨Label.parse (String.ofList key), value⟩

end Line

end Timings
