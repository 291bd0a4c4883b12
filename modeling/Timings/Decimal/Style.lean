import Timings.Decimal.Shortest

/-!
Written forms of doubles.

A `Style` holds the decisions of one notation; `Style.write` lays out the
shortest decimal of a double by it. The styles themselves stand in the modules
that own the output they are used for.
-/

namespace Timings

/-- The decisions of a notation for doubles. -/
structure Style where
  /-- Which of two equally near shortest decimals is written. -/
  tie : Tie
  /-- The powers of ten of the leading digit, first and last, for which the
  number is written without an exponent; none if it never has an exponent. -/
  plain : Option (Int × Int)
  /-- Whether a whole number without an exponent ends in a point and a zero. -/
  pointed : Bool
  /-- Whether a positive exponent carries a plus sign. -/
  plus : Bool
deriving DecidableEq, Repr

namespace Decimal

/-- The decimal digits of the coefficient, most significant first. -/
def digitChars (d : Decimal) : List Char := Nat.toDigits 10 d.digits

/-- The power of ten of the leading digit. -/
def leading (d : Decimal) : Int := d.digitChars.length - 1 + d.exponent

/-- Positional notation: the point falls between digits, or zeros fill the gap
on the side where digits are missing. A whole number ends in `.0` if `pointed`. -/
def positional (pointed : Bool) (d : Decimal) : List Char :=
  let ds := d.digitChars
  if 0 ≤ d.exponent then
    ds ++ List.replicate d.exponent.toNat '0' ++ (if pointed then ['.', '0'] else [])
  else
    let places := (-d.exponent).toNat
    if places < ds.length then
      ds.take (ds.length - places) ++ '.' :: ds.drop (ds.length - places)
    else
      '0' :: '.' :: (List.replicate (places - ds.length) '0' ++ ds)

/-- Exponent notation: one digit, the others behind a point, then the power of
ten of the first. -/
def scientific (plus : Bool) (d : Decimal) : List Char :=
  let mantissa :=
    match d.digitChars with
    | [] => []
    | [c] => [c]
    | c :: cs => c :: '.' :: cs
  let sign := if d.leading < 0 then ['-'] else if plus then ['+'] else []
  mantissa ++ 'e' :: (sign ++ Nat.toDigits 10 d.leading.natAbs)

end Decimal

namespace Style

/-- Whether a number whose leading digit has this power of ten is written
without an exponent. -/
def isPlain (style : Style) (leading : Int) : Bool :=
  match style.plain with
  | none => true
  | some (first, last) => decide (first ≤ leading ∧ leading ≤ last)

/-- A decimal in this style. Zero has no leading digit and is always plain. -/
def layOut (style : Style) (d : Decimal) : List Char :=
  if d.digits = 0 ∨ style.isPlain d.leading then d.positional style.pointed
  else d.scientific style.plus

/-- A double in this style: a minus sign if the sign bit is set, then the
shortest decimal that reads back, or `inf`; `NaN` has no sign. -/
def writeChars (style : Style) (x : Float) : List Char :=
  let b := Pattern.ofFloat x
  if Pattern.infinity < b then ['N', 'a', 'N']
  else
    (if Pattern.isNegative x then ['-'] else []) ++
      if b = Pattern.infinity then ['i', 'n', 'f']
      else style.layOut (Decimal.shortest style.tie b)

/-- The text of a double in this style. -/
def write (style : Style) (x : Float) : String := String.ofList (style.writeChars x)

end Style

end Timings
