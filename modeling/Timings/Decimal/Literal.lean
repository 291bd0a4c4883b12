import Timings.Decimal.Basic

/-!
Number literals in free text: an optional sign, then decimal digits with an
optional point and an optional power of ten, or one of the words `inf`,
`infinity` and `nan` in any case. Nothing may stand before or after; digits are
the ASCII ones. A literal denotes the double nearest to it.
-/

namespace Timings

/-- What a number literal says, before it is rounded to a double. -/
inductive Literal where
  | finite (negative : Bool) (value : Decimal)
  | infinite (negative : Bool)
  | notANumber
deriving DecidableEq, Repr

namespace Literal

/-- Splits off one leading sign; the flag says whether it is a minus. -/
def splitSign : List Char → Bool × List Char
  | '-' :: cs => (true, cs)
  | '+' :: cs => (false, cs)
  | cs => (false, cs)

/-- Splits off the leading ASCII digits. -/
def splitDigits (cs : List Char) : List Char × List Char :=
  (cs.takeWhile Char.isDigit, cs.dropWhile Char.isDigit)

/-- The value of a run of ASCII digits. -/
def digitsValue (ds : List Char) : Nat := Nat.ofDigitChars 10 ds 0

/-- The power of ten that ends a literal: nothing at all, or `e` and an integer
with at least one digit. -/
def parseExponent? : List Char → Option Int
  | [] => some 0
  | c :: cs =>
    if c = 'e' ∨ c = 'E' then
      let (negative, rest) := splitSign cs
      let (ds, rest) := splitDigits rest
      if ds.isEmpty ∨ !rest.isEmpty then none
      else some (if negative then -(digitsValue ds : Int) else digitsValue ds)
    else none

/-- The digits behind the point, if there is a point, and what follows them. -/
def splitFraction : List Char → List Char × List Char
  | '.' :: cs => splitDigits cs
  | cs => ([], cs)

/-- A decimal number without sign: digits before the point, behind it, or both. -/
def parseDecimal? (cs : List Char) : Option Decimal :=
  let (whole, rest) := splitDigits cs
  let (fraction, rest) := splitFraction rest
  if whole.isEmpty ∧ fraction.isEmpty then none
  else (parseExponent? rest).map fun e =>
    ⟨digitsValue (whole ++ fraction), e - fraction.length⟩

/-- The words for infinity. -/
def infinityWords : List (List Char) := ["inf".toList, "infinity".toList]

/-- The word for an undefined result. -/
def nanWord : List Char := "nan".toList

/-- Reads a number literal. -/
def parse? (cs : List Char) : Option Literal :=
  let (negative, rest) := splitSign cs
  let word := rest.map Char.toLower
  if infinityWords.contains word then some (.infinite negative)
  else if word = nanWord then some .notANumber
  else (parseDecimal? rest).map (.finite negative)

/-- The double a literal denotes. -/
def toFloat : Literal → Float
  | finite negative value => value.toFloat negative
  | infinite negative => Pattern.toFloat negative Pattern.infinity
  | notANumber => Pattern.toFloat false (Pattern.infinity + 2 ^ 51)

/-- The double a text denotes as a whole, if it is a number literal. -/
def toFloat? (text : String) : Option Float := (parse? text.toList).map toFloat

end Literal

end Timings
