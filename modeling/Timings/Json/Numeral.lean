import Timings.Json.Scan

/-!
JSON numerals and the numbers they denote.

An integer without point and exponent keeps its value as long as it fits 64
bits. Every other numeral denotes a double, which is not always the nearest one:
up to nineteen or twenty leading digits form a word, and the word is scaled by
powers of ten with one rounding each.
-/

namespace Timings.Json

/-- What a numeral denotes. -/
inductive Number where
  /-- An integer without sign, below `2 ^ 64`. -/
  | natural (value : Nat)
  /-- An integer from `-2 ^ 63` to `-1`. -/
  | negative (value : Int)
  | float (value : Float)

/-- The double nearest to a power of ten. -/
def tenTo (k : Nat) : Float := Decimal.toFloat false ⟨1, k⟩

/-- Scales a double by a power of ten. Exponents beyond 308 either way take
several steps; a number that is not zero and leaves the doubles is out of range,
`none`. -/
def scale (x : Float) (e : Int) : Option Float :=
  if e.natAbs ≤ 308 then
    if 0 ≤ e then
      let y := x * tenTo e.toNat
      if y.isInf then none else some y
    else some (x / tenTo e.natAbs)
  else if x == 0 then some x
  else if 0 ≤ e then none
  else scale (x / tenTo 308) (e + 308)
termination_by e.natAbs

/-- The double of a numeral with this sign, leading digits and power of ten. -/
def assemble (minus : Bool) (digits : Nat) (e : Int) : Except Fault Float :=
  match scale (UInt64.ofNat digits).toFloat e with
  | none => .error .numberOutOfRange
  | some x => .ok (if minus then -x else x)

/-- The value of an ASCII digit. -/
def digitValue (c : Char) : Nat := c.toNat - '0'.toNat

/-- The largest word that leading digits form. -/
def largestDigits : Nat := 2 ^ 64 - 1

/-- The largest exponent that is told from an endless one. -/
def largestExponent : Nat := 2 ^ 31 - 1

/-- Reads the remaining digits of a written exponent, unless it grows too large. -/
def scanExponentDigits (e : Nat) : List Char → Option (Nat × List Char)
  | [] => some (e, [])
  | c :: cs =>
    if c.isDigit then
      if largestExponent < e * 10 + digitValue c then none
      else scanExponentDigits (e * 10 + digitValue c) cs
    else some (e, c :: cs)

/-- Reads the digits of an exponent behind its sign, which says whether they lower
the power `start` of the digits in front. With an exponent that is too large the
number is zero or out of range. -/
def scanPower (minus : Bool) (digits : Nat) (start : Int) (down : Bool) :
    List Char → Except Fault (Float × List Char)
  | [] => .error .endInValue
  | c :: cs =>
    if c.isDigit then
      match scanExponentDigits (digitValue c) cs with
      | some (e, rest) => do
        let x ← assemble minus digits (if down then start - e else start + e)
        .ok (x, rest)
      | none =>
        if digits ≠ 0 ∧ !down then .error .numberOutOfRange
        else .ok (Pattern.toFloat minus 0, cs.dropWhile Char.isDigit)
    else .error .malformedNumber

/-- Reads what follows the `e` of a numeral whose digits have the power `start`. -/
def scanExponent (minus : Bool) (digits : Nat) (start : Int) (cs : List Char) :
    Except Fault (Float × List Char) :=
  match cs with
  | '-' :: cs => scanPower minus digits start true cs
  | '+' :: cs => scanPower minus digits start false cs
  | cs => scanPower minus digits start false cs

/-- Ends a numeral behind its digits: an exponent may follow. -/
def scanScaled (minus : Bool) (digits : Nat) (e : Int) (cs : List Char) :
    Except Fault (Float × List Char) :=
  match cs with
  | 'e' :: cs => scanExponent minus digits e cs
  | 'E' :: cs => scanExponent minus digits e cs
  | cs => do
    let x ← assemble minus digits e
    .ok (x, cs)

/-- Reads the digits behind the point into the leading digits, each one lowering
the power of ten, until one does not fit; that one and the rest are dropped. -/
def scanFractionDigits (digits : Nat) (e : Int) : List Char → Nat × Int × List Char
  | [] => (digits, e, [])
  | c :: cs =>
    if c.isDigit then
      if largestDigits < digits * 10 + digitValue c then
        (digits, e, cs.dropWhile Char.isDigit)
      else scanFractionDigits (digits * 10 + digitValue c) (e - 1) cs
    else (digits, e, c :: cs)

/-- Reads what follows the point. At least one digit has to. -/
def scanFraction (minus : Bool) (digits : Nat) (e : Int) (cs : List Char) :
    Except Fault (Float × List Char) :=
  match cs with
  | [] => .error .endInValue
  | c :: _ =>
    if c.isDigit then
      let (digits, e, rest) := scanFractionDigits digits e cs
      scanScaled minus digits e rest
    else .error .malformedNumber

/-- Ends a numeral behind digits before the point that do not all fit: the ones
that are dropped raise the power of ten. -/
def scanLong (minus : Bool) (digits : Nat) (e : Int) : List Char → Except Fault (Float × List Char)
  | [] => scanScaled minus digits e []
  | c :: cs =>
    if c.isDigit then scanLong minus digits (e + 1) cs
    else if c = '.' then scanFraction minus digits e cs
    else scanScaled minus digits e (c :: cs)

/-- An integer by its sign and digits. Negative zero and integers that do not
fit 64 bits with a sign are doubles. -/
def Number.ofInteger (minus : Bool) (digits : Nat) : Number :=
  if !minus then .natural digits
  else if digits = 0 ∨ 2 ^ 63 < digits then .float (-(UInt64.ofNat digits).toFloat)
  else .negative (-digits)

/-- Ends a numeral behind the digits before the point. -/
def scanAfterWhole (minus : Bool) (digits : Nat) (cs : List Char) :
    Except Fault (Number × List Char) :=
  match cs with
  | '.' :: cs => (scanFraction minus digits 0 cs).map fun p => (.float p.1, p.2)
  | 'e' :: cs => (scanExponent minus digits 0 cs).map fun p => (.float p.1, p.2)
  | 'E' :: cs => (scanExponent minus digits 0 cs).map fun p => (.float p.1, p.2)
  | cs => .ok (.ofInteger minus digits, cs)

/-- Reads the remaining digits before the point. -/
def scanWhole (minus : Bool) (digits : Nat) : List Char → Except Fault (Number × List Char)
  | [] => scanAfterWhole minus digits []
  | c :: cs =>
    if c.isDigit then
      if largestDigits < digits * 10 + digitValue c then
        (scanLong minus digits 1 cs).map fun p => (.float p.1, p.2)
      else scanWhole minus (digits * 10 + digitValue c) cs
    else scanAfterWhole minus digits (c :: cs)

/-- Reads a numeral behind its sign. A zero in front of other digits is wrong. -/
def scanUnsigned (minus : Bool) : List Char → Except Fault (Number × List Char)
  | [] => .error .endInValue
  | c :: cs =>
    if c = '0' then
      match cs with
      | [] => scanAfterWhole minus 0 []
      | d :: ds => if d.isDigit then .error .malformedNumber else scanAfterWhole minus 0 (d :: ds)
    else if c.isDigit then scanWhole minus (digitValue c) cs
    else .error .malformedNumber

/-- Reads a numeral, if the next character starts one. -/
def scanNumeral? : List Char → Option (Except Fault (Number × List Char))
  | [] => none
  | c :: cs =>
    if c = '-' then some (scanUnsigned true cs)
    else if c.isDigit then some (scanUnsigned false (c :: cs))
    else none

/-- Passes over a digit and more digits. -/
def skipDigits : List Char → Except Fault (List Char)
  | [] => .error .malformedNumber
  | c :: cs => if c.isDigit then .ok (cs.dropWhile Char.isDigit) else .error .malformedNumber

/-- Passes over an exponent, if one follows. -/
def skipExponent (cs : List Char) : Except Fault (List Char) :=
  match cs with
  | [] => .ok []
  | c :: cs =>
    if c = 'e' ∨ c = 'E' then
      match cs with
      | '+' :: cs => skipDigits cs
      | '-' :: cs => skipDigits cs
      | cs => skipDigits cs
    else .ok (c :: cs)

/-- Passes over a fraction, if one follows. -/
def skipFraction (cs : List Char) : Except Fault (List Char) :=
  match cs with
  | '.' :: cs => skipDigits cs
  | cs => .ok cs

/-- Passes over the digits before the point. -/
def skipWhole : List Char → Except Fault (List Char)
  | [] => .error .malformedNumber
  | c :: cs =>
    if c = '0' then
      match cs with
      | [] => .ok []
      | d :: ds => if d.isDigit then .error .malformedNumber else .ok (d :: ds)
    else if c.isDigit then .ok (cs.dropWhile Char.isDigit)
    else .error .malformedNumber

/-- Passes over a numeral behind its sign, without asking what it denotes. -/
def skipNumeral (cs : List Char) : Except Fault (List Char) := do
  let cs ← skipWhole cs
  let cs ← skipFraction cs
  skipExponent cs

end Timings.Json
