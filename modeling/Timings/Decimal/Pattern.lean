import Timings.Counter

/-!
Sign-free bit patterns of doubles, read as natural numbers.

Patterns below `infinity` are the finite non-negative doubles, ordered as the
numbers they stand for. `units` measures such a number in steps of the least
positive double, `2 ^ -1074`, so it is a natural number as well; `nearest` goes
the other way, from any fraction of steps to the pattern that rounds it. All
arithmetic here is exact, on naturals: no operation on doubles takes part.
-/

namespace Timings.Pattern

/-- The pattern of positive infinity. Every smaller pattern is finite, every
larger one below `signBit` is not a number. -/
def infinity : Nat := 0x7ff * 2 ^ 52

/-- The bit that is set in the full pattern of a negative double. -/
def signBit : Nat := 2 ^ 63

/-- How many steps of `2 ^ -1074` a pattern is worth. Patterns below `2 ^ 52`
count the steps directly; above, the low 52 bits carry an implicit leading one
and the high bits scale it. At `infinity` this is the first power of two beyond
the doubles, the number that overflow is measured against. -/
def units (b : Nat) : Nat :=
  if b < 2 ^ 52 then b else (2 ^ 52 + b % 2 ^ 52) * 2 ^ (b / 2 ^ 52 - 1)

/-- The largest pattern worth at most `u` steps: the leading 53 bits of `u`,
with the number of dropped bits stored above them. -/
def below (u : Nat) : Nat :=
  u / 2 ^ (u.log2 - 52) + (u.log2 - 52) * 2 ^ 52

/-- The pattern nearest to `num / den` steps. A number half way between two
patterns goes to the even one, and numbers beyond the finite doubles go to
`infinity`. -/
def nearest (num den : Nat) : Nat :=
  let b := below (num / den)
  let middle := den * (units b + units (b + 1))
  let rounded :=
    if 2 * num < middle then b else if middle < 2 * num then b + 1 else b + b % 2
  min rounded infinity

/-- The double with this sign and this sign-free pattern. -/
def toFloat (negative : Bool) (b : Nat) : Float :=
  Float.ofBits (UInt64.ofNat (if negative then signBit + b else b))

/-- The sign-free pattern of a double. -/
def ofFloat (x : Float) : Nat := x.toBits.toNat % signBit

/-- Whether a double carries the sign bit, which negative zero does too. -/
def isNegative (x : Float) : Bool := decide (signBit ≤ x.toBits.toNat)

end Timings.Pattern
