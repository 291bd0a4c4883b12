import Timings.Decimal.Pattern

/-!
Decimal numbers `digits * 10 ^ exponent` and the double each one rounds to.
-/

namespace Timings

/-- The non-negative decimal number `digits * 10 ^ exponent`. -/
structure Decimal where
  digits : Nat
  exponent : Int
deriving DecidableEq, Repr

namespace Decimal

/-- A decimal as a fraction: numerator and denominator of the number of steps of
`2 ^ -1074` it is worth. -/
def steps (d : Decimal) : Nat × Nat :=
  if 0 ≤ d.exponent then (d.digits * 10 ^ d.exponent.toNat * 2 ^ 1074, 1)
  else (d.digits * 2 ^ 1074, 10 ^ (-d.exponent).toNat)

/-- The pattern of the double a decimal rounds to, a tie going to the even
pattern. The first branches answer without building the power of ten when the
exponent alone settles the matter, so the work is bounded by the number of
digits and not by the exponent. -/
def pattern (d : Decimal) : Nat :=
  if d.digits = 0 then 0
  else if 400 < d.exponent then Pattern.infinity
  else if d.exponent + d.digits.log2 < -400 then 0
  else Pattern.nearest d.steps.1 d.steps.2

/-- The double nearest to a decimal, with the given sign. -/
def toFloat (negative : Bool) (d : Decimal) : Float :=
  Pattern.toFloat negative d.pattern

end Decimal

end Timings
