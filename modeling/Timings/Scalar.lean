import Timings.Counter

/-!
The numbers statistics are computed with.

Every statistic of this library is written once, over a `Scalar`. A run computes
with doubles; laws that hold up to rounding are stated over exact numbers, which
are another instance.
-/

namespace Timings

/-- Numbers with arithmetic, two infinities and a comparison. -/
class Scalar (α : Type) extends Add α, Sub α, Mul α, Div α where
  /-- The number nearest to a natural number. -/
  ofNat : Nat → α
  /-- A number above all others. -/
  infinity : α
  /-- A number below all others. -/
  negInfinity : α
  /-- Whether this is no number at all; then it compares with nothing. -/
  isNaN : α → Bool
  /-- Whether the first number is less than the second. -/
  less : α → α → Bool
  /-- The square root of a number that is not negative. -/
  sqrt : α → α
  /-- The whole part, zero for negative numbers and what is not a number. -/
  whole : α → Nat
  /-- The nearest natural number, a half going up; zero as for `whole`. -/
  nearest : α → Nat

namespace Scalar

variable {α : Type} [Scalar α]

/-- The smaller of two numbers, the second if they are equal. What is not a
number gives way. -/
def least (a b : α) : α := if isNaN b then a else if less a b then a else b

/-- The larger of two numbers, the second if they are equal. What is not a
number gives way. -/
def greatest (a b : α) : α := if isNaN b then a else if less b a then a else b

/-- A number cut off below zero; what is not a number becomes zero. -/
def atLeastZero (a : α) : α := if less (ofNat 0) a then a else ofNat 0

/-- The sum of numbers, from the first to the last. -/
def sum : List α → α
  | [] => ofNat 0
  | x :: xs => xs.foldl (· + ·) x

end Scalar

/-- The largest word, which conversions from doubles to naturals stop at. -/
def largestWord : Nat := 2 ^ 64 - 1

/-- Doubles. The whole part of a number beyond the words is the largest word. -/
instance : Scalar Float where
  ofNat := Float.ofNat
  infinity := Float.ofBits 0x7ff0000000000000
  negInfinity := Float.ofBits 0xfff0000000000000
  isNaN := Float.isNaN
  less x y := x < y
  sqrt := Float.sqrt
  whole x := x.toUInt64.toNat
  nearest x :=
    let below := x.toUInt64
    if 0.5 ≤ x - below.toFloat then min (below.toNat + 1) largestWord else below.toNat

end Timings
