import Timings.Decimal.Basic

/-!
The shortest decimal that reads back as a given finite double.

Of all decimals that round to the pattern, `shortest` takes one on the coarsest
grid of multiples of a power of ten; of two neighbours on that grid the nearer
one, and of two equally near ones the one the notation asks for (`Tie`). The
test for "rounds to the pattern" is `Decimal.pattern` itself, so what is written
is read back unchanged by construction.
-/

namespace Timings

/-- Which of two equally near shortest decimals is written. -/
inductive Tie where
  /-- The larger one. -/
  | up
  /-- The one with the even last digit. -/
  | even
deriving DecidableEq, Repr

namespace Decimal

/-- All digits of a finite pattern: a multiple of a negative power of two is a
multiple of the same power of ten. -/
def exactly (b : Nat) : Decimal := ⟨Pattern.units b * 5 ^ 1074, -1074⟩

/-- The largest `n` with `n * 10 ^ k` not above the number behind the pattern. -/
def floorAt (b : Nat) (k : Int) : Nat :=
  if 0 ≤ k then Pattern.units b / (10 ^ k.toNat * 2 ^ 1074)
  else Pattern.units b * 10 ^ (-k).toNat / 2 ^ 1074

/-- Compares the number behind the pattern with the middle of the two multiples
`n * 10 ^ k` and `(n + 1) * 10 ^ k`. -/
def compareMiddle (b n : Nat) (k : Int) : Ordering :=
  if 0 ≤ k then compare (2 * Pattern.units b) ((2 * n + 1) * 10 ^ k.toNat * 2 ^ 1074)
  else compare (2 * Pattern.units b * 10 ^ (-k).toNat) ((2 * n + 1) * 2 ^ 1074)

/-- Whether a decimal is read back as the pattern `b`. -/
def readsAs (b : Nat) (d : Decimal) : Bool := d.pattern == b

/-- The nearer of the neighbours `n` and `n + 1` of the pattern on the grid of
multiples of `10 ^ k`. -/
def nearer (tie : Tie) (b n : Nat) (k : Int) : Decimal :=
  match compareMiddle b n k, tie with
  | .lt, _ => ⟨n, k⟩
  | .gt, _ => ⟨n + 1, k⟩
  | .eq, .up => ⟨n + 1, k⟩
  | .eq, .even => ⟨n + n % 2, k⟩

/-- Goes from the grid of `10 ^ k` to finer ones until a neighbour of the
pattern reads back; after `grids` grids all digits are written instead. -/
def shortestFrom (tie : Tie) (b : Nat) : Nat → Int → Decimal
  | 0, _ => exactly b
  | grids + 1, k =>
    let n := floorAt b k
    match readsAs b ⟨n, k⟩, readsAs b ⟨n + 1, k⟩ with
    | true, true => nearer tie b n k
    | true, false => ⟨n, k⟩
    | false, true => ⟨n + 1, k⟩
    | false, false => shortestFrom tie b grids (k - 1)

/-- A power of ten at least as large as the number behind a positive pattern:
`30103 / 100000` bounds the decimal digits of a binary one from above. -/
def topExponent (b : Nat) : Int :=
  ((Pattern.units b).log2 - 1073 : Int) * 30103 / 100000 + 1

/-- The shortest decimal that reads back as the finite pattern `b`. Seventeen
digits are always enough, and the first grid tried is at most two above the
leading digit. -/
def shortest (tie : Tie) (b : Nat) : Decimal :=
  if b = 0 then ⟨0, 0⟩ else shortestFrom tie b 25 (topExponent b)

end Decimal

end Timings
