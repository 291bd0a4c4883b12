import Mathlib.Algebra.Order.Ring.Rat
import Mathlib.Order.WithBot
import Timings.Proofs.Ranked

/-!
Exact numbers: rational arithmetic without rounding, with two infinities.

Statements that hold up to rounding are made over `Exact`. Sums and products of
rational numbers are those of the rationals, and there is one zero; what has no
value is `undefined`, and as with doubles it gives way in comparisons. A square
root need not be rational, so it is left open: `root` stands for any reading of it.

`least` and `greatest` are commutative and associative, and so is addition.
-/

namespace Timings

/-- A rational number, an infinity, or nothing that has a value. -/
inductive Exact (root : ℚ → ℚ) where
  | finite (value : ℚ)
  | infinity
  | negInfinity
  | undefined
deriving DecidableEq

namespace Exact

variable {root : ℚ → ℚ}

/-- The infinity on the side of a number, and nothing at zero. -/
def boundless (side : ℚ) : Exact root :=
  if 0 < side then infinity else if side < 0 then negInfinity else undefined

/-- A number on the same side of zero. -/
def side : Exact root → ℚ
  | finite a => a
  | infinity => 1
  | negInfinity => -1
  | undefined => 0

protected def add : Exact root → Exact root → Exact root
  | finite a, finite b => finite (a + b)
  | undefined, _ | _, undefined => undefined
  | infinity, negInfinity | negInfinity, infinity => undefined
  | infinity, _ | _, infinity => infinity
  | negInfinity, _ | _, negInfinity => negInfinity

protected def neg : Exact root → Exact root
  | finite a => finite (-a)
  | infinity => negInfinity
  | negInfinity => infinity
  | undefined => undefined

protected def mul : Exact root → Exact root → Exact root
  | finite a, finite b => finite (a * b)
  | undefined, _ | _, undefined => undefined
  | x, y => boundless (x.side * y.side)

protected def div : Exact root → Exact root → Exact root
  | finite a, finite b => if b = 0 then boundless a else finite (a / b)
  | finite _, infinity | finite _, negInfinity => finite 0
  | infinity, finite b => boundless (if b < 0 then -1 else 1)
  | negInfinity, finite b => boundless (if b < 0 then 1 else -1)
  | _, _ => undefined

/-- The place of a number on the line, which ends in the infinities. -/
def rank : Exact root → Option (WithBot (WithTop ℚ))
  | finite a => some (a : WithTop ℚ)
  | infinity => some ⊤
  | negInfinity => some ⊥
  | undefined => none

/-- Whether both have a place on the line, the first before the second. -/
protected def less (x y : Exact root) : Bool :=
  match x.rank, y.rank with
  | some a, some b => a < b
  | _, _ => false

instance : Scalar (Exact root) where
  add := Exact.add
  sub x y := Exact.add x (Exact.neg y)
  mul := Exact.mul
  div := Exact.div
  ofNat n := finite n
  infinity := infinity
  negInfinity := negInfinity
  isNaN x := x.rank.isNone
  less := Exact.less
  sqrt
    | finite a => finite (root a)
    | infinity => infinity
    | _ => undefined
  whole
    | finite a => a.floor.toNat
    | infinity => largestWord
    | _ => 0
  nearest
    | finite a => (a + 1 / 2).floor.toNat
    | infinity => largestWord
    | _ => 0

/-! ## Addition -/

theorem add_comm (x y : Exact root) : x + y = y + x := by
  cases x <;> cases y <;> try rfl
  exact congrArg finite (Rat.add_comm _ _)

theorem add_assoc (x y z : Exact root) : x + y + z = x + (y + z) := by
  cases x <;> cases y <;> cases z <;> try rfl
  exact congrArg finite (Rat.add_assoc _ _ _)

theorem add_zero (x : Exact root) : x + Scalar.ofNat 0 = x := by
  cases x <;> try rfl
  exact congrArg finite (Rat.add_zero _)

/-! ## The smaller and the larger of two numbers -/

theorem rank_injective : Function.Injective (rank : Exact root → _) := by
  intro x y same
  cases x <;> cases y <;> simp_all [rank]

instance : Ranked (Exact root) (WithBot (WithTop ℚ)) where
  rank := rank
  isNaN_eq _ := rfl
  less_iff x y := by
    change Exact.less x y = true ↔ _
    unfold Exact.less
    cases x.rank <;> cases y.rank <;> simp

theorem rank_least (x y : Exact root) :
    (Scalar.least x y).rank = x.rank.merge min y.rank := Ranked.rank_least x y

theorem rank_greatest (x y : Exact root) :
    (Scalar.greatest x y).rank = x.rank.merge max y.rank := Ranked.rank_greatest x y

theorem least_assoc (x y z : Exact root) :
    Scalar.least (Scalar.least x y) z = Scalar.least x (Scalar.least y z) := by
  apply rank_injective
  rw [rank_least, rank_least, rank_least, rank_least]
  exact Std.Associative.assoc _ _ _

theorem least_comm (x y : Exact root) : Scalar.least x y = Scalar.least y x := by
  apply rank_injective
  rw [rank_least, rank_least]
  exact Std.Commutative.comm _ _

theorem greatest_assoc (x y z : Exact root) :
    Scalar.greatest (Scalar.greatest x y) z = Scalar.greatest x (Scalar.greatest y z) := by
  apply rank_injective
  rw [rank_greatest, rank_greatest, rank_greatest, rank_greatest]
  exact Std.Associative.assoc _ _ _

theorem greatest_comm (x y : Exact root) : Scalar.greatest x y = Scalar.greatest y x := by
  apply rank_injective
  rw [rank_greatest, rank_greatest]
  exact Std.Commutative.comm _ _

/-- Only what has no place on the line gives way to the end of it. -/
theorem least_infinity {x : Exact root} (defined : x.rank ≠ none) :
    Scalar.least x Scalar.infinity = x := by
  apply rank_injective
  rw [rank_least]
  obtain ⟨a, place⟩ := Option.ne_none_iff_exists'.1 defined
  rw [place]
  exact congrArg some (min_top_right a)

theorem greatest_negInfinity {x : Exact root} (defined : x.rank ≠ none) :
    Scalar.greatest x Scalar.negInfinity = x := by
  apply rank_injective
  rw [rank_greatest]
  obtain ⟨a, place⟩ := Option.ne_none_iff_exists'.1 defined
  rw [place]
  exact congrArg some (max_bot_right a)

end Exact

end Timings
