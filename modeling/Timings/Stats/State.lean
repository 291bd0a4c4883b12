import Timings.Scalar

/-!
The running state of one group of values, and the summary read off it.

A state keeps five accumulators and no values. `observe` takes one value in,
`merge` takes in everything another state has seen, and `summarize` turns a
state that has seen something into the statistics a report shows. What a state
counts its values with is up to it: a counter of words that has come back to zero
looks like one that has seen nothing.
-/

namespace Timings

/-- The accumulators of one group of values. -/
structure RunningState (α : Type) (γ : Type := Nat) where
  count : γ
  sum : α
  sumSquares : α
  min : α
  max : α
deriving DecidableEq, Repr

/-- The statistics of one group of values. -/
structure Summary (α : Type) where
  count : Nat
  mean : α
  /-- The standard deviation of the values as a whole population. -/
  stddev : α
  min : α
  max : α
deriving DecidableEq, Repr

variable {α γ : Type} [Scalar α] [Counter γ]

namespace RunningState

/-- The state before any value: its least value is above, its greatest below
every value. -/
def empty : RunningState α γ where
  count := Counter.zero
  sum := Scalar.ofNat 0
  sumSquares := Scalar.ofNat 0
  min := Scalar.infinity
  max := Scalar.negInfinity

instance : Inhabited (RunningState α γ) := ⟨empty⟩

/-- Takes in one value. -/
def observe (s : RunningState α γ) (x : α) : RunningState α γ where
  count := Counter.next s.count
  sum := s.sum + x
  sumSquares := s.sumSquares + x * x
  min := Scalar.least s.min x
  max := Scalar.greatest s.max x

/-- Takes in all that another state has seen. -/
def merge (s t : RunningState α γ) : RunningState α γ where
  count := Counter.add s.count t.count
  sum := s.sum + t.sum
  sumSquares := s.sumSquares + t.sumSquares
  min := Scalar.least s.min t.min
  max := Scalar.greatest s.max t.max

/-- Whether the count is zero, as it is before any value. -/
def isEmpty (s : RunningState α γ) : Bool := Counter.toNat s.count == 0

/-- The state after a list of values, taken in from the first to the last. -/
def ofList (xs : List α) : RunningState α := xs.foldl observe empty

theorem count_observe (s : RunningState α) (x : α) : (s.observe x).count = s.count + 1 := rfl

theorem count_merge (s t : RunningState α) : (s.merge t).count = s.count + t.count := rfl

end RunningState

/-- The mean of the squares less the square of the mean. Rounding can make it
slightly negative. -/
def populationVariance (sumSquares mean : α) (count : Nat) : α :=
  sumSquares / Scalar.ofNat count - mean * mean

namespace RunningState

/-- The summary of a state whose count is not zero. A variance below zero counts
as zero. -/
def summarize (s : RunningState α γ) : Option (Summary α) :=
  if s.isEmpty then none
  else
    let count := Counter.toNat s.count
    let mean := s.sum / Scalar.ofNat count
    let variance := populationVariance s.sumSquares mean count
    some
      { count := count, mean := mean, stddev := Scalar.sqrt (Scalar.atLeastZero variance)
        min := s.min, max := s.max }

theorem summarize_isSome (s : RunningState α γ) : s.summarize.isSome = !s.isEmpty := by
  unfold summarize
  cases s.isEmpty <;> rfl

end RunningState

end Timings
