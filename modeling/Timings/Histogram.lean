import Timings.Scalar

/-!
Density histograms with buckets of equal width.

The buckets divide the range of the samples. Every bucket holds its left edge,
the last one its right edge as well. Densities are scaled so that the area under
them is one.
-/

namespace Timings

/-- A density histogram. -/
structure Histogram (α : Type) where
  /-- The left edge of the first bucket. -/
  start : α
  /-- The width of each bucket. -/
  width : α
  /-- The number of samples in each bucket. -/
  counts : List Nat
  /-- The density in each bucket: its share of the samples by its width. -/
  densities : List α
deriving Repr

namespace Histogram

variable {α : Type} [Scalar α]

/-- The number of buckets a histogram has unless told otherwise. -/
def standardBuckets : Nat := 1000

/-- The range the buckets divide: from the least to the greatest sample, or one
unit around them if they are all equal, or the unit range if there are none. -/
def range (samples : List α) : α × α :=
  if samples.isEmpty then (Scalar.ofNat 0, Scalar.ofNat 1)
  else
    let low := samples.foldl Scalar.least Scalar.infinity
    let high := samples.foldl Scalar.greatest Scalar.negInfinity
    let half := Scalar.ofNat 1 / Scalar.ofNat 2
    if !Scalar.isNaN low && !Scalar.isNaN high && !Scalar.less low high && !Scalar.less high low
    then (low - half, high + half)
    else (low, high)

/-- The bucket of a sample, the last one for samples beyond it. -/
def bucketOf (low width : α) (buckets : Nat) (x : α) : Nat :=
  min (Scalar.whole ((x - low) / width)) (buckets - 1)

/-- How many samples fall into each of the buckets. -/
def countSamples (low width : α) (buckets : Nat) (samples : List α) : List Nat :=
  (samples.foldl (fun counts x => counts.modify (bucketOf low width buckets x) (· + 1))
    (Array.replicate buckets 0)).toList

/-- The density of a bucket with `count` of `total` samples. -/
def density (width : α) (total count : Nat) : α :=
  if total = 0 then Scalar.ofNat 0 else Scalar.ofNat count / (Scalar.ofNat total * width)

/-- The histogram of samples over a number of buckets, at least one. -/
def ofSamples (samples : List α) (buckets : Nat) : Histogram α :=
  let buckets := max buckets 1
  let (low, high) := range samples
  let width := (high - low) / Scalar.ofNat buckets
  let counts := countSamples low width buckets samples
  { start := low, width := width, counts := counts
    densities := counts.map (density width samples.length) }

/-- The right edge of the last bucket. -/
def stop (h : Histogram α) : α := h.start + h.width * Scalar.ofNat h.counts.length

omit [Scalar α] in
/-- The number of samples. -/
def total (h : Histogram α) : Nat := h.counts.sum

/-- Consecutive blocks of `size` elements, or of one if `size` is zero; the last
block may be shorter. -/
def blocks {β : Type} (size : Nat) (xs : List β) : List (List β) :=
  match xs with
  | [] => []
  | x :: xs => (x :: xs).take (max size 1) :: blocks size ((x :: xs).drop (max size 1))
termination_by xs.length
decreasing_by
  simp only [List.length_drop, List.length_cons]
  omega

/-- The mean of numbers. -/
def mean (xs : List α) : α := Scalar.sum xs / Scalar.ofNat xs.length

/-- The densities on at most so many columns, at least one: neighbouring buckets
are taken together in blocks of one size, each shown by its mean. -/
def onColumns (h : Histogram α) (columns : Nat) : List α :=
  let columns := max columns 1
  (blocks ((h.densities.length + columns - 1) / columns) h.densities).map mean

/-- The height of the tallest bar. -/
def tallest : Nat := 1000000

/-- The bars of a plot with at most so many columns: the highest column has the
tallest bar, the others are in proportion. Without a positive column all bars
are empty. -/
def bars (h : Histogram α) (columns : Nat) : List Nat :=
  let columns := h.onColumns columns
  let peak := columns.foldl Scalar.greatest (Scalar.ofNat 0)
  if Scalar.less (Scalar.ofNat 0) peak then
    columns.map fun d => Scalar.nearest (d / peak * Scalar.ofNat tallest)
  else columns.map fun _ => 0

end Histogram

end Timings
