/-!
Natural numbers, and what counts like them.

Other libraries bring instances of their own for the power of a number and for
the zero that a sum of a list starts from. The instances chosen here are those of
the core language, and stay so wherever this library is imported.

Values are counted with a `Counter`. Natural numbers count without end, words come
back to zero behind the largest one. What is said of a counter without naming it
holds of both.
-/

namespace Timings

attribute [instance (high)] instPowNat
attribute [default_instance 10001] instPowNat

/-- The zero of a sum is the numeral. -/
instance (priority := high) naturalZero : Zero Nat := Zero.ofOfNat0

/-- What values are counted with. -/
class Counter (γ : Type) where
  zero : γ
  /-- One more. -/
  next : γ → γ
  add : γ → γ → γ
  /-- The number that is shown. -/
  toNat : γ → Nat
  zero_add : ∀ n, add zero n = n
  next_add : ∀ m n, add (next m) n = next (add m n)
  add_assoc : ∀ l m n, add (add l m) n = add l (add m n)

namespace Counter

/-- Where nothing else is said, values are counted with natural numbers. -/
@[default_instance] instance naturals : Counter Nat where
  zero := 0
  next n := n + 1
  add m n := m + n
  toNat n := n
  zero_add := Nat.zero_add
  next_add := Nat.succ_add
  add_assoc := Nat.add_assoc

@[simp] theorem toNat_natural (n : Nat) : toNat n = n := rfl

/-- A running program counts with words. -/
instance words : Counter UInt64 where
  zero := 0
  next n := n + 1
  add m n := m + n
  toNat n := n.toNat
  zero_add := UInt64.zero_add
  next_add _ _ := by rw [UInt64.add_assoc, UInt64.add_comm 1, UInt64.add_assoc]
  add_assoc := UInt64.add_assoc

variable {γ : Type} [Counter γ]

/-- All of some counters together. -/
def sum (counters : List γ) : γ := counters.foldr add zero

theorem sum_naturals (counts : List Nat) : sum counts = counts.sum := rfl

theorem sum_append (xs ys : List γ) : sum (xs ++ ys) = add (sum xs) (sum ys) := by
  induction xs with
  | nil => exact (zero_add _).symm
  | cons x xs ih =>
    have step : sum (x :: xs ++ ys) = add x (sum (xs ++ ys)) := rfl
    rw [step, ih]
    exact (add_assoc ..).symm

/-- A counter that has counted so many. -/
def ofNat : Nat → γ
  | 0 => zero
  | n + 1 => next (ofNat n)

theorem ofNat_add (m n : Nat) : (ofNat (m + n) : γ) = add (ofNat m) (ofNat n) := by
  induction m with
  | zero =>
    rw [Nat.zero_add]
    exact (zero_add _).symm
  | succ m ih =>
    rw [Nat.succ_add, ofNat, ofNat, ih, next_add]

theorem ofNat_sum (counts : List Nat) : ofNat counts.sum = sum (counts.map (ofNat : Nat → γ)) := by
  induction counts with
  | nil => rfl
  | cons count counts ih =>
    rw [List.sum_cons, ofNat_add, ih]
    rfl

/-- A word shows what it has counted modulo the number of words. -/
theorem toNat_ofNat_word (n : Nat) : toNat (ofNat n : UInt64) = n % 2 ^ 64 := by
  induction n with
  | zero => rfl
  | succ n ih =>
    have step : toNat (ofNat (n + 1) : UInt64) = (ofNat n + 1 : UInt64).toNat := rfl
    have before : (ofNat n : UInt64).toNat = n % 2 ^ 64 := ih
    rw [step, UInt64.toNat_add, before]
    exact Nat.mod_add_mod ..

end Counter

end Timings
