import Timings.Proofs.Signed

/-!
# Sizes of results

Where only the order of magnitude of a result matters, its size in steps is enough
(`Double.size`). A short number, times a power of two, bounds a rounded number if it bounds
the exact one (`Pattern.units_nearest_le`, `Pattern.le_units_nearest`), and no number loses
more than half of itself (`Pattern.lt_two_mul_nearest`). So the sum of unsigned doubles is at
least each of them and at most their number times a bound of them (`sum_upTo`), and a quotient
by a count is no larger than the dividend (`Unsigned.div_count`) and not too small
(`Unsigned.le_size_div`).
-/

namespace Timings

/-! ## Bounds that survive rounding -/

namespace Pattern

variable {num den n k b : Nat}

/-- A number of at least one step is not rounded to less than half of it, unless it
overflows. -/
theorem lt_two_mul_nearest (positive : 0 < den) (some_step : den ≤ num)
    (finite : nearest num den < infinity) : num < 2 * units (nearest num den) * den := by
  obtain ⟨r, rounded, above, -⟩ := exists_rounded num den
  have kept : nearest num den = r := by omega
  have step : 0 < num / den := Nat.div_pos some_step positive
  have nonzero : below (num / den) ≠ 0 := by
    intro zero
    have upper := lt_units_below_succ (num / den)
    rw [zero] at upper
    exact absurd step (Nat.not_lt.2 (Nat.lt_succ_iff.1 upper))
  have upper : num / den < 2 * units (nearest num den) :=
    calc num / den < units (below (num / den) + 1) := lt_units_below_succ _
      _ ≤ 2 * units (below (num / den)) := units_succ_le nonzero
      _ ≤ 2 * units (nearest num den) := by
        rw [kept]
        exact Nat.mul_le_mul_left 2 (units_le_iff.2 above)
  exact (Nat.div_lt_iff_lt_mul positive).1 upper

/-- What is at most a short number is not rounded to more. -/
theorem units_nearest_le (positive : 0 < den) (short : n ≤ 2 ^ 53) (le : num ≤ n * 2 ^ k * den) :
    units (nearest num den) ≤ n * 2 ^ k := by
  obtain ⟨b, worth⟩ := exists_units short k
  rw [← worth] at le ⊢
  exact units_le_iff.2 (nearest_le positive le)

/-- What is at least a short number is not rounded to less. -/
theorem le_units_nearest (positive : 0 < den) (short : n ≤ 2 ^ 53)
    (finite : n * 2 ^ k ≤ units infinity) (le : n * 2 ^ k * den ≤ num) :
    n * 2 ^ k ≤ units (nearest num den) := by
  obtain ⟨b, worth⟩ := exists_units short k
  rw [← worth] at finite le ⊢
  exact units_le_iff.2 (le_nearest (units_le_iff.1 finite) positive le)

end Pattern

namespace Double

open Float.Model (Format UnpackedFloat)
open Pattern (infinity nearest toFloat units)

variable {x y : Float} {b c n k : Nat}

/-! ## Sizes -/

/-- How many steps a double is away from zero, if it is a number. -/
def size (x : Float) : Nat := units (Pattern.ofFloat x)

theorem natAbs_worth (x : Float) : (worth x).natAbs = size x := natAbs_steps _ _

theorem size_toFloat (negative : Bool) (within : b ≤ infinity) :
    size (toFloat negative b) = units b := by
  rw [← natAbs_worth, worth_toFloat negative within, natAbs_steps]

theorem Unsigned.worth_eq (unsigned : Unsigned x) : worth x = size x := by
  obtain ⟨b, within, rfl⟩ := unsigned
  rw [worth_toFloat false within, size_toFloat false within, steps_false]

theorem size_zero : size (Scalar.ofNat 0) = 0 := by decide +kernel

theorem isFinite_iff_size (number : x.isNaN = false) :
    x.isFinite = true ↔ size x < units infinity := by
  obtain ⟨negative, b, within, rfl⟩ := exists_toFloat number
  rw [size_toFloat negative within, Pattern.units_lt_iff]
  constructor
  · intro finite
    obtain ⟨negative', c, below, same⟩ := exists_toFloat_of_isFinite finite
    have same := congrArg size same
    rw [size_toFloat negative within, size_toFloat negative' below.le] at same
    have order := Pattern.units_lt_iff.2 below
    rw [← same] at order
    exact Pattern.units_lt_iff.1 order
  · exact isFinite_toFloat negative

theorem Unsigned.le_iff (unsigned : Unsigned x) (unsigned' : Unsigned y) :
    x ≤ y ↔ size x ≤ size y := by
  rw [le_iff_worth unsigned.isNaN unsigned'.isNaN, unsigned.worth_eq, unsigned'.worth_eq,
    Int.ofNat_le]

theorem Unsigned.less_iff (unsigned : Unsigned x) (unsigned' : Unsigned y) :
    Scalar.less x y = true ↔ size x < size y := by
  rw [less_iff_worth unsigned.isNaN unsigned'.isNaN, unsigned.worth_eq, unsigned'.worth_eq,
    Int.ofNat_lt]

/-- A short natural number is a double. -/
theorem ofNat_eq (short : n ≤ 2 ^ 53) :
    ∃ c < infinity, (Scalar.ofNat n : Float) = toFloat false c ∧ units c = n * stepsOfOne := by
  obtain ⟨c, finite, worth⟩ := Pattern.exists_units_eq short
  refine ⟨c, finite, ?_, worth⟩
  rw [ofNat_eq_nearest, ← worth, nearest_units finite.le]

/-! ## Sums and means -/

theorem Unsigned.size_add (unsigned : Unsigned x) (unsigned' : Unsigned y) :
    size (x + y) = units (nearest (size x + size y) 1) := by
  obtain ⟨b, within, rfl⟩ := unsigned
  obtain ⟨c, within', rfl⟩ := unsigned'
  rw [toFloat_add within within', size_toFloat false (Pattern.nearest_le_infinity _ _),
    size_toFloat false within, size_toFloat false within']

/-- A sum is at least each of two numbers. -/
theorem Unsigned.size_le_add (unsigned : Unsigned x) (unsigned' : Unsigned y) :
    size x ≤ size (x + y) ∧ size y ≤ size (x + y) := by
  obtain ⟨b, within, rfl⟩ := unsigned
  obtain ⟨c, within', rfl⟩ := unsigned'
  rw [toFloat_add within within', size_toFloat false (Pattern.nearest_le_infinity _ _),
    size_toFloat false within, size_toFloat false within', Pattern.units_le_iff,
    Pattern.units_le_iff]
  constructor
  · exact Pattern.le_nearest within Nat.one_pos (by omega)
  · exact Pattern.le_nearest within' Nat.one_pos (by omega)

/-- A number without a minus of at most so many steps. -/
structure UpTo (limit : Nat) (x : Float) : Prop where
  unsigned : Unsigned x
  size_le : size x ≤ limit

/-- Numbers added to a start that is at most so many times their limit. -/
theorem foldl_add_upTo {xs : List Float} {a : Float} {m : Nat} (start : UpTo (m * 2 ^ k) a)
    (each : ∀ x ∈ xs, UpTo (2 ^ k) x) (few : m + xs.length ≤ 2 ^ 53) :
    UpTo ((m + xs.length) * 2 ^ k) (xs.foldl (· + ·) a) ∧
      ∀ x ∈ a :: xs, size x ≤ size (xs.foldl (· + ·) a) := by
  induction xs generalizing a m with
  | nil =>
    refine ⟨start, fun x inside => ?_⟩
    rw [List.mem_singleton.1 inside, List.foldl_nil]
  | cons y ys ih =>
    have here := each y (List.mem_cons_self ..)
    rw [List.length_cons] at few
    have next : UpTo ((m + 1) * 2 ^ k) (a + y) := by
      refine ⟨start.unsigned.add here.unsigned, ?_⟩
      rw [start.unsigned.size_add here.unsigned]
      refine Pattern.units_nearest_le Nat.one_pos (by omega) ?_
      rw [Nat.mul_one, Nat.add_mul, Nat.one_mul]
      exact Nat.add_le_add start.size_le here.size_le
    obtain ⟨sum, bound⟩ := ih next (fun x inside => each x (List.mem_cons_of_mem y inside))
      (by omega)
    have first := start.unsigned.size_le_add here.unsigned
    have second := bound _ (List.mem_cons_self ..)
    have length : m + (y :: ys).length = m + 1 + ys.length := by
      rw [List.length_cons]
      omega
    rw [List.foldl_cons, length]
    refine ⟨sum, fun x inside => ?_⟩
    rcases List.mem_cons.1 inside with rfl | inside
    · exact first.1.trans second
    · rcases List.mem_cons.1 inside with rfl | inside
      · exact first.2.trans second
      · exact bound x (List.mem_cons_of_mem _ inside)

/-- **Sums.** A sum is at most the number of its summands times their limit, and at least
each of them. -/
theorem sum_upTo {xs : List Float} (each : ∀ x ∈ xs, UpTo (2 ^ k) x) (few : xs.length ≤ 2 ^ 53) :
    UpTo (xs.length * 2 ^ k) (Scalar.sum xs) ∧ ∀ x ∈ xs, size x ≤ size (Scalar.sum xs) := by
  cases xs with
  | nil =>
    refine ⟨⟨.zero, ?_⟩, nofun⟩
    rw [Scalar.sum, size_zero]
    exact Nat.zero_le _
  | cons x xs =>
    have start : UpTo (1 * 2 ^ k) x := by
      rw [Nat.one_mul]
      exact each x (List.mem_cons_self ..)
    rw [List.length_cons] at few ⊢
    rw [Nat.add_comm]
    exact foldl_add_upTo start (fun y inside => each y (List.mem_cons_of_mem x inside))
      (by omega)

/-- A quotient by a count has no minus, and it is no larger. -/
theorem Unsigned.div_count (unsigned : Unsigned x) (some_value : 0 < n) (word : n < 2 ^ 64) :
    UpTo (size x) (x / Scalar.ofNat n) := by
  obtain ⟨b, within, rfl⟩ := unsigned
  obtain ⟨q, less, quotient, -⟩ := exists_quotient_count false within some_value word
  rw [quotient]
  refine ⟨⟨q, less.trans within, rfl⟩, ?_⟩
  rw [size_toFloat false (less.trans within), size_toFloat false within]
  exact Pattern.units_le_iff.2 less

/-- A quotient by a short count is at least a short number if the dividend is at least so
many times this number. -/
theorem Unsigned.le_size_div {m : Nat} (unsigned : Unsigned x) (some_value : 0 < n)
    (short : n ≤ 2 ^ 53) (short' : m ≤ 2 ^ 53) (le : m * 2 ^ k * n ≤ size x) :
    m * 2 ^ k ≤ size (x / Scalar.ofNat n) := by
  obtain ⟨b, within, rfl⟩ := unsigned
  rw [size_toFloat false within] at le
  have limit : m * 2 ^ k ≤ units infinity :=
    calc m * 2 ^ k ≤ m * 2 ^ k * n := Nat.le_mul_of_pos_right _ some_value
      _ ≤ units b := le
      _ ≤ units infinity := Pattern.units_le_iff.2 within
  rcases Nat.lt_or_eq_of_le within with finite | rfl
  · obtain ⟨c, finite', count, worth⟩ := ofNat_eq short
    have positive : 0 < units c := worth ▸ Nat.mul_pos some_value stepsOfOne_pos
    have nonzero : c ≠ 0 := fun zero => positive.ne' (units_eq_zero_iff.2 zero)
    rw [count, toFloat_div false false finite finite' nonzero,
      size_toFloat _ (Pattern.nearest_le_infinity _ _)]
    refine Pattern.le_units_nearest positive short' limit ?_
    rw [worth, ← Nat.mul_assoc]
    exact Nat.mul_le_mul_right _ le
  · obtain ⟨q, -, quotient, infinite⟩ :=
      exists_quotient_count false (Nat.le_refl infinity) some_value (by omega : n < 2 ^ 64)
    rw [quotient, infinite rfl, size_toFloat false (Nat.le_refl _)]
    exact limit

/-! ## Whole parts -/

/-- The whole part of a number that fits a word. -/
theorem whole_toFloat (finite : b < infinity) (word : units b < 2 ^ 64 * stepsOfOne) :
    Scalar.whole (toFloat false b) = units b / stepsOfOne := by
  change ((toFloat false b).toModel.unpack).toUInt64.toNat = _
  rcases unpack_toFloat false finite with ⟨rfl, zero⟩ | ⟨m, e, pos, unpacked, canonical, whole⟩
  · rw [zero, units_zero, Nat.zero_div]
    rfl
  · have clamped {n : Nat} (fits : n < 2 ^ 64) : (UInt64.ofNatClamp n).toNat = n := by
      unfold UInt64.ofNatClamp
      rw [dif_pos fits]
      exact UInt64.toNat_ofNatLT
    have quotient : (UnpackedFloat.roundToInt .positive m ((e : Int) - 1074)).toNat =
        units b / stepsOfOne := by
      unfold UnpackedFloat.roundToInt UnpackedFloat.decreaseExponent UnpackedFloat.shiftToExponent
      dsimp only
      rw [mantissa_shiftRight, mantissa_ofMantissaAndAccuracy]
      generalize up : ((e : Int) - 1074 - 0).toNat = k
      generalize down : (0 - ((e : Int) - 1074 - k)).toNat = l
      have places := places_eq
      have left : k + (e - k) = e := by omega
      have dropped : l + (e - k) = Double.places := by omega
      change m <<< k / 2 ^ l = _
      rw [whole, units_canonical canonical, stepsOfOne, ← left, ← dropped, Nat.pow_add,
        Nat.pow_add, ← Nat.mul_assoc, Nat.mul_div_mul_right _ _ (Nat.two_pow_pos _),
        Nat.shiftLeft_eq]
    rw [unpacked]
    change (UInt64.ofNatClamp (UnpackedFloat.roundToInt .positive m ((e : Int) - 1074)).toNat).toNat
      = _
    rw [quotient, clamped ((Nat.div_lt_iff_lt_mul stepsOfOne_pos).2 word)]

end Double

end Timings
