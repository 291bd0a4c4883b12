import Timings.Histogram

/-!
# Blocks of densities

A plot with fewer columns than densities shows them in blocks: consecutive ones, all of one
size but the last, which may be shorter. How many blocks there are follows from their size
up to less than one block (`length_blocks_bounds`). So the least size for which the blocks
fit on the columns leaves less than half of the columns free (`cutInto_blocks`).
-/

namespace Timings.Histogram

variable {β : Type} {n most : Nat} {xs block : List β}

/-! ## The blocks of one size -/

theorem flatten_blocks (n : Nat) (xs : List β) : (blocks n xs).flatten = xs := by
  fun_induction blocks n xs with
  | case1 => rfl
  | case2 x xs ih => rw [List.flatten_cons, ih, List.take_append_drop]

theorem ne_nil_of_mem_blocks (inside : block ∈ blocks n xs) : block ≠ [] := by
  fun_induction blocks n xs with
  | case1 => cases inside
  | case2 x xs ih =>
    rcases List.mem_cons.1 inside with rfl | later
    · have some_element : max n 1 ≠ 0 := by omega
      exact fun empty => (List.take_eq_nil_iff.1 empty).elim some_element (List.cons_ne_nil _ _)
    · exact ih later

/-- A block is made of elements of the list, and it is no longer. -/
theorem sublist_of_mem_blocks (inside : block ∈ blocks n xs) : block.Sublist xs := by
  have whole := List.sublist_flatten_of_mem inside
  rwa [flatten_blocks] at whole

theorem length_le_of_mem_blocks (inside : block ∈ blocks n xs) : block.length ≤ max n 1 := by
  fun_induction blocks n xs with
  | case1 => cases inside
  | case2 x xs ih =>
    rcases List.mem_cons.1 inside with rfl | later
    · exact List.length_take_le ..
    · exact ih later

/-- Only the last block may be shorter than the others. -/
theorem length_of_mem_dropLast_blocks (inside : block ∈ (blocks n xs).dropLast) :
    block.length = max n 1 := by
  fun_induction blocks n xs with
  | case1 => cases inside
  | case2 x xs ih =>
    cases rest : blocks n ((x :: xs).drop (max n 1)) with
    | nil =>
      rw [rest] at inside
      cases inside
    | cons next others =>
      rw [rest, List.dropLast_cons_cons] at inside
      rcases List.mem_cons.1 inside with rfl | later
      · -- a block follows, so enough elements were left for this one
        have behind : (x :: xs).drop (max n 1) ≠ [] := by
          intro nothing
          rw [nothing, blocks] at rest
          cases rest
        have enough := List.length_pos_iff.2 behind
        rw [List.length_drop] at enough
        rw [List.length_take]
        omega
      · rw [rest] at ih
        exact ih later

/-- The blocks hold all elements, and with one block less they would not. -/
theorem length_blocks_bounds (n : Nat) (xs : List β) :
    xs.length ≤ (blocks n xs).length * max n 1 ∧
      (blocks n xs).length * max n 1 < xs.length + max n 1 := by
  fun_induction blocks n xs with
  | case1 =>
    rw [List.length_nil, List.length_nil, Nat.zero_mul]
    omega
  | case2 x xs ih =>
    have first : 0 < (x :: xs).length := Nat.succ_pos _
    change (x :: xs).length ≤ ((blocks n _).length + 1) * max n 1 ∧
      ((blocks n _).length + 1) * max n 1 < (x :: xs).length + max n 1
    rw [Nat.succ_mul]
    rcases Nat.lt_or_ge (max n 1) (x :: xs).length with more | last
    · rw [List.length_drop] at ih
      omega
    · rw [List.drop_eq_nil_of_le last, blocks, List.length_nil, Nat.zero_mul]
      omega

/-- Blocks of one element. -/
theorem blocks_of_le_one (one : n ≤ 1) (xs : List β) : blocks n xs = xs.map fun x => [x] := by
  have size : max n 1 = 1 := Nat.max_eq_right one
  fun_induction blocks n xs with
  | case1 => rfl
  | case2 x xs ih =>
    rw [size] at ih ⊢
    rw [ih]
    rfl

theorem blocks_map {γ : Type} (f : β → γ) (n : Nat) (xs : List β) :
    blocks n (xs.map f) = (blocks n xs).map (List.map f) := by
  fun_induction blocks n xs with
  | case1 => rw [List.map_nil, blocks, List.map_nil]
  | case2 x xs ih =>
    rw [List.map_cons, blocks, List.map_cons, ← ih, List.map_take, List.map_drop, List.map_cons]

/-! ## Blocks for so many columns -/

/-- A list cut into consecutive blocks, all of one size but the last, for so many columns: one
element for each block if there are columns enough, or else as many blocks as fill more than
half of the columns. -/
structure CutInto (most : Nat) (xs : List β) (parts : List (List β)) : Prop where
  flatten : parts.flatten = xs
  nonempty : ∀ part ∈ parts, part ≠ []
  one_size : ∃ size, (∀ part ∈ parts.dropLast, part.length = size) ∧
    ∀ part ∈ parts, part.length ≤ size
  alone : xs.length ≤ most → parts = xs.map fun x => [x]
  fills : most < xs.length → parts.length ≤ most ∧ most < 2 * parts.length

/-- The size for which the blocks fit is the number of elements by the columns, rounded up. -/
theorem size_bounds (some_column : 0 < most) (count : Nat) :
    count ≤ (count + most - 1) / most * most ∧ (count + most - 1) / most * most < count + most := by
  have low := Nat.lt_mul_div_succ (count + most - 1) some_column
  have high := Nat.div_mul_le_self (count + most - 1) most
  rw [Nat.mul_succ, Nat.mul_comm] at low
  omega

theorem cutInto_blocks (some_column : 0 < most) (xs : List β) :
    CutInto most xs (blocks ((xs.length + most - 1) / most) xs) := by
  obtain ⟨all, least⟩ := size_bounds some_column xs.length
  generalize (xs.length + most - 1) / most = size at all least
  refine ⟨flatten_blocks _ _, fun _ => ne_nil_of_mem_blocks, ⟨max size 1,
    fun _ => length_of_mem_dropLast_blocks, fun _ => length_le_of_mem_blocks⟩, ?_, ?_⟩
  · intro enough
    refine blocks_of_le_one (Nat.le_of_not_lt fun more => ?_) xs
    have twice : 2 * most ≤ size * most := Nat.mul_le_mul_right _ more
    omega
  · intro fewer
    have positive : 0 < size := by
      apply Nat.pos_of_ne_zero
      rintro rfl
      omega
    obtain ⟨hold, close⟩ := length_blocks_bounds size xs
    rw [Nat.max_eq_left positive] at hold close
    generalize (blocks size xs).length = blocks at hold close
    constructor
    · have below : blocks * size < (most + 1) * size := by
        rw [Nat.succ_mul, Nat.mul_comm most]
        omega
      exact Nat.le_of_lt_succ (Nat.lt_of_mul_lt_mul_right below)
    · -- on half of the columns the blocks would hold fewer elements than there are columns
      refine Nat.lt_of_not_le fun half => ?_
      have room : 2 * blocks * size ≤ most * size := Nat.mul_le_mul_right _ half
      rw [Nat.mul_assoc, Nat.mul_comm most] at room
      omega

end Timings.Histogram
