import Timings.SortedMap

/-!
Sorted maps are determined by their lookups.

`SortedMap.ext_get?` is the main statement: two maps that answer alike for every
key have the same entries in the same order, so an equation between maps is an
equation between lookups. The lookups of `map`, of `filterMap` and of a fold of
`alter` over the entries of another map are given here, and `sum_values_alter`
says what a change behind one key does to a sum over all values.
-/

namespace Timings.SortedMap

variable {κ ν μ : Type} [Ord κ]

/-! ## Entries and lookups -/

theorem find?_eq_some_iff [Std.TransOrd κ] [Std.LawfulEqOrd κ] {k : κ} {v : ν}
    {entries : List (κ × ν)}
    (ascending : entries.Pairwise fun a b => compare a.1 b.1 = .lt) :
    find? k entries = some v ↔ (k, v) ∈ entries := by
  induction entries with
  | nil => simp [find?]
  | cons head rest ih =>
      obtain ⟨key, value⟩ := head
      obtain ⟨above, tail⟩ := List.pairwise_cons.1 ascending
      rw [find?_cons, List.mem_cons]
      by_cases same : compare k key = .eq
      · have keyEq : k = key := Std.LawfulEqCmp.eq_of_compare same
        subst keyEq
        rw [if_pos same]
        constructor
        · intro found
          cases found
          exact Or.inl rfl
        · rintro (here | later)
          · cases here
            rfl
          · have less : compare k k = .lt := above (k, v) later
            rw [same] at less
            cases less
      · rw [if_neg same, ih tail]
        constructor
        · exact Or.inr
        · rintro (here | later)
          · cases here
            exact absurd Std.ReflCmp.compare_self same
          · exact later

/-- The value behind a key is the one that stands with it in the list. -/
theorem get?_eq_some_iff [Std.TransOrd κ] [Std.LawfulEqOrd κ] {m : SortedMap κ ν} {k : κ}
    {v : ν} : m.get? k = some v ↔ (k, v) ∈ m.entries :=
  find?_eq_some_iff m.ascending

theorem mem_keys_iff [Std.TransOrd κ] [Std.LawfulEqOrd κ] {m : SortedMap κ ν} {k : κ} :
    k ∈ m.keys ↔ ∃ v, m.get? k = some v := by
  unfold keys
  rw [List.mem_map]
  constructor
  · rintro ⟨⟨key, v⟩, member, same⟩
    cases same
    exact ⟨v, get?_eq_some_iff.2 member⟩
  · rintro ⟨v, found⟩
    exact ⟨(k, v), get?_eq_some_iff.1 found, rfl⟩

theorem nodup_entries [Std.TransOrd κ] (m : SortedMap κ ν) : m.entries.Nodup := by
  refine m.ascending.imp ?_
  intro a b less same
  subst same
  have self : compare a.1 a.1 = .eq := Std.ReflCmp.compare_self
  rw [self] at less
  cases less

/-- Maps with the same value behind every key are equal. -/
theorem ext_get? [Std.TransOrd κ] [Std.LawfulEqOrd κ] {m n : SortedMap κ ν}
    (same : ∀ k, m.get? k = n.get? k) : m = n := by
  have members : ∀ e, e ∈ m.entries ↔ e ∈ n.entries := by
    rintro ⟨k, v⟩
    rw [← get?_eq_some_iff, ← get?_eq_some_iff, same k]
  have perm : m.entries.Perm n.entries :=
    (List.perm_ext_iff_of_nodup m.nodup_entries n.nodup_entries).2 members
  apply SortedMap.ext
  refine perm.eq_of_pairwise ?_ m.ascending n.ascending
  intro a b _ _ less greater
  rw [Std.OrientedCmp.gt_of_lt less] at greater
  cases greater

theorem isEmpty_eq_false_iff [Std.TransOrd κ] [Std.LawfulEqOrd κ] {m : SortedMap κ ν} :
    m.isEmpty = false ↔ ∃ k v, m.get? k = some v := by
  rw [isEmpty, List.isEmpty_eq_false_iff_exists_mem]
  constructor
  · rintro ⟨⟨k, v⟩, member⟩
    exact ⟨k, v, get?_eq_some_iff.2 member⟩
  · rintro ⟨k, v, found⟩
    exact ⟨(k, v), get?_eq_some_iff.1 found⟩

/-! ## Lookups in derived maps -/

theorem get?_getD_empty (m? : Option (SortedMap κ ν)) (k : κ) :
    (m?.getD .empty).get? k = m?.bind fun m => m.get? k := by
  cases m? <;> rfl

theorem get?_filterMap [Std.TransOrd κ] [Std.LawfulEqOrd κ] (f : ν → Option μ)
    (m : SortedMap κ ν) (k : κ) : (m.filterMap f).get? k = (m.get? k).bind f := by
  apply Option.ext
  intro w
  rw [get?_eq_some_iff, Option.bind_eq_some_iff]
  simp only [filterMap, List.mem_filterMap, Option.map_eq_some_iff]
  constructor
  · rintro ⟨⟨key, v⟩, member, w', image, same⟩
    cases same
    exact ⟨v, get?_eq_some_iff.2 member, image⟩
  · rintro ⟨v, found, image⟩
    exact ⟨(k, v), get?_eq_some_iff.1 found, w, image, rfl⟩

theorem map_eq_filterMap (f : ν → μ) (m : SortedMap κ ν) :
    m.map f = m.filterMap fun v => some (f v) := by
  apply SortedMap.ext
  simp only [map, filterMap, Option.map_some]
  rw [← List.filterMap_eq_map]
  rfl

theorem get?_map [Std.TransOrd κ] [Std.LawfulEqOrd κ] (f : ν → μ) (m : SortedMap κ ν) (k : κ) :
    (m.map f).get? k = (m.get? k).map f := by
  rw [map_eq_filterMap, get?_filterMap]
  cases m.get? k <;> rfl

/-- Maps with something behind the same keys have the same keys. -/
theorem keys_eq_of_isSome [Std.TransOrd κ] [Std.LawfulEqOrd κ] {m : SortedMap κ ν}
    {n : SortedMap κ μ}
    (same : ∀ k, (m.get? k).isSome = (n.get? k).isSome) : m.keys = n.keys := by
  -- the keys are those of the maps with nothing behind them
  have bare : (m.map fun _ => ()) = n.map fun _ => () := by
    apply ext_get?
    intro k
    have here := same k
    rw [get?_map, get?_map]
    revert here
    cases m.get? k <;> cases n.get? k <;> simp
  have keys := congrArg SortedMap.keys bare
  simp only [SortedMap.keys, SortedMap.map, List.map_map] at keys
  exact keys

/-- Altering a map at each entry of another one alters it behind the keys of that
map, and behind each of them once. -/
theorem get?_foldl_alter [Std.TransOrd κ] [Std.LawfulEqOrd κ] (f : μ → Option ν → ν)
    (m : SortedMap κ ν) (n : SortedMap κ μ) (k : κ) :
    (n.entries.foldl (fun m e => m.alter e.1 (f e.2)) m).get? k =
      match n.get? k with
      | none => m.get? k
      | some w => some (f w (m.get? k)) := by
  obtain ⟨entries, ascending⟩ := n
  simp only [get?]
  -- only the map that is altered changes along the fold
  induction entries generalizing m with
  | nil => rfl
  | cons head rest ih =>
      obtain ⟨key, w⟩ := head
      obtain ⟨above, tail⟩ := List.pairwise_cons.1 ascending
      rw [List.foldl_cons, ih _ tail, find?_cons]
      have altered := get?_alter m key k (f w)
      simp only [get?] at altered
      rw [altered]
      by_cases same : compare k key = .eq
      · have keyEq : k = key := Std.LawfulEqCmp.eq_of_compare same
        subst keyEq
        rw [find?_eq_none_of_above above, if_pos same, if_pos same]
      · rw [if_neg same, if_neg same]

/-! ## Sums over the values -/

/-- A sum over all values changes by what changes behind the altered key. -/
theorem sum_values_alter [Std.TransOrd κ] (weight : ν → Nat) (m : SortedMap κ ν) (k : κ)
    (f : Option ν → ν) :
    ((m.alter k f).values.map weight).sum + ((m.get? k).map weight).getD 0 =
      (m.values.map weight).sum + weight (f (m.get? k)) := by
  obtain ⟨entries, ascending⟩ := m
  simp only [alter, values, get?]
  induction entries with
  | nil => simp [alterEntries, find?]
  | cons head rest ih =>
      obtain ⟨key, v⟩ := head
      obtain ⟨above, tail⟩ := List.pairwise_cons.1 ascending
      simp only [alterEntries]
      -- the key stands in front of this entry, is the one of it, or belongs further back
      split
      · rename_i less
        have absent : find? k ((key, v) :: rest) = none := by
          refine find?_eq_none_of_above ?_
          intro e member
          rcases List.mem_cons.1 member with rfl | later
          · exact less
          · exact Std.TransCmp.lt_trans less (above e later)
        rw [absent]
        simp only [List.map_cons, List.sum_cons, Option.map_none, Option.getD_none]
        omega
      · rename_i same
        rw [find?_cons, if_pos same]
        simp only [List.map_cons, List.sum_cons, Option.map_some, Option.getD_some]
        omega
      · rename_i greater
        have differs : compare k key ≠ .eq := by
          rw [greater]
          decide
        have rest := ih tail
        rw [find?_cons, if_neg differs]
        simp only [List.map_cons, List.sum_cons] at rest ⊢
        omega

end Timings.SortedMap
