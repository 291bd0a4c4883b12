import Timings.Counter

/-!
Finite maps listed in ascending order of their keys.

The order is part of the type: the entries of a `SortedMap` ascend strictly, so
no key occurs twice, enumeration is ascending by construction, and two maps with
the same entries are equal.
-/

namespace Timings

/-- A finite map, as the list of its entries in strictly ascending key order. -/
@[ext] structure SortedMap (κ ν : Type) [Ord κ] where
  entries : List (κ × ν)
  ascending : entries.Pairwise fun a b => compare a.1 b.1 = .lt

namespace SortedMap

variable {κ ν μ : Type} [Ord κ]

/-- The map without entries. -/
def empty : SortedMap κ ν := ⟨[], List.Pairwise.nil⟩

instance : Inhabited (SortedMap κ ν) := ⟨empty⟩

instance [DecidableEq κ] [DecidableEq ν] : DecidableEq (SortedMap κ ν) := fun m n =>
  decidable_of_iff (m.entries = n.entries) SortedMap.ext_iff.symm

/-- The number of keys. -/
def size (m : SortedMap κ ν) : Nat := m.entries.length

/-- Whether there are no keys. -/
def isEmpty (m : SortedMap κ ν) : Bool := m.entries.isEmpty

/-- The keys, ascending. -/
def keys (m : SortedMap κ ν) : List κ := m.entries.map (·.1)

/-- The values, in the order of their keys. -/
def values (m : SortedMap κ ν) : List ν := m.entries.map (·.2)

/-- The value behind a key in a list of entries. -/
def find? (k : κ) : List (κ × ν) → Option ν
  | [] => none
  | (k', v) :: rest => if compare k k' = .eq then some v else find? k rest

/-- The value behind a key. -/
def get? (m : SortedMap κ ν) (k : κ) : Option ν := find? k m.entries

/-- Replaces the value behind a key, or inserts the key at its place. -/
def alterEntries (k : κ) (f : Option ν → ν) : List (κ × ν) → List (κ × ν)
  | [] => [(k, f none)]
  | (k', v) :: rest =>
    match compare k k' with
    | .lt => (k, f none) :: (k', v) :: rest
    | .eq => (k', f (some v)) :: rest
    | .gt => (k', v) :: alterEntries k f rest

theorem mem_alterEntries {k : κ} {f : Option ν → ν} {entries : List (κ × ν)} {e : κ × ν}
    (h : e ∈ alterEntries k f entries) :
    (e.1 = k ∨ ∃ e' ∈ entries, e.1 = e'.1) := by
  induction entries with
  | nil =>
    simp only [alterEntries, List.mem_singleton] at h
    exact Or.inl (by rw [h])
  | cons head rest ih =>
    obtain ⟨k', v⟩ := head
    simp only [alterEntries] at h
    split at h
    · rcases List.mem_cons.1 h with rfl | h
      · exact Or.inl rfl
      · exact Or.inr ⟨e, h, rfl⟩
    · rcases List.mem_cons.1 h with rfl | h
      · exact Or.inr ⟨(k', v), List.mem_cons_self, rfl⟩
      · exact Or.inr ⟨e, List.mem_cons_of_mem _ h, rfl⟩
    · rcases List.mem_cons.1 h with rfl | h
      · exact Or.inr ⟨(k', v), List.mem_cons_self, rfl⟩
      · rcases ih h with same | ⟨e', mem, same⟩
        · exact Or.inl same
        · exact Or.inr ⟨e', List.mem_cons_of_mem _ mem, same⟩

theorem ascending_alterEntries [Std.TransOrd κ] {k : κ} {f : Option ν → ν}
    {entries : List (κ × ν)}
    (h : entries.Pairwise fun a b => compare a.1 b.1 = .lt) :
    (alterEntries k f entries).Pairwise fun a b => compare a.1 b.1 = .lt := by
  induction entries with
  | nil => exact List.pairwise_singleton _ _
  | cons head rest ih =>
    obtain ⟨k', v⟩ := head
    obtain ⟨above, tail⟩ := List.pairwise_cons.1 h
    simp only [alterEntries]
    split
    · rename_i less
      refine List.pairwise_cons.2 ⟨fun e mem => ?_, h⟩
      rcases List.mem_cons.1 mem with rfl | mem
      · exact less
      · exact Std.TransCmp.lt_trans less (above e mem)
    · exact List.pairwise_cons.2 ⟨above, tail⟩
    · rename_i greater
      refine List.pairwise_cons.2 ⟨fun e mem => ?_, ih tail⟩
      rcases mem_alterEntries mem with same | ⟨e', mem', same⟩
      · rw [same]; exact Std.OrientedCmp.lt_of_gt greater
      · rw [same]; exact above e' mem'

/-- Replaces the value behind a key by `f` of it, `f none` for a new key. -/
def alter [Std.TransOrd κ] (m : SortedMap κ ν) (k : κ) (f : Option ν → ν) : SortedMap κ ν :=
  ⟨alterEntries k f m.entries, ascending_alterEntries m.ascending⟩

/-- Sets the value behind a key. -/
def insert [Std.TransOrd κ] (m : SortedMap κ ν) (k : κ) (v : ν) : SortedMap κ ν :=
  m.alter k fun _ => v

/-- The map with these entries, a later entry replacing an earlier one of the
same key. -/
def ofList [Std.TransOrd κ] (entries : List (κ × ν)) : SortedMap κ ν :=
  entries.foldl (fun m e => m.insert e.1 e.2) empty

/-- The map without a key. -/
def erase (m : SortedMap κ ν) (k : κ) : SortedMap κ ν :=
  ⟨m.entries.filter fun e => compare k e.1 != .eq, m.ascending.filter _⟩

/-- Keeps the entries to which `f` gives a new value. -/
def filterMap (f : ν → Option μ) (m : SortedMap κ ν) : SortedMap κ μ where
  entries := m.entries.filterMap fun e => (f e.2).map fun v => (e.1, v)
  ascending := by
    refine List.pairwise_filterMap.2 (m.ascending.imp fun h b hb c hc => ?_)
    obtain ⟨_, _, rfl⟩ := Option.map_eq_some_iff.1 hb
    obtain ⟨_, _, rfl⟩ := Option.map_eq_some_iff.1 hc
    exact h

/-- Changes every value. -/
def map (f : ν → μ) (m : SortedMap κ ν) : SortedMap κ μ where
  entries := m.entries.map fun e => (e.1, f e.2)
  ascending := List.pairwise_map.2 m.ascending

/-! ## Looking up -/

theorem find?_cons (k key : κ) (v : ν) (rest : List (κ × ν)) :
    find? k ((key, v) :: rest) = if compare k key = .eq then some v else find? k rest := rfl

theorem find?_eq_none_of_above [Std.TransOrd κ] {k : κ} {entries : List (κ × ν)}
    (above : ∀ e ∈ entries, compare k e.1 = .lt) : find? k entries = none := by
  induction entries with
  | nil => rfl
  | cons head rest ih =>
    simp only [find?, above head List.mem_cons_self, reduceCtorEq, if_false]
    exact ih fun e mem => above e (List.mem_cons_of_mem _ mem)

theorem find?_alterEntries [Std.TransOrd κ] {k k' : κ} {f : Option ν → ν}
    {entries : List (κ × ν)} (h : entries.Pairwise fun a b => compare a.1 b.1 = .lt) :
    find? k' (alterEntries k f entries) =
      if compare k' k = .eq then some (f (find? k entries)) else find? k' entries := by
  induction entries with
  | nil => simp [alterEntries, find?]
  | cons head rest ih =>
    obtain ⟨key, v⟩ := head
    obtain ⟨above, tail⟩ := List.pairwise_cons.1 h
    simp only [alterEntries]
    split
    · rename_i less
      have absent : find? k ((key, v) :: rest) = none := by
        refine find?_eq_none_of_above fun e mem => ?_
        rcases List.mem_cons.1 mem with rfl | mem
        · exact less
        · exact Std.TransCmp.lt_trans less (above e mem)
      rw [absent, find?_cons]
    · rename_i same
      have swap : compare k' k = compare k' key := Std.TransCmp.congr_right same
      simp only [find?, swap, same, if_true]
      split <;> rfl
    · rename_i greater
      have differs : compare k key ≠ .eq := by rw [greater]; decide
      rw [find?_cons, find?_cons, find?_cons, ih tail, if_neg differs]
      split
      · rename_i same'
        rw [if_neg]
        intro same
        exact differs (Std.TransCmp.eq_trans (Std.OrientedCmp.eq_symm same) same')
      · rfl

theorem find?_filter_ne [Std.TransOrd κ] {k k' : κ} (entries : List (κ × ν)) :
    find? k' (entries.filter fun e => compare k e.1 != .eq) =
      if compare k' k = .eq then none else find? k' entries := by
  induction entries with
  | nil => simp [find?]
  | cons head rest ih =>
    obtain ⟨key, v⟩ := head
    by_cases same : compare k key = .eq
    · have swap : compare k' k = compare k' key := Std.TransCmp.congr_right same
      rw [List.filter_cons_of_neg (by simp [same]), ih, find?_cons, swap]
      split <;> rfl
    · rw [List.filter_cons_of_pos (by simpa using same), find?_cons, find?_cons, ih]
      split
      · rename_i same'
        rw [if_neg]
        intro same''
        exact same (Std.TransCmp.eq_trans (Std.OrientedCmp.eq_symm same'') same')
      · rfl

theorem get?_empty (k : κ) : (empty : SortedMap κ ν).get? k = none := rfl

/-- The value behind a key after the one behind a key was replaced. -/
theorem get?_alter [Std.TransOrd κ] (m : SortedMap κ ν) (k k' : κ) (f : Option ν → ν) :
    (m.alter k f).get? k' = if compare k' k = .eq then some (f (m.get? k)) else m.get? k' :=
  find?_alterEntries m.ascending

/-- The value behind a key after the one behind a key was set. -/
theorem get?_insert [Std.TransOrd κ] (m : SortedMap κ ν) (k k' : κ) (v : ν) :
    (m.insert k v).get? k' = if compare k' k = .eq then some v else m.get? k' :=
  m.get?_alter k k' fun _ => v

/-- The value behind a key after a key was taken out. -/
theorem get?_erase [Std.TransOrd κ] (m : SortedMap κ ν) (k k' : κ) :
    (m.erase k).get? k' = if compare k' k = .eq then none else m.get? k' :=
  find?_filter_ne m.entries

end SortedMap

end Timings
