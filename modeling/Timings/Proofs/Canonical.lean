import Timings.Proofs.Accepted
import Timings.Proofs.Analyses
import Timings.Proofs.Labels
import Timings.Proofs.Spelling

/-!
# Labels and the texts they stand for

Which texts are integers is said by a grammar (`SpellsInteger`): a sign or none, then digits.
The reader accepts these and no others (`integer?_eq_some_iff`), so two texts have one label
exactly if they are equal or spell one integer that is in range (`parse_eq_parse_iff`).

A label of a text is told by what is shown of it (`parse_inj_display`). The keys of a report
are such labels, in strictly ascending order, so its rows have different labels
(`nodup_labels`). `labels_are_canonical` is all of this, with the order.
-/

namespace Timings

/-! ## A strict order -/

/-- A lawful comparison is a strict total order. -/
theorem isStrictTotalOrder_compare (α : Type) [Ord α] [Std.TransOrd α] [Std.LawfulEqOrd α] :
    IsStrictTotalOrder α fun a b => compare a b = .lt where
  trichotomous a b notLess notGreater := by
    cases compared : compare a b with
    | lt => exact absurd compared notLess
    | eq => exact Std.LawfulEqCmp.eq_of_compare compared
    | gt => exact absurd (Std.OrientedCmp.gt_iff_lt.1 compared) notGreater
  irrefl a less := by
    have self : compare a a = .eq := Std.ReflCmp.compare_self
    rw [self] at less
    cases less
  trans _ _ _ := Std.TransCmp.lt_trans

namespace Label

open Json (IsDigits)
open Literal (SpellsSign digitsValue splitSign)

/-! ## Texts that spell integers -/

/-- An integer in decimal digits, behind a sign or none. Zeros may stand in front. -/
inductive SpellsInteger : List Char → Int → Prop
  | mk {sign ds : List Char} {negative : Bool} (signed : SpellsSign sign negative)
      (digits : IsDigits ds) :
    SpellsInteger (sign ++ ds) (if negative then -(digitsValue ds : Int) else digitsValue ds)

theorem integer?_eq (cs : List Char) :
    integer? cs =
      if (splitSign cs).2.isEmpty ∨ (splitSign cs).2.any (!·.isDigit) then none
      else some (if (splitSign cs).1 then -(digitsValue (splitSign cs).2 : Int)
        else digitsValue (splitSign cs).2) := rfl

theorem isDigits_iff {ds : List Char} :
    IsDigits ds ↔ ¬(ds.isEmpty = true ∨ ds.any (!·.isDigit) = true) := by
  simp [IsDigits, Json.AllDigits]

theorem integer?_eq_some_iff {cs : List Char} {n : Int} :
    integer? cs = some n ↔ SpellsInteger cs n := by
  constructor
  · intro read
    obtain ⟨sign, signed, same⟩ := Literal.exists_splitSign cs
    rw [integer?_eq] at read
    split at read
    · cases read
    · rename_i digits
      rw [same, ← Option.some.inj read]
      exact .mk signed (isDigits_iff.2 digits)
  · intro spelled
    cases spelled with
    | @mk sign ds negative signed digits =>
        have unsigned : ∀ c ∈ ds.head?, c ≠ '-' ∧ c ≠ '+' := by
          intro c head
          have digit := digits.2 c (List.mem_of_mem_head? head)
          exact ⟨Json.ne_of_isDigit digit rfl, Json.ne_of_isDigit digit rfl⟩
        rw [integer?_eq, Literal.splitSign_append signed unsigned,
          if_neg (isDigits_iff.1 digits)]

/-- The integer that a text spells is one only. -/
theorem SpellsInteger.unique {cs : List Char} {m n : Int} (spelled : SpellsInteger cs m)
    (spelled' : SpellsInteger cs n) : m = n :=
  Option.some.inj ((integer?_eq_some_iff.2 spelled).symm.trans (integer?_eq_some_iff.2 spelled'))

/-! ## Labels of texts -/

theorem inRange_iff {n : Int} : inRange n = true ↔ -(2 ^ 63) ≤ n ∧ n < 2 ^ 63 :=
  decide_eq_true_iff

theorem parse_eq_number_iff {raw : String} {n : Int} :
    parse raw = .number n ↔ SpellsInteger raw.toList n ∧ -(2 ^ 63) ≤ n ∧ n < 2 ^ 63 := by
  rw [← integer?_eq_some_iff, ← inRange_iff]
  constructor
  · intro number
    rcases parse_eq_text_or_number raw with text | ⟨m, spelled, ranged, number'⟩
    · rw [text] at number
      cases number
    · rw [number'] at number
      cases number
      exact ⟨spelled, ranged⟩
  · rintro ⟨spelled, ranged⟩
    rw [parse, spelled]
    exact if_pos ranged

/-- Two texts have one label if they are equal, or spell one integer that is in range. -/
theorem parse_eq_parse_iff {s t : String} :
    parse s = parse t ↔ s = t ∨ ∃ n, SpellsInteger s.toList n ∧ SpellsInteger t.toList n ∧
      -(2 ^ 63) ≤ n ∧ n < 2 ^ 63 := by
  constructor
  · intro same
    rcases parse_eq_text_or_number s with text | ⟨n, -, -, number⟩
    · rcases parse_eq_text_or_number t with text' | ⟨n, -, -, number⟩
      · rw [text, text'] at same
        exact .inl (Label.text.inj same)
      · rw [text, number] at same
        cases same
    · obtain ⟨spelled, ranged⟩ := parse_eq_number_iff.1 number
      exact .inr ⟨n, spelled, (parse_eq_number_iff.1 (same ▸ number)).1, ranged⟩
  · rintro (rfl | ⟨n, spelled, spelled', ranged⟩)
    · rfl
    · rw [parse_eq_number_iff.2 ⟨spelled, ranged⟩, parse_eq_number_iff.2 ⟨spelled', ranged⟩]

example : parse "-007" = parse "-7" ∧ parse "-0" = .number 0 ∧ parse "+-1" = .text "+-1" ∧
    parse "-9223372036854775808" = .number (-2 ^ 63) ∧
    parse "9223372036854775808" = .text "9223372036854775808" := by decide +kernel

/-- A label of a text is told by what is shown of it. -/
theorem parse_inj_display {key other : Label} (parsed : ∃ raw, parse raw = key)
    (parsed' : ∃ raw, parse raw = other) (shown : key.display = other.display) : key = other := by
  rw [← exists_parse_iff.1 parsed, shown, exists_parse_iff.1 parsed']

end Label

/-! ## Rows of a report -/

namespace Analysis

variable {format : ColumnFormat} {source : Source} {a : Analysis LabelSummaries}

/-- Every key of an analysis is the label of some text. -/
theorem exists_parse_of_mem_entries (analysed : byLabel format source = .ok a) :
    ∀ e ∈ a.result.entries, ∃ raw, Label.parse raw = e.1 := by
  intro e inside
  obtain ⟨items, rfl, accepted⟩ := (isFold_byLabel format).exists_items analysed
  have groups := Aggregate.groups_finalize (items.map fun o => (o.key, o.value))
  rw [← foldl_observe_label] at groups
  obtain ⟨v, occurs, same⟩ :=
    List.mem_map.1 ((groups.mem_keys_iff e.1).1 (List.mem_map_of_mem inside))
  obtain ⟨o, member, rfl⟩ := List.mem_map.1 occurs
  obtain ⟨text, number, parsed⟩ := accepted o member
  obtain ⟨key, -, -, -, known, -⟩ := Line.labelled_eq_ok_iff.1 parsed
  exact ⟨_, known.trans same⟩

/-- The rows of a report have different labels. -/
theorem nodup_labels (analysed : byLabel format source = .ok a) :
    (a.result.entries.map fun e => e.1.display).Nodup := by
  have parsed := exists_parse_of_mem_entries analysed
  refine List.pairwise_map.2 (a.result.ascending.imp_of_mem ?_)
  intro e f inside inside' less shown
  have same := Label.parse_inj_display (parsed e inside) (parsed f inside') shown
  rw [same] at less
  exact (isStrictTotalOrder_compare Label).irrefl _ less

end Analysis

namespace Label

/-- **Canonical labels.** What is shown of the label of a text has this label again. Two texts
have one label exactly if they are equal, or are integers of 64 bits with one value, with a
sign or none and any zeros in front; and only if one text is shown of their labels. So no two
rows of a report have the same label. Labels are in a strict total order, in which integers go
by their value and come before all texts. -/
theorem labels_are_canonical :
    (∀ s, parse (parse s).display = parse s) ∧
    (∀ s t, parse s = parse t ↔ s = t ∨ ∃ n, SpellsInteger s.toList n ∧
      SpellsInteger t.toList n ∧ -(2 ^ 63) ≤ n ∧ n < 2 ^ 63) ∧
    (∀ s t, (parse s).display = (parse t).display → parse s = parse t) ∧
    (∀ format source a, Analysis.byLabel format source = .ok a →
      Report.byLabel a.result =
          String.join (a.result.entries.map fun e => Report.labelLine e.1.display e.2) ∧
        (a.result.entries.map fun e => e.1.display).Nodup) ∧
    (IsStrictTotalOrder Label fun key other => compare key other = .lt) ∧
    (∀ m n, compare (number m) (number n) = .lt ↔ m < n) ∧
    ∀ n s, compare (number n) (text s) = .lt := by
  refine ⟨parse_display_parse, fun _ _ => parse_eq_parse_iff, ?_, ?_,
    isStrictTotalOrder_compare Label, fun _ _ => Int.compare_eq_lt, fun _ _ => rfl⟩
  · intro s t shown
    exact parse_inj_display ⟨s, rfl⟩ ⟨t, rfl⟩ shown
  · intro format source a analysed
    exact ⟨rfl, Analysis.nodup_labels analysed⟩

end Label

end Timings
