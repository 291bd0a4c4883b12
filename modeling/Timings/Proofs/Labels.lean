import Timings.Label
import Timings.Proofs.Literals
import Timings.Proofs.Values

/-!
Labels and the texts they are shown as.

The text of an integer spells it (`integer?_integerText`), and what is shown of the label of
a text reads as the label again (`parse_display_parse`). So there is a way to decide whether
a label is that of some text (`exists_parse_iff`).
-/

namespace Timings.Label

open Json (IsDigits)

theorem integer?_append {ds : List Char} (digits : IsDigits ds) (minus : Bool) :
    integer? ((if minus then ['-'] else []) ++ ds) =
      some (if minus then -(Nat.ofDigitChars 10 ds 0 : Int) else Nat.ofDigitChars 10 ds 0) := by
  have solid : ¬ (ds.isEmpty = true ∨ ds.any (!·.isDigit) = true) := by
    rw [not_or, Bool.not_eq_true, List.isEmpty_eq_false_iff, List.any_eq_true]
    refine ⟨digits.1, fun ⟨c, inside, other⟩ => ?_⟩
    rw [digits.2 c inside] at other
    cases other
  unfold integer?
  cases minus with
  | true => exact if_neg solid
  | false =>
      obtain ⟨c, cs, rfl⟩ := List.exists_cons_of_ne_nil digits.1
      have first := digits.2.cons.1
      have noMinus : c ≠ '-' := Json.ne_of_isDigit first rfl
      have noPlus : c ≠ '+' := Json.ne_of_isDigit first rfl
      split
      rename_i negative rest read
      split at read
      · rename_i same
        exact absurd (List.cons.inj same).1 noMinus
      · rename_i same
        exact absurd (List.cons.inj same).1 noPlus
      · cases read
        exact if_neg solid

theorem integer?_integerText (n : Int) : integer? (integerText n).toList = some n := by
  have digits : IsDigits (Nat.toDigits 10 n.natAbs) := Literal.isDigits_toDigits n.natAbs
  unfold integerText
  rw [String.toList_ofList]
  by_cases negative : n < 0
  · rw [if_pos negative]
    have read := integer?_append digits true
    rw [Nat.ofDigitChars_ten_toDigits, if_pos rfl, if_pos rfl] at read
    rw [read]
    congr 1
    omega
  · rw [if_neg negative]
    have read := integer?_append digits false
    rw [Nat.ofDigitChars_ten_toDigits, if_neg Bool.false_ne_true, if_neg Bool.false_ne_true] at read
    rw [read]
    congr 1
    omega

/-- A label is the text itself, or the integer that the text spells if it is in range. -/
theorem parse_eq_text_or_number (raw : String) : parse raw = .text raw ∨
    ∃ n, integer? raw.toList = some n ∧ inRange n = true ∧ parse raw = .number n := by
  unfold parse
  cases integer? raw.toList with
  | none => exact .inl rfl
  | some n =>
      by_cases ranged : inRange n = true
      · exact .inr ⟨n, rfl, ranged, if_pos ranged⟩
      · exact .inl (if_neg ranged)

/-- **Shown labels.** What is shown of a label reads as the label. -/
theorem parse_display_parse (raw : String) : parse (parse raw).display = parse raw := by
  rcases parse_eq_text_or_number raw with text | ⟨n, -, ranged, number⟩
  · rw [text]
    exact text
  · rw [number]
    change parse (integerText n) = .number n
    unfold parse
    rw [integer?_integerText]
    exact if_pos ranged

theorem exists_parse_iff {key : Label} : (∃ raw, parse raw = key) ↔ parse key.display = key :=
  ⟨fun ⟨raw, known⟩ => by rw [← known, parse_display_parse], fun read => ⟨_, read⟩⟩

end Timings.Label
