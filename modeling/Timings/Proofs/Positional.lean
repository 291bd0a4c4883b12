import Timings.Proofs.Closest
import Timings.Report.Table

/-!
# Numbers in positional notation

A report writes every finite number with digits before and behind one point, without an
exponent and without a zero in front of other digits (`Report.exists_toList_number`). Its text
denotes the number and no other one, so different numbers have different texts.

* `Report.numbers_are_positional`: the notation and what it denotes, for all finite numbers,
  and that every column of a report can be read as a number.
-/

namespace Timings

open Json (IsDigits IsWhole)

/-! ## Decimals with a point -/

namespace Decimal

/-- The digits of a positive number do not start with a zero. -/
theorem exists_toDigits {n : Nat} (positive : n ≠ 0) :
    ∃ d ds, Nat.toDigits 10 n = d :: ds ∧ d ≠ '0' := by
  induction n using Nat.strongRecOn with
  | ind n ih =>
      by_cases small : n < 10
      · refine ⟨_, [], Nat.toDigits_of_lt_base small, fun zero => positive ?_⟩
        have digits : ∀ n < (10 : Nat), Nat.digitChar n = '0' → n = 0 := by decide
        exact digits n small zero
      · obtain ⟨d, ds, front, nonzero⟩ := ih (n / 10) (by omega) (by omega)
        refine ⟨d, ds ++ [(n % 10).digitChar], ?_, nonzero⟩
        rw [Nat.toDigits_of_base_le (by decide) (by omega), front, List.cons_append]

/-- The digits of a positive number, some at their end left out or zeros added, are those of
an integer. -/
theorem isWhole_of_digitChars {d : Decimal} (positive : d.digits ≠ 0) {whole : List Char}
    (digits : IsDigits whole) (front : whole.head? = d.digitChars.head?) : IsWhole whole := by
  obtain ⟨c, cs, first, nonzero⟩ := exists_toDigits positive
  obtain ⟨c', cs', rfl⟩ := List.exists_cons_of_ne_nil digits.1
  rw [digitChars, first, List.head?_cons, List.head?_cons, Option.some.injEq] at front
  subst front
  exact .digits nonzero digits.2.cons.1 digits.2.cons.2

/-- A decimal in positional notation: an integer, a point and digits. -/
theorem exists_positional {d : Decimal} (normal : d.digits = 0 → d.exponent = 0) :
    ∃ whole fraction, d.positional true = whole ++ '.' :: fraction ∧ IsWhole whole ∧
      IsDigits fraction := by
  unfold positional
  dsimp only
  by_cases positive : d.digits = 0
  · have zero : d = ⟨0, 0⟩ := by
      obtain ⟨n, e⟩ := d
      cases positive
      cases normal rfl
      rfl
    subst zero
    exact ⟨['0'], ['0'], by decide, .zero, by decide⟩
  by_cases whole : 0 ≤ d.exponent
  · rw [if_pos whole, if_pos rfl]
    have padded := d.isDigits_padded d.exponent.toNat
    refine ⟨_, ['0'], rfl, isWhole_of_digitChars positive padded ?_, by decide⟩
    exact List.head?_append_of_ne_nil _ d.isDigits_digitChars.1
  · rw [if_neg whole]
    by_cases inner : (-d.exponent).toNat < d.digitChars.length
    · rw [if_pos inner]
      refine ⟨_, _, rfl, isWhole_of_digitChars positive (d.isDigits_take (by omega)) ?_,
        isDigits_drop (by omega)⟩
      rw [List.head?_take, if_neg (by omega)]
    · rw [if_neg inner]
      exact ⟨['0'], _, rfl, .zero, d.isDigits_behind _⟩

/-- The shortest decimal of a pattern is zero only if the pattern is. -/
theorem exponent_shortest (tie : Tie) {b : Nat} (finite : b < Pattern.infinity)
    (zero : (shortest tie b).digits = 0) : (shortest tie b).exponent = 0 := by
  have pattern := pattern_shortest tie (Nat.le_of_lt finite)
  have nothing : b = 0 := by
    rw [← pattern, Decimal.pattern, if_pos zero]
  rw [shortest, if_pos nothing]

end Decimal

/-! ## Numbers in a report -/

namespace Report

theorem toList_number (x : Float) : (number x).toList = numberStyle.writeChars x :=
  String.toList_ofList

/-- What a report writes for a finite number: a sign or none, an integer, a point and digits. -/
theorem exists_toList_number {x : Float} (finite : x.isFinite = true) :
    ∃ (minus : Bool) (whole fraction : List Char),
      (number x).toList = (if minus then ['-'] else []) ++ (whole ++ '.' :: fraction) ∧
        IsWhole whole ∧ IsDigits fraction := by
  have small := Pattern.ofFloat_lt_infinity finite
  obtain ⟨whole, fraction, written, known, digits⟩ :=
    Decimal.exists_positional (Decimal.exponent_shortest numberStyle.tie small)
  refine ⟨Pattern.isNegative x, whole, fraction, ?_, known, digits⟩
  rw [toList_number, ← written, Style.writeChars]
  rw [if_neg (Nat.lt_asymm small), if_neg (Nat.ne_of_lt small), Style.layOut]
  congr 1
  exact if_pos (.inr rfl)

theorem denotes_number {x : Float} (finite : x.isFinite = true) :
    Literal.Denotes (number x).toList x := by
  rw [toList_number]
  exact numberStyle.denotes_writeChars finite

/-- Numbers that are not finite are written as words. -/
theorem isFinite_or_word (x : Float) :
    x.isFinite = true ∨ number x = "NaN" ∨ number x = "inf" ∨ number x = "-inf" := by
  by_cases small : Pattern.ofFloat x < Pattern.infinity
  · have finite := Double.isFinite_toFloat (Pattern.isNegative x) small
    rw [Pattern.toFloat_ofFloat] at finite
    exact .inl finite
  · right
    rw [number, Style.write, Style.writeChars]
    by_cases undefined : Pattern.infinity < Pattern.ofFloat x
    · rw [if_pos undefined]
      exact .inl rfl
    · rw [if_neg undefined, if_pos (Nat.le_antisymm (Nat.le_of_not_lt undefined)
        (Nat.le_of_not_lt small))]
      cases Pattern.isNegative x with
      | false => exact .inr (.inl rfl)
      | true => exact .inr (.inr rfl)

/-- Every text of a number can be read, also those of what is not finite. -/
theorem exists_read_number (x : Float) : ∃ y, Literal.toFloat? (number x) = some y := by
  rcases isFinite_or_word x with finite | word | word | word
  · exact ⟨x, (denotes_number finite).read⟩
  all_goals
    rw [word]
    exact ⟨_, rfl⟩

/-- **Numbers in a report.** For a finite number a report has a minus sign or none, an integer
without zeros in front, a point and one or more digits, and this denotes the number, with the
sign of a zero. So different numbers have different texts, and every column with a number can
be read as one. -/
theorem numbers_are_positional :
    (∀ x : Float, x.isFinite = true →
      (∃ (minus : Bool) (whole fraction : List Char),
        (number x).toList = (if minus then ['-'] else []) ++ (whole ++ '.' :: fraction) ∧
          IsWhole whole ∧ IsDigits fraction) ∧
      Literal.Denotes (number x).toList x) ∧
    (∀ x y : Float, x.isFinite = true → y.isFinite = true → number x = number y → x = y) ∧
    ∀ s : Summary Float, ∀ column ∈ summaryColumns s,
      ∃ x, Literal.toFloat? column = some x := by
  refine ⟨fun x finite => ⟨exists_toList_number finite, denotes_number finite⟩, ?_, ?_⟩
  · intro x y finite finite' same
    have denotes := denotes_number finite
    rw [same] at denotes
    exact denotes.unique (denotes_number finite')
  · intro s column shown
    simp only [summaryColumns, List.mem_cons, List.not_mem_nil, or_false] at shown
    rcases shown with rfl | rfl | rfl | rfl
    all_goals exact exists_read_number _

example : number (.ofBits 0x8000000000000000) = "-0.0" ∧ number 1e16 = "10000000000000000.0" ∧
    number 1e-7 = "0.0000001" := by decide +kernel

end Report

end Timings
