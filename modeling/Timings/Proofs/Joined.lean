import Timings.Proofs.Closest
import Timings.Proofs.Tables

/-!
# Joined columns

A line of a plain log is its columns with delimiters between them and line ends behind them.
Cutting gives back exactly these columns, whatever they hold (`columns_joined`). What becomes
of them is said by `Outcome`, in the order in which a line can fail, with the numbers of a
line given by the grammar of literals and not by the reader (`Holds`).

* `labelled_joined`: reading a line has the outcome of its columns and no other one.
-/

namespace Timings

namespace Line

/-! ## Columns -/

/-- A column holds a literal: there are only blanks around it. -/
def Holds (column : String) (literal : Literal) : Prop :=
  ∃ front text back, column.toList = front ++ (text ++ back) ∧ Literal.Spells text literal ∧
    (∀ c ∈ front, Text.isBlank c = true) ∧ ∀ c ∈ back, Text.isBlank c = true

theorem parse?_trim_eq_some_iff {column : String} {literal : Literal} :
    Literal.parse? (Text.trim Text.isBlank column.toList) = some literal ↔
      Holds column literal := by
  rw [Literal.parse?_eq_some_iff]
  constructor
  · intro spelled
    obtain ⟨front, back, same, before, behind⟩ := Text.exists_trim Text.isBlank column.toList
    exact ⟨front, _, back, same, spelled, before, behind⟩
  · rintro ⟨front, text, back, same, spelled, before, behind⟩
    rwa [same, Text.trim_append before spelled.isBlank behind]

theorem Holds.value?_eq {column : String} {literal : Literal} (holds : Holds column literal) :
    value? column.toList = some literal.toFloat := by
  rw [value?, parse?_trim_eq_some_iff.2 holds, Option.map_some]

theorem value?_eq_none {column : String} (none : ∀ literal, ¬Holds column literal) :
    value? column.toList = Option.none := by
  cases read : Literal.parse? (Text.trim Text.isBlank column.toList) with
  | none => rw [value?, read, Option.map_none]
  | some literal => exact absurd (parse?_trim_eq_some_iff.1 read) (none literal)

/-- What becomes of columns. The columns are there or not, the one for the value holds a
literal or not, and this one is a finite number or not. -/
inductive Outcome (format : ColumnFormat) (columns : List String) (line : Nat) :
    Except Failure (Observation Label) → Prop
  | noKey (short : columns.length ≤ format.keyColumn) :
    Outcome format columns line
      (.error (.malformedLine line (.noColumn format.keyColumn columns.length)))
  | noValue (long : format.keyColumn < columns.length)
      (short : columns.length ≤ format.valueColumn) :
    Outcome format columns line
      (.error (.malformedLine line (.noColumn format.valueColumn columns.length)))
  | notNumeric {key column : String} (keyed : columns[format.keyColumn]? = some key)
      (valued : columns[format.valueColumn]? = some column)
      (none : ∀ literal, ¬Holds column literal) :
    Outcome format columns line (.error (.malformedLine line (.notNumeric column)))
  | nonFinite {key column : String} {literal : Literal}
      (keyed : columns[format.keyColumn]? = some key)
      (valued : columns[format.valueColumn]? = some column) (holds : Holds column literal)
      (beyond : literal.toFloat.isNaN = true ∨ literal.toFloat.isInf = true) :
    Outcome format columns line (.error (.nonFinite line literal.toFloat))
  | value {key column : String} {negative : Bool} {d : Decimal}
      (keyed : columns[format.keyColumn]? = some key)
      (valued : columns[format.valueColumn]? = some column)
      (holds : Holds column (.finite negative d))
      (within : Pattern.nearest d.steps.1 d.steps.2 < Pattern.infinity) :
    Outcome format columns line
      (.ok ⟨Label.parse key, Pattern.toFloat negative (Pattern.nearest d.steps.1 d.steps.2)⟩)

variable {format : ColumnFormat} {columns : List String} {line : Nat}
  {result : Except Failure (Observation Label)}

theorem exists_outcome (format : ColumnFormat) (columns : List String) (line : Nat) :
    ∃ result, Outcome format columns line result := by
  rcases Nat.lt_or_ge format.keyColumn columns.length with long | short
  · rcases Nat.lt_or_ge format.valueColumn columns.length with long' | short
    · have keyed := List.getElem?_eq_getElem long
      have valued := List.getElem?_eq_getElem long'
      by_cases some_literal : ∃ literal, Holds columns[format.valueColumn] literal
      · obtain ⟨literal, holds⟩ := some_literal
        by_cases finite : literal.toFloat.isFinite = true
        · obtain ⟨negative, d, rfl, within⟩ := Literal.isFinite_toFloat_iff.1 finite
          exact ⟨_, .value keyed valued holds within⟩
        · exact ⟨_, .nonFinite keyed valued holds (Double.not_isFinite_iff.1 finite)⟩
      · exact ⟨_, .notNumeric keyed valued (not_exists.1 some_literal)⟩
    · exact ⟨_, .noValue long short⟩
  · exact ⟨_, .noKey short⟩

/-- A line that is cut into columns is read with their outcome. -/
theorem Outcome.labelled_eq {text : String}
    (cut : Text.pieces format.delimiter (Text.dropEnd isLineEnd text.toList) =
      columns.map String.toList)
    (outcome : Outcome format columns line result) : labelled format text line = result := by
  unfold labelled
  rw [cut]
  simp only [List.getElem?_map, List.length_map]
  cases outcome with
  | noKey short =>
      rw [List.getElem?_eq_none short]
      rfl
  | noValue long short =>
      rw [List.getElem?_eq_getElem long, List.getElem?_eq_none short]
      rfl
  | notNumeric keyed valued none =>
      simp only [keyed, valued, Option.map_some, value?_eq_none none, String.ofList_toList]
  | nonFinite keyed valued holds beyond =>
      simp only [keyed, valued, Option.map_some, holds.value?_eq]
      rw [ensureFinite, if_neg (Double.not_isFinite_iff.2 beyond)]
      rfl
  | @value key column negative d keyed valued holds within =>
      have finite : (Literal.finite negative d).toFloat.isFinite = true :=
        Literal.isFinite_toFloat_iff.2 ⟨negative, d, rfl, within⟩
      simp only [keyed, valued, Option.map_some, holds.value?_eq, String.ofList_toList]
      rw [ensureFinite, if_pos finite, Literal.toFloat_finite]
      rfl

/-- Joined columns are cut apart again, without the line ends behind them. -/
theorem columns_joined {delimiter : Char} (inner : isLineEnd delimiter = false)
    {columns : List String} (nonempty : columns ≠ [])
    (whole : ∀ column ∈ columns, delimiter ∉ column.toList)
    (closed : ∀ column ∈ columns.getLast?, ∀ c ∈ column.toList.getLast?, isLineEnd c = false)
    {ends : String} (all : ∀ c ∈ ends.toList, isLineEnd c = true) :
    Text.pieces delimiter (Text.dropEnd isLineEnd
      (String.intercalate (String.singleton delimiter) columns ++ ends).toList) =
        columns.map String.toList := by
  have joined : (String.intercalate (String.singleton delimiter) columns).toList =
      [delimiter].intercalate (columns.map String.toList) := by
    rw [String.toList_intercalate, String.toList_singleton]
  have kept : ∀ c ∈ ([delimiter].intercalate (columns.map String.toList)).getLast?,
      isLineEnd c = false := by
    intro c last
    rcases Text.mem_getLast?_intercalate last with rfl | ⟨_, final, inside⟩
    · exact inner
    · rw [List.getLast?_map, Option.mem_def, Option.map_eq_some_iff] at final
      obtain ⟨column, final, rfl⟩ := final
      exact closed column final c inside
  rw [String.toList_append, joined, dropEnd_append_of_all all, Text.dropEnd_eq_self kept]
  refine Text.pieces_intercalate (mt List.map_eq_nil_iff.1 nonempty) ?_
  intro cells inside
  obtain ⟨column, known, rfl⟩ := List.mem_map.1 inside
  exact whole column known

/-- **Joined columns.** A line whose columns have no delimiter and whose last column ends in no
line end is read as its columns are: the key column is looked for first, then the one for the
value, which has to hold a literal, which has to be a finite number. -/
theorem labelled_joined (inner : isLineEnd format.delimiter = false) (nonempty : columns ≠ [])
    (whole : ∀ column ∈ columns, format.delimiter ∉ column.toList)
    (closed : ∀ column ∈ columns.getLast?, ∀ c ∈ column.toList.getLast?, isLineEnd c = false)
    {ends : String} (all : ∀ c ∈ ends.toList, isLineEnd c = true) (line : Nat)
    (result : Except Failure (Observation Label)) :
    labelled format
        (String.intercalate (String.singleton format.delimiter) columns ++ ends) line = result ↔
      Outcome format columns line result := by
  have cut := columns_joined inner nonempty whole closed all
  refine ⟨?_, Outcome.labelled_eq cut⟩
  rintro rfl
  obtain ⟨result, outcome⟩ := exists_outcome format columns line
  rwa [outcome.labelled_eq cut]

/-- Columns between blanks: two are empty, and one has more blanks around its number. All five
outcomes come of one line. -/
theorem labelled_between_blanks :
    let columns := ["16", "", "\t+.5e2\t", "-InF", ""]
    let text := "16  \t+.5e2\t -InF \r\n\r"
    String.intercalate " " columns ++ "\r\n\r" = text ∧
      labelled ⟨' ', 5, 6⟩ text 7 = .error (.malformedLine 7 (.noColumn 5 5)) ∧
      labelled ⟨' ', 0, 6⟩ text 7 = .error (.malformedLine 7 (.noColumn 6 5)) ∧
      labelled ⟨' ', 0, 1⟩ text 7 = .error (.malformedLine 7 (.notNumeric "")) ∧
      (∃ x : Float, x.isInf = true ∧ labelled ⟨' ', 0, 3⟩ text 7 = .error (.nonFinite 7 x)) ∧
      labelled ⟨' ', 0, 2⟩ text 7 = .ok ⟨.number 16, 50⟩ := by
  intro columns text
  have joined : String.intercalate " " columns ++ "\r\n\r" = text := by decide +kernel
  have whole : ∀ column ∈ columns, ' ' ∉ column.toList := by decide +kernel
  have closed : ∀ column ∈ columns.getLast?, ∀ c ∈ column.toList.getLast?,
      isLineEnd c = false := by
    intro column final c last
    cases final
    cases last
  have all : ∀ c ∈ "\r\n\r".toList, isLineEnd c = true := by decide +kernel
  have read (key value : Nat) {result : Except Failure (Observation Label)}
      (outcome : Outcome ⟨' ', key, value⟩ columns 7 result) :
      labelled ⟨' ', key, value⟩ text 7 = result := by
    rw [← joined]
    exact (labelled_joined (rfl : isLineEnd (ColumnFormat.mk ' ' key value).delimiter = false)
      (List.cons_ne_nil _ _) whole closed all 7 result).2 outcome
  have empty (literal : Literal) : ¬Holds "" literal := by
    rw [← parse?_trim_eq_some_iff]
    intro some_literal
    cases some_literal
  have infinite : Holds "-InF" (.infinite true) := parse?_trim_eq_some_iff.1 (by decide +kernel)
  have fifty : Holds "\t+.5e2\t" (.finite false ⟨5, 1⟩) :=
    parse?_trim_eq_some_iff.1 (by decide +kernel)
  have value := read 0 2 (.value rfl rfl fifty (by decide +kernel))
  rw [show Label.parse "16" = .number 16 by decide +kernel,
    show Pattern.toFloat false (Pattern.nearest _ _) = 50 by decide +kernel] at value
  refine ⟨joined, read 5 6 (.noKey (by decide)), read 0 6 (.noValue (by decide) (by decide)),
    read 0 1 (.notNumeric rfl rfl empty), ⟨_, ?_, read 0 3 (.nonFinite rfl rfl infinite (.inr ?_))⟩,
    value⟩
  · decide +kernel
  · decide +kernel

end Line

end Timings
