import Timings.Proofs.Accepted
import Timings.Proofs.Notation
import Timings.Proofs.NumeralValues
import Timings.Proofs.Positional
import Timings.Proofs.ReadBack
import Timings.Proofs.StructuredLines

/-!
One numeral on two kinds of lines.

A structured line reads a numeral by scaling its digits, a plain line as the nearest double.
On direct decimals both agree (`Line.agree_on_direct_numerals`), and with them the numbers
that a report writes with few digits. `Line.disagree_on_long_numeral` is a numeral whose
digits are one more than a double holds: the two lines differ in its last bit.
-/

namespace Timings

open Json (IsFraction IsNumeral IsWhole)
open Measurement (DenotesCount DenotesNumber)

/-! ## The two lines -/

namespace Line

/-- A structured line with this numeral as its time. -/
def timed (numeral : List Char) : String :=
  String.ofList ("\x7b\"items\":1,\"time\":".toList ++ (numeral ++ ",\"time/item\":1\x7d".toList))

/-- A plain line with this numeral as its value. -/
def valued (numeral : List Char) : String := String.ofList ("k x ".toList ++ numeral)

/-- The members of the structured line. -/
def timedFields (numeral : List Char) : List Json.Field :=
  [("items", ['1']), ("time", numeral), ("time/item", ['1'])]

/-- A numeral is a literal, so it has no blanks. -/
theorem isBlank_of_mem_numeral {text : List Char} (numeral : IsNumeral text) :
    ∀ c ∈ text, Text.isBlank c = false := by
  obtain ⟨minus, whole, fraction, exponent, e, rfl, known, fractional, -, power⟩ :=
    numeral.exists_parts
  have spelled := Literal.parse?_eq_some_iff.1 (Json.parse?_parts minus known fractional power)
  exact spelled.isBlank

theorem isNumeral_one : IsNumeral ['1'] :=
  (IsWhole.digits (by decide) (by decide) (by decide)).isNumeral

theorem endsInObject_timed {text : List Char} (numeral : IsNumeral text) :
    EndsInObject (timed text) (timedFields text) := by
  have plain : ∀ {name value : List Char}, (∀ c ∈ name, Json.IsPlain c) → Json.IsValue value →
      Json.IsMember ('"' :: (name ++ '"' :: ([] ++ ':' :: ([] ++ value))))
        (String.ofList name, value) :=
    fun known value => .mk (Json.spells_self known) (by decide) (by decide) value
  have items := @plain "items".toList ['1'] (by decide) (.numeral isNumeral_one)
  have time := @plain "time".toList text (by decide) (.numeral numeral)
  have perItem := @plain "time/item".toList ['1'] (by decide) (.numeral isNumeral_one)
  have none : Json.Blanks [] := by decide
  have object := Json.IsObject.filled none
    (.more items none none (.more time none none (.last perItem none)))
  have unbroken : '\n' ∉ text := fun inside => by
    cases isBlank_of_mem_numeral numeral '\n' inside
  have ends := @EndsInObject.mk [] _ [] _ (by decide) (by decide) object
    (by simp [unbroken]) (by decide)
  simp only [List.append_assoc, List.cons_append, List.nil_append, List.append_nil,
    String.ofList_toList] at ends
  exact ends

theorem denotesNumber_one_iff {x : Float} : DenotesNumber ['1'] x ↔ x = 1 := by
  have one : DenotesNumber ['1'] 1 :=
    ⟨isNumeral_one, .natural 1, (Json.scanNumeral?_eq_natural_iff isNumeral_one).2
      ⟨.digits (by decide) (by decide) (by decide), by decide, by decide⟩, by decide +kernel⟩
  refine ⟨fun denotes => Measurement.functional_number _ _ _ denotes one, ?_⟩
  rintro rfl
  exact one

theorem denotesCount_one_iff {n : Nat} : DenotesCount ['1'] n ↔ n = 1 := by
  have one : DenotesCount ['1'] 1 :=
    ⟨.digits (by decide) (by decide) (by decide), by decide, by decide⟩
  refine ⟨fun denotes => Measurement.functional_count _ _ _ denotes one, ?_⟩
  rintro rfl
  exact one

/-- The structured line is accepted if its numeral is not out of range. -/
theorem latency_timed_iff {text : List Char} (numeral : IsNumeral text) {n : Nat}
    {row : Latency} :
    latency (timed text) n = .ok row ↔
      DenotesNumber text row.time ∧ row.items = 1 ∧ row.timePerItem = 1 := by
  rw [(exactly_taken (endsInObject_timed numeral) n).2.2.1 row]
  constructor
  · rintro ⟨m, conforms, given, items, perItem⟩
    have time := conforms.time
    rw [given] at time
    obtain ⟨_, only, denotes⟩ := time
    obtain ⟨_, one, count⟩ := conforms.items
    obtain ⟨_, one', number⟩ := conforms.timePerItem
    cases only
    cases one
    cases one'
    rw [← items, ← perItem]
    exact ⟨denotes, denotesCount_one_iff.1 count, denotesNumber_one_iff.1 number⟩
  · rintro ⟨denotes, items, perItem⟩
    refine ⟨⟨none, 1, some row.time, 1⟩, ?_, rfl, items.symm, perItem.symm⟩
    exact
      { message := .inl rfl
        items := ⟨_, rfl, denotesCount_one_iff.2 rfl⟩
        time := ⟨_, rfl, denotes⟩
        timePerItem := ⟨_, rfl, denotesNumber_one_iff.2 rfl⟩ }

theorem latency_timed_of_time {text : List Char} (numeral : IsNumeral text) {n : Nat} {x : Float}
    (time : (latency (timed text) n).toOption.map (·.time) = some x) :
    latency (timed text) n = .ok ⟨x, 1, 1⟩ := by
  cases accepted : latency (timed text) n with
  | error failure =>
      rw [accepted] at time
      cases time
  | ok row =>
      rw [accepted] at time
      obtain ⟨-, items, perItem⟩ := (latency_timed_iff numeral).1 accepted
      obtain ⟨_, _, _⟩ := row
      cases time
      cases items
      cases perItem
      rfl

theorem toList_valued (text : List Char) :
    (valued text).toList = ['k'] ++ ' ' :: (['x'] ++ ' ' :: text) := String.toList_ofList

/-- The plain line is accepted if its column holds a finite number. -/
theorem labelled_valued {text : List Char} (solid : ∀ c ∈ text, Text.isBlank c = false)
    {x : Float} (value : (Literal.parse? text).map Literal.toFloat = some x)
    (finite : x.isFinite = true) (n : Nat) :
    labelled .standard (valued text) n = .ok ⟨.text "k", x⟩ := by
  have line : Text.pieces ' ' (Text.dropEnd isLineEnd (valued text).toList) =
      [['k'], ['x'], text] := by
    have kept : ∀ c ∈ (valued text).toList.getLast?, isLineEnd c = false := by
      intro c last
      have inside : c ∈ "k x ".toList ++ text := toList_valued text ▸ List.mem_of_getLast? last
      rcases List.mem_append.1 inside with front | inside
      · have known : ∀ c ∈ "k x ".toList, isLineEnd c = false := by decide
        exact known c front
      · exact isLineEnd_of_solid (solid c inside)
    have single : Text.pieces ' ' text = [text] := Text.pieces_of_notMem fun inside => by
      cases solid ' ' inside
    rw [Text.dropEnd_eq_self kept, toList_valued, Text.pieces_append_cons (by decide),
      Text.pieces_append_cons (by decide), single]
  apply labelled_eq_ok_iff.2
  rw [show ColumnFormat.standard.delimiter = ' ' from rfl, line]
  refine ⟨_, _, rfl, rfl, rfl, ?_, finite⟩
  rw [value?, Text.trim_eq_self solid, value]

end Line

/-! ## Written numbers -/

/-- What a report writes for a finite number is a numeral without an exponent. -/
theorem Report.exists_number {x : Float} (finite : x.isFinite = true) :
    ∃ (minus : Bool) (whole fraction : List Char),
      (number x).toList = (if minus then ['-'] else []) ++ (whole ++ (fraction ++ [])) ∧
        IsWhole whole ∧ IsFraction fraction := by
  obtain ⟨minus, whole, behind, text, known, digits⟩ := exists_toList_number finite
  exact ⟨minus, whole, '.' :: behind, by rw [text, List.append_nil], known, .digits digits⟩

/-! ## One numeral on both lines -/

namespace Line

/-- A text is a literal of a direct decimal. -/
def IsDirect (text : List Char) : Prop :=
  ∃ minus d, Literal.parse? text = some (.finite minus d) ∧ d.Direct

/-- **Agreement.** A numeral of a direct decimal is the same double on a structured line that
is accepted as on a plain line. If it is what a report writes for a number, the structured
line is accepted and has this number as its time. -/
theorem agree_on_direct_numerals {text : List Char} (numeral : IsNumeral text)
    (direct : IsDirect text) :
    (∀ n n' row, latency (timed text) n = .ok row →
      labelled .standard (valued text) n' = .ok ⟨.text "k", row.time⟩) ∧
    ∀ x : Float, x.isFinite = true → text = (Report.number x).toList →
      ∀ n, latency (timed text) n = .ok ⟨x, 1, 1⟩ := by
  obtain ⟨minus, d, written, direct⟩ := direct
  constructor
  · intro n n' row accepted
    obtain ⟨denotes, -, -⟩ := (latency_timed_iff numeral).1 accepted
    have same := Json.eq_of_denotesNumber written direct denotes
    refine labelled_valued (isBlank_of_mem_numeral numeral) ?_ denotes.isFinite n'
    rw [written, Option.map_some, same]
    rfl
  · intro x finite shown n
    obtain ⟨sign, whole, fraction, parts, known, fractional⟩ := Report.exists_number finite
    have literal := @Json.parse?_parts whole fraction [] 0 sign known fractional rfl
    rw [← parts, ← shown, written] at literal
    cases literal
    obtain ⟨y, denotes⟩ :=
      Json.denotesNumber_of_direct minus known fractional .none rfl (by decide) direct
    rw [← parts, ← shown] at denotes
    have value := Report.numberStyle.parse?_writeChars finite
    have chars : Report.numberStyle.writeChars x = text := by
      rw [shown, Report.number, Style.write, String.toList_ofList]
    rw [chars, written] at value
    have same : y = x :=
      (Json.eq_of_denotesNumber written direct denotes).trans (Option.some.inj value)
    rw [same] at denotes
    exact (latency_timed_iff numeral).2 ⟨denotes, rfl, rfl⟩

/-- A numeral with a sign and a point, as a report writes it. -/
theorem agree_on_short_numeral :
    latency (timed "-1250.5".toList) 7 = .ok ⟨-1250.5, 1, 1⟩ ∧
      labelled .standard (valued "-1250.5".toList) 2 = .ok ⟨.text "k", -1250.5⟩ := by
  have numeral : IsNumeral "-1250.5".toList :=
    @IsNumeral.parts ['-'] "1250".toList ".5".toList [] (by decide)
      (.digits (by decide) (by decide) (by decide)) (.digits (by decide)) .none
  have direct : IsDirect "-1250.5".toList := ⟨true, ⟨12505, -1⟩, by decide, by decide⟩
  obtain ⟨agree, back⟩ := agree_on_direct_numerals numeral direct
  have read := back (-1250.5) (by decide +kernel) (by decide +kernel) 7
  exact ⟨read, agree 7 2 _ read⟩

/-- With one digit more than a double holds, the structured line gives another double than
the plain line. The numeral is what a report writes for the latter. -/
theorem disagree_on_long_numeral :
    let text := "9007199254740991.0".toList
    IsNumeral text ∧ Report.number 9007199254740991 = String.ofList text ∧
      latency (timed text) 1 = .ok ⟨9007199254740990, 1, 1⟩ ∧
      labelled .standard (valued text) 1 = .ok ⟨.text "k", 9007199254740991⟩ ∧
      (9007199254740990 : Float) ≠ 9007199254740991 := by
  intro text
  have numeral : IsNumeral text :=
    @IsNumeral.parts [] "9007199254740991".toList ".0".toList [] (by decide)
      (.digits (by decide) (by decide) (by decide)) (.digits (by decide)) .none
  refine ⟨numeral, by decide +kernel, ?_, ?_, by decide +kernel⟩
  · exact latency_timed_of_time numeral (by decide +kernel)
  · refine labelled_valued (isBlank_of_mem_numeral numeral) ?_ (by decide +kernel) 1
    decide +kernel

end Line

end Timings
