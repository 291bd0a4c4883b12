import Timings.Proofs.Canonical
import Timings.Proofs.Closest
import Timings.Proofs.Tables
import Timings.Report.Table

/-!
# Latencies, read back from their rows

A row of the table of latencies has three columns with commas between them. Of finite latencies
they hold the characters of decimals only (`isNumeric_of_mem_latencyColumns`), so the row is cut
into them again, and each of them denotes its number and no other one (`ReadsAs.unique`).

* `Report.latency_rows_read_back`: the table is one line for each latency, and what is read from
  the line is the latency.
-/

namespace Timings

open Json (IsDigits)

namespace Report

open Literal (SpellsSign Denotes IsNumeric digitsValue)

/-! ## What is read from a row -/

/-- An integer of a word of 64 bits in decimal digits, behind a plus sign or none. Zeros may
stand in front. -/
inductive SpellsWord : List Char → Nat → Prop
  | mk {sign ds : List Char} (signed : SpellsSign sign false) (digits : IsDigits ds)
      (fits : digitsValue ds < 2 ^ 64) : SpellsWord (sign ++ ds) (digitsValue ds)

/-- The integer that a text spells is one only. -/
theorem SpellsWord.unique {text : List Char} {n m : Nat} (spelled : SpellsWord text n)
    (spelled' : SpellsWord text m) : n = m := by
  have integer {text : List Char} {n : Nat} (spelled : SpellsWord text n) :
      Label.SpellsInteger text n := by
    cases spelled with
    | mk signed digits fits => exact .mk signed digits
  exact Int.ofNat.inj ((integer spelled).unique (integer spelled'))

theorem spellsWord_toString {n : Nat} (fits : n < 2 ^ 64) : SpellsWord (toString n).toList n := by
  have value : digitsValue (Nat.toDigits 10 n) = n := Nat.ofDigitChars_ten_toDigits
  have spelled := SpellsWord.mk .none (Literal.isDigits_toDigits n) (value.symm ▸ fits)
  rwa [value, List.nil_append, ← Nat.toList_repr, ← Nat.toString_eq_repr] at spelled

/-- The latency that a row holds: between its commas it has a decimal, an integer and a decimal. -/
inductive ReadsAs (row : List Char) (l : Latency) : Prop
  | mk {time items timePerItem : List Char}
      (columns : Text.pieces ',' row = [time, items, timePerItem])
      (first : Denotes time l.time) (second : SpellsWord items l.items)
      (third : Denotes timePerItem l.timePerItem)

/-- A row holds one latency only. -/
theorem ReadsAs.unique {row : List Char} {l l' : Latency} (reads : ReadsAs row l)
    (reads' : ReadsAs row l') : l = l' := by
  obtain ⟨columns, first, second, third⟩ := reads
  obtain ⟨columns', first', second', third'⟩ := reads'
  rw [columns] at columns'
  cases columns'
  obtain ⟨time, items, timePerItem⟩ := l
  cases first.unique first'
  cases second.unique second'
  cases third.unique third'
  rfl

/-! ## What is written in a row -/

/-- The columns of a latency. -/
def latencyColumns (l : Latency) : List (List Char) :=
  [(rowStyle.write l.time).toList, (toString l.items).toList,
    (rowStyle.write l.timePerItem).toList]

/-- The row of a latency without its line feed. -/
def latencyText (l : Latency) : String :=
  String.intercalate "," [rowStyle.write l.time, toString l.items, rowStyle.write l.timePerItem]

theorem toList_latencyText (l : Latency) :
    (latencyText l).toList = [','].intercalate (latencyColumns l) :=
  String.toList_intercalate

theorem denotes_write {x : Float} (finite : x.isFinite = true) :
    Denotes (rowStyle.write x).toList x := by
  rw [Style.write, String.toList_ofList]
  exact rowStyle.denotes_writeChars finite

variable {l : Latency}

/-- The columns of finite latencies have the characters of decimals only. -/
theorem isNumeric_of_mem_latencyColumns (time : l.time.isFinite = true)
    (timePerItem : l.timePerItem.isFinite = true) {column : List Char}
    (known : column ∈ latencyColumns l) : ∀ c ∈ column, IsNumeric c := by
  have decimal {x : Float} (finite : x.isFinite = true) :
      ∀ c ∈ (rowStyle.write x).toList, IsNumeric c := by
    cases denotes_write finite with
    | mk spelled closest => exact spelled.isNumeric
  simp only [latencyColumns, List.mem_cons, List.not_mem_nil, or_false] at known
  rcases known with rfl | rfl | rfl
  · exact decimal time
  · rw [Nat.toString_eq_repr, Nat.toList_repr]
    exact Literal.isNumeric_of_allDigits (Literal.isDigits_toDigits l.items).2
  · exact decimal timePerItem

/-- No character of a decimal separates columns or lines, and none is a quote. -/
theorem ne_of_isNumeric {c : Char} (numeric : IsNumeric c) :
    ∀ d ∈ [',', '"', '\r', '\n'], c ≠ d := by
  have digits : ∀ d ∈ [',', '"', '\r', '\n'], d.isDigit = false := by decide
  have others : ∀ c ∈ ['+', '-', '.', 'e', 'E'], ∀ d ∈ [',', '"', '\r', '\n'], c ≠ d := by decide
  exact numeric.imp (fun _ digit d known => Json.ne_of_isDigit digit (digits d known)) others

/-- A row of a finite latency has no quotes and no ends of lines. -/
theorem notMem_latencyText (time : l.time.isFinite = true)
    (timePerItem : l.timePerItem.isFinite = true) :
    ∀ c ∈ ['"', '\r', '\n'], c ∉ (latencyText l).toList := by
  intro c special inside
  rw [toList_latencyText] at inside
  rcases Text.mem_intercalate inside with rfl | ⟨column, known, occurs⟩
  · exact absurd special (by decide)
  · have numeric := isNumeric_of_mem_latencyColumns time timePerItem known c occurs
    exact ne_of_isNumeric numeric c (List.mem_cons_of_mem _ special) rfl

/-- A row of a finite latency holds the latency. -/
theorem readsAs_latencyText (time : l.time.isFinite = true)
    (timePerItem : l.timePerItem.isFinite = true) (fits : l.items < 2 ^ 64) :
    ReadsAs (latencyText l).toList l := by
  refine .mk ?_ (denotes_write time) (spellsWord_toString fits) (denotes_write timePerItem)
  rw [toList_latencyText]
  refine Text.pieces_intercalate (List.cons_ne_nil _ _) fun column known comma => ?_
  have numeric := isNumeric_of_mem_latencyColumns time timePerItem known ',' comma
  exact ne_of_isNumeric numeric ',' List.mem_cons_self rfl

example :
    latencyText ⟨.ofBits 0x8000000000000000, 2 ^ 64 - 1, .ofBits 1⟩ =
      "-0.0,18446744073709551615,5e-324" := by
  decide +kernel

/-! ## The table -/

theorem latencyRows_eq (rows : List Latency) :
    latencyRows rows =
      (rows.map latencyText).flatMap fun line => Bytes.ofText line ++ [Bytes.newline] := by
  rw [latencyRows, Bytes.ofText_join, List.flatMap_map, List.flatMap_map]
  simp only [← Bytes.ofText_append_newline]
  rfl

/-- **Rows of latencies.** The table of finite latencies has one line for each of them, in their
order, and nothing before and behind the lines. No line has a quote or a line end inside. The
three columns between the commas of a line are read as the latency and as no other one: the
numbers with the sign of a zero, however small or large they are, and the items as a word. -/
theorem latency_rows_read_back {rows : List Latency}
    (finite : ∀ l ∈ rows, l.time.isFinite = true ∧ l.timePerItem.isFinite = true)
    (words : ∀ l ∈ rows, l.items < 2 ^ 64) :
    ∃ lines : List String,
      latencyRows rows = lines.flatMap (fun line => Bytes.ofText line ++ [Bytes.newline]) ∧
      List.Forall₂ (fun line l =>
        (∀ c ∈ ['"', '\r', '\n'], c ∉ line.toList) ∧ ∀ l', ReadsAs line.toList l' ↔ l' = l)
        lines rows := by
  refine ⟨rows.map latencyText, latencyRows_eq rows, ?_⟩
  rw [List.forall₂_map_left_iff, List.forall₂_same]
  intro l known
  obtain ⟨time, timePerItem⟩ := finite l known
  have reads := readsAs_latencyText time timePerItem (words l known)
  refine ⟨notMem_latencyText time timePerItem, fun l' => ⟨fun reads' => reads'.unique reads, ?_⟩⟩
  rintro rfl
  exact reads

/-- A zero with a sign, the double next to zero and the one of largest magnitude, and numbers
from which on there is an exponent; the largest word of items. -/
theorem extreme_latencies_read_back :
    let rows : List Latency :=
      [⟨.ofBits 0x8000000000000000, 2 ^ 64 - 1, .ofBits 1⟩, ⟨.ofBits 0xffefffffffffffff, 0, 1e16⟩]
    (∀ l ∈ rows, l.time.isFinite = true ∧ l.timePerItem.isFinite = true) ∧
      (∀ l ∈ rows, l.items < 2 ^ 64) ∧
      ∃ line line' : String,
        latencyRows rows =
          Bytes.ofText line ++ [Bytes.newline] ++ (Bytes.ofText line' ++ [Bytes.newline]) ∧
        (∀ l, ReadsAs line.toList l ↔
          l = ⟨.ofBits 0x8000000000000000, 2 ^ 64 - 1, .ofBits 1⟩) ∧
        ∀ l, ReadsAs line'.toList l ↔ l = ⟨.ofBits 0xffefffffffffffff, 0, 1e16⟩ := by
  intro rows
  have finite : ∀ l ∈ rows, l.time.isFinite = true ∧ l.timePerItem.isFinite = true := by
    decide +kernel
  have words : ∀ l ∈ rows, l.items < 2 ^ 64 := by decide +kernel
  obtain ⟨lines, table, each⟩ := latency_rows_read_back finite words
  obtain ⟨line, behind, first, rest, rfl⟩ := List.forall₂_cons_right_iff.1 each
  obtain ⟨line', behind', second, none, rfl⟩ := List.forall₂_cons_right_iff.1 rest
  obtain rfl := List.forall₂_nil_right_iff.1 none
  refine ⟨finite, words, line, line', ?_, first.2, second.2⟩
  rw [table, List.flatMap_cons, List.flatMap_singleton]

end Report

end Timings
