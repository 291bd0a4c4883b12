import Timings.Decimal.Literal
import Timings.Proofs.Numerals

/-!
Reading numerals as number literals.

Digits, a fraction and a power of ten are read part by part, and the point moves behind the
last digit (`parseDecimal?_append`). A numeral behind a minus sign or none is a literal, since
the words start with letters (`parse?_append`).
-/

namespace Timings.Literal

open Json (AllDigits IsDigits IsFraction Stops)

/-! ## Parts of a numeral -/

theorem isDigits_toDigits (n : Nat) : IsDigits (Nat.toDigits 10 n) :=
  ⟨Nat.toDigits_ne_nil, fun _ inside =>
    Nat.isDigit_of_mem_toDigits (by decide) (by decide) inside⟩

theorem splitDigits_append {ds rest : List Char} (digits : AllDigits ds) (stops : Stops rest) :
    splitDigits (ds ++ rest) = (ds, rest) := by
  have front : (ds ++ rest).takeWhile Char.isDigit = ds := by
    rw [List.takeWhile_append_of_pos digits]
    rcases stops.eq_nil_or_cons with rfl | ⟨c, cs, rfl, other⟩
    · exact List.append_nil ds
    · rw [List.takeWhile_cons_of_neg (by simp [other]), List.append_nil]
  rw [splitDigits, front, Json.dropWhile_isDigit_append digits stops]

theorem eq_nil_or_cons_of_parseExponent? {cs : List Char} {e : Int}
    (power : parseExponent? cs = some e) :
    cs = [] ∨ ∃ letter rest, cs = letter :: rest ∧ (letter = 'e' ∨ letter = 'E') := by
  cases cs with
  | nil => exact .inl rfl
  | cons letter rest =>
      refine .inr ⟨letter, rest, rfl, ?_⟩
      by_cases known : letter = 'e' ∨ letter = 'E'
      · exact known
      · rw [parseExponent?, if_neg known] at power
        cases power

theorem stops_of_parseExponent? {cs : List Char} {e : Int} (power : parseExponent? cs = some e) :
    Stops cs := by
  rcases eq_nil_or_cons_of_parseExponent? power with rfl | ⟨letter, rest, rfl, rfl | rfl⟩
  · intro c head
    cases head
  · intro c head
    cases head
    rfl
  · intro c head
    cases head
    rfl

/-- The digits of a fraction are split off, and there are none without a point. -/
theorem splitFraction_append {fraction exponent : List Char} {e : Int}
    (fractional : IsFraction fraction) (power : parseExponent? exponent = some e) :
    splitFraction (fraction ++ exponent) = (fraction.tail, exponent) := by
  cases fractional with
  | none =>
      rcases eq_nil_or_cons_of_parseExponent? power with rfl | ⟨letter, rest, rfl, rfl | rfl⟩
      · rfl
      · rfl
      · rfl
  | digits digits => exact splitDigits_append digits.2 (stops_of_parseExponent? power)

/-- A numeral is read digit by digit, with the point moved behind the last of them. -/
theorem parseDecimal?_append {whole fraction exponent : List Char} {e : Int}
    (digits : IsDigits whole) (fractional : IsFraction fraction)
    (power : parseExponent? exponent = some e) :
    parseDecimal? (whole ++ (fraction ++ exponent)) =
      some ⟨digitsValue (whole ++ fraction.tail), e - fraction.tail.length⟩ := by
  have stops : Stops (fraction ++ exponent) := by
    cases fractional with
    | none => exact stops_of_parseExponent? power
    | digits _ =>
        intro c head
        cases head
        rfl
  have nonempty : ¬ (whole.isEmpty ∧ fraction.tail.isEmpty) := by
    rw [List.isEmpty_iff]
    exact fun none => digits.1 none.1
  rw [parseDecimal?, splitDigits_append digits.2 stops]
  dsimp only
  rw [splitFraction_append fractional power]
  dsimp only
  rw [if_neg nonempty, power]
  rfl

theorem splitSign_of_isDigit {c : Char} (digit : c.isDigit = true) (cs : List Char) :
    splitSign (c :: cs) = (false, c :: cs) := by
  unfold splitSign
  split
  · rename_i same
    cases same
    cases digit
  · rename_i same
    cases same
    cases digit
  · rfl

theorem parseExponent?_cons {letter : Char} {sign ds : List Char}
    (known : letter = 'e' ∨ letter = 'E') (signed : sign ∈ Json.exponentSigns)
    (digits : IsDigits ds) : parseExponent? (letter :: (sign ++ ds)) =
      some (if sign = ['-'] then -(digitsValue ds : Int) else digitsValue ds) := by
  have split : splitSign (sign ++ ds) = (decide (sign = ['-']), ds) := by
    simp only [Json.exponentSigns, List.mem_cons, List.not_mem_nil, or_false] at signed
    rcases signed with rfl | rfl | rfl
    · obtain ⟨c, cs, rfl⟩ := List.exists_cons_of_ne_nil digits.1
      exact splitSign_of_isDigit digits.2.cons.1 cs
    · rfl
    · rfl
  have all : splitDigits ds = (ds, []) := by
    have whole := splitDigits_append digits.2 Json.ends_nil.stops
    rwa [List.append_nil] at whole
  have written : ¬ (ds.isEmpty = true ∨ (!([] : List Char).isEmpty) = true) := by
    simp [digits.1]
  simp only [parseExponent?, if_pos known, split, all, if_neg written, decide_eq_true_eq]

/-! ## Signs and words -/

theorem toLower_of_isDigit {c : Char} (digit : c.isDigit = true) : c.toLower = c := by
  have range := Json.range_of_isDigit digit
  unfold Char.toLower
  rw [dif_neg]
  intro upper
  have above : 65 ≤ c.toNat := UInt32.le_iff_toNat_le.1 upper.1
  omega

/-- The words start with letters. -/
theorem first_of_word {c : Char} {cs : List Char}
    (word : c :: cs ∈ infinityWords ∨ c :: cs = nanWord) : c = 'i' ∨ c = 'n' := by
  rcases word with word | word
  · rcases List.mem_cons.1 word with word | word
    · exact .inl (Option.some.inj (congrArg List.head? word))
    · exact .inl (Option.some.inj (congrArg List.head? (List.mem_singleton.1 word)))
  · exact .inr (Option.some.inj (congrArg List.head? word))

theorem isDigit_of_word {c : Char} {cs : List Char}
    (word : c :: cs ∈ infinityWords ∨ c :: cs = nanWord) : c.isDigit = false := by
  rcases first_of_word word with rfl | rfl
  · rfl
  · rfl

/-- A numeral with or without a minus sign is a literal: its first character is a digit, so
it is none of the words. -/
theorem parse?_append {text : List Char} {d : Decimal} (minus : Bool)
    (digit : ∀ c ∈ text.head?, c.isDigit = true) (numeral : parseDecimal? text = some d) :
    parse? ((if minus then ['-'] else []) ++ text) = some (.finite minus d) := by
  cases text with
  | nil => cases numeral
  | cons c cs =>
      have first : c.isDigit = true := digit c rfl
      have split : splitSign ((if minus then ['-'] else []) ++ c :: cs) = (minus, c :: cs) := by
        cases minus with
        | true => rfl
        | false => exact splitSign_of_isDigit first cs
      have noWord : ¬ (c :: cs.map Char.toLower ∈ infinityWords ∨
          c :: cs.map Char.toLower = nanWord) := by
        intro word
        rw [isDigit_of_word word] at first
        cases first
      rw [not_or] at noWord
      unfold parse?
      rw [split]
      dsimp only
      rw [List.map_cons, toLower_of_isDigit first, if_neg (mt List.contains_iff_mem.1 noWord.1),
        if_neg noWord.2, numeral]
      rfl

end Timings.Literal
