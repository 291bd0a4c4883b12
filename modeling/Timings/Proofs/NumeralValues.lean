import Timings.Proofs.Literals
import Timings.Proofs.Scaling
import Timings.Proofs.Schema

/-!
What numerals denote.

A numeral whose digits fit a word is scanned without a loss: its digits and its power of ten
are those it is read with as a literal, and the double is assembled from them
(`scanNumeral?_parts`). So a numeral of a direct decimal denotes the double that it is as a
literal (`eq_of_denotesNumber`), as long as its exponent is not out of range.
-/

namespace Timings.Json

open Literal (digitsValue parseExponent?)
open Measurement (DenotesNumber)

/-! ## Digits -/

theorem scanExponentDigits_value {ds : List Char} (digits : AllDigits ds) {e : Nat}
    (small : e ≤ largestExponent) :
    scanExponentDigits e ds =
      if Nat.ofDigitChars 10 ds e ≤ largestExponent then some (Nat.ofDigitChars 10 ds e, [])
      else none := by
  induction ds generalizing e with
  | nil => exact (if_pos small).symm
  | cons d ds ih =>
      obtain ⟨digit, digits⟩ := digits.cons
      rw [ofDigitChars_cons_eq, scanExponentDigits, if_pos digit]
      by_cases large : largestExponent < e * 10 + digitValue d
      · have above := le_ofDigitChars ds (e * 10 + digitValue d)
        rw [if_pos large, if_neg (by omega)]
      · rw [if_neg large]
        exact ih digits (by omega)

theorem scanFractionDigits_value {ds rest : List Char} (digits : AllDigits ds)
    (stops : Stops rest) {lead : Nat} (fits : Nat.ofDigitChars 10 ds lead ≤ largestDigits)
    (e : Int) :
    scanFractionDigits lead e (ds ++ rest) =
      (Nat.ofDigitChars 10 ds lead, e - ds.length, rest) := by
  induction ds generalizing lead e with
  | nil =>
      rw [List.length_nil, Int.natCast_zero, Int.sub_zero]
      rcases stops.eq_nil_or_cons with rfl | ⟨c, cs, rfl, other⟩
      · rfl
      · simp [scanFractionDigits, other]
  | cons d ds ih =>
      obtain ⟨digit, digits⟩ := digits.cons
      rw [ofDigitChars_cons_eq] at fits ⊢
      have small : ¬largestDigits < lead * 10 + digitValue d := by
        have above := le_ofDigitChars ds (lead * 10 + digitValue d)
        omega
      have places : e - 1 - (ds.length : Int) = e - ((d :: ds).length : Int) := by
        rw [List.length_cons]
        omega
      rw [List.cons_append, scanFractionDigits, if_pos digit, if_neg small, ih digits fits, places]

/-! ## Exponents -/

/-- The double of digits with the power `start` of their last one, and a written exponent.
Beyond the largest exponent the number is zero or out of range. -/
def powered (minus : Bool) (digits : Nat) (start e : Int) : Except Fault Float :=
  if e.natAbs ≤ largestExponent then assemble minus digits (start + e)
  else if digits ≠ 0 ∧ 0 < e then .error .numberOutOfRange
  else .ok (Pattern.toFloat minus 0)

theorem scanPower_value {ds : List Char} (digits : IsDigits ds) (minus : Bool) (lead : Nat)
    (start : Int) (down : Bool) :
    scanPower minus lead start down ds =
      (powered minus lead start (if down then -(digitsValue ds : Int) else digitsValue ds)).map
        (·, []) := by
  obtain ⟨filled, digits⟩ := digits
  obtain ⟨d, ds, rfl⟩ := List.exists_cons_of_ne_nil filled
  obtain ⟨digit, digits⟩ := digits.cons
  have first : digitValue d ≤ largestExponent := by
    have small := digitValue_lt_ten digit
    unfold largestExponent
    omega
  have value : Nat.ofDigitChars 10 ds (digitValue d) = digitsValue (d :: ds) := by
    rw [digitsValue, ofDigitChars_cons_eq, Nat.zero_mul, Nat.zero_add]
  have scanned := scanExponentDigits_value digits first
  rw [value] at scanned
  simp only [scanPower, digit, if_true, scanned]
  generalize digitsValue (d :: ds) = e
  by_cases small : e ≤ largestExponent
  · rw [if_pos small]
    cases down with
    | false =>
        simp only [powered, Int.natAbs_natCast, if_pos small, Bool.false_eq_true, if_false]
        cases assemble minus lead (start + e) <;> rfl
    | true =>
        simp only [powered, Int.natAbs_neg, Int.natAbs_natCast, if_pos small, if_true,
          Int.sub_eq_add_neg]
        cases assemble minus lead (start + -e) <;> rfl
  · rw [if_neg small]
    have rest : ds.dropWhile Char.isDigit = [] := by
      have dropped := dropWhile_isDigit_append digits ends_nil.stops
      rwa [List.append_nil] at dropped
    dsimp only
    rw [rest]
    cases down with
    | false =>
        have positive : 0 < (e : Int) := by omega
        simp only [powered, Int.natAbs_natCast, if_neg small, Bool.false_eq_true, if_false,
          positive, and_true, Bool.not_false]
        split <;> rfl
    | true =>
        have negative : ¬0 < -(e : Int) := by omega
        simp only [powered, Int.natAbs_neg, Int.natAbs_natCast, if_neg small, if_true, negative,
          and_false, Bool.not_true, Bool.false_eq_true, if_false]
        rfl

theorem scanExponent_value {sign ds : List Char} (signed : sign ∈ exponentSigns)
    (digits : IsDigits ds) (minus : Bool) (lead : Nat) (start : Int) :
    scanExponent minus lead start (sign ++ ds) =
      (powered minus lead start
        (if sign = ['-'] then -(digitsValue ds : Int) else digitsValue ds)).map (·, []) := by
  simp only [exponentSigns, List.mem_cons, List.not_mem_nil, or_false] at signed
  rcases signed with rfl | rfl | rfl
  · have plain : scanExponent minus lead start ([] ++ ds) = scanPower minus lead start false ds := by
      unfold scanExponent
      split
      · rename_i same
        subst same
        exact absurd digits.2.cons.1 (by decide)
      · rename_i same
        subst same
        exact absurd digits.2.cons.1 (by decide)
      · rfl
    rw [plain, scanPower_value digits]
    rfl
  · exact scanPower_value digits minus lead start false
  · exact scanPower_value digits minus lead start true

theorem scanScaled_value {exponent : List Char} {e : Int} (known : IsExponent exponent)
    (value : parseExponent? exponent = some e) (minus : Bool) (lead : Nat) (start : Int) :
    scanScaled minus lead start exponent = (powered minus lead start e).map (·, []) := by
  cases known with
  | none =>
      cases value
      have small : (0 : Int).natAbs ≤ largestExponent := Nat.zero_le _
      rw [powered, if_pos small, Int.add_zero]
      change (assemble minus lead start >>= fun x => .ok (x, [])) = _
      cases assemble minus lead start <;> rfl
  | digits letter signed digits =>
      rw [Literal.parseExponent?_cons letter signed digits] at value
      obtain rfl := Option.some.inj value
      rcases letter with rfl | rfl
      · exact scanExponent_value signed digits minus lead start
      · exact scanExponent_value signed digits minus lead start

theorem exists_parseExponent? {exponent : List Char} (known : IsExponent exponent) :
    ∃ e, parseExponent? exponent = some e := by
  cases known with
  | none => exact ⟨0, rfl⟩
  | digits letter signed digits => exact ⟨_, Literal.parseExponent?_cons letter signed digits⟩

/-! ## Numerals -/

theorem ofDigitChars_digitsValue (whole behind : List Char) :
    Nat.ofDigitChars 10 behind (digitsValue whole) = digitsValue (whole ++ behind) := by
  rw [digitsValue, digitsValue, Nat.ofDigitChars_append]

theorem scanAfterWhole_value {whole fraction exponent : List Char} {e : Int}
    (fractional : IsFraction fraction) (known : IsExponent exponent)
    (value : parseExponent? exponent = some e) (filled : fraction ++ exponent ≠ [])
    (fits : digitsValue (whole ++ fraction.tail) ≤ largestDigits) (minus : Bool) :
    scanAfterWhole minus (digitsValue whole) (fraction ++ exponent) =
      ((powered minus (digitsValue (whole ++ fraction.tail)) (-fraction.tail.length) e).map
        Number.float).map (·, []) := by
  cases fractional with
  | none =>
      rw [List.tail_nil, List.append_nil, List.length_nil, Int.natCast_zero, Int.neg_zero]
      -- the exponent starts with its letter, where the digits before it end
      have scaled : scanAfterWhole minus (digitsValue whole) exponent =
          (scanScaled minus (digitsValue whole) 0 exponent).map fun p => (.float p.1, p.2) := by
        cases known with
        | none => exact absurd rfl filled
        | digits letter signed digits => rcases letter with rfl | rfl <;> rfl
      rw [List.nil_append, scaled, scanScaled_value known value]
      cases powered minus (digitsValue whole) 0 e <;> rfl
  | @digits ds digits =>
      rw [List.tail_cons] at fits ⊢
      have stops := Literal.stops_of_parseExponent? value
      have taken := scanFractionDigits_value digits.2 stops
        (by rwa [ofDigitChars_digitsValue] : Nat.ofDigitChars 10 ds (digitsValue whole) ≤ _) 0
      rw [ofDigitChars_digitsValue, Int.zero_sub] at taken
      have scanned : scanFraction minus (digitsValue whole) 0 (ds ++ exponent) =
          scanScaled minus (digitsValue (whole ++ ds)) (-ds.length) exponent := by
        obtain ⟨d, ds, rfl⟩ := List.exists_cons_of_ne_nil digits.1
        rw [List.cons_append] at taken ⊢
        simp only [scanFraction, digits.2.cons.1, if_true, taken]
      change (scanFraction minus (digitsValue whole) 0 (ds ++ exponent)).map _ = _
      rw [scanned, scanScaled_value known value]
      cases powered minus (digitsValue (whole ++ ds)) (-ds.length) e <;> rfl

/-- **Numerals without a loss.** A numeral whose digits fit a word is an integer, or its
double is assembled from its digits and its power of ten. -/
theorem scanNumeral?_parts {whole fraction exponent : List Char} {e : Int} (minus : Bool)
    (known : IsWhole whole) (fractional : IsFraction fraction) (scaled : IsExponent exponent)
    (value : parseExponent? exponent = some e)
    (fits : digitsValue (whole ++ fraction.tail) ≤ largestDigits) :
    scanNumeral? ((if minus then ['-'] else []) ++ (whole ++ (fraction ++ exponent))) =
      some ((if fraction ++ exponent = [] then .ok (.ofInteger minus (digitsValue whole))
        else (powered minus (digitsValue (whole ++ fraction.tail)) (-fraction.tail.length) e).map
          .float).map (·, [])) := by
  have stops : Stops (fraction ++ exponent) := by
    have stops := fractional.stops_append scaled ends_nil
    rwa [List.append_nil] at stops
  have small : digitsValue whole ≤ largestDigits := by
    have above := le_ofDigitChars fraction.tail (digitsValue whole)
    rw [ofDigitChars_digitsValue] at above
    omega
  have front : scanUnsigned minus (whole ++ (fraction ++ exponent)) =
      scanAfterWhole minus (digitsValue whole) (fraction ++ exponent) := by
    rcases scanUnsigned_append known minus with ⟨-, scanned⟩ | ⟨large, -⟩
    · exact scanned _ stops
    · exact absurd small (Nat.not_le_of_lt large)
  have signed : scanNumeral? ((if minus then ['-'] else []) ++ (whole ++ (fraction ++ exponent))) =
      some (scanUnsigned minus (whole ++ (fraction ++ exponent))) := by
    cases minus with
    | true => rfl
    | false =>
        obtain ⟨c, cs, rfl⟩ : ∃ c cs, whole = c :: cs := by cases known <;> exact ⟨_, _, rfl⟩
        exact scanNumeral?_of_isDigit (known.allDigits c List.mem_cons_self)
  rw [signed, front]
  by_cases bare : fraction ++ exponent = []
  · rw [if_pos bare, bare, scanAfterWhole_of_ends ends_nil]
    rfl
  · rw [if_neg bare, scanAfterWhole_value fractional scaled value bare fits]

/-! ## Direct decimals -/

theorem toFloat_ofInteger {n : Nat} (fits : n < 2 ^ 64) (minus : Bool) :
    Measurement.Number.toFloat (.ofInteger minus n) = Decimal.toFloat minus ⟨n, 0⟩ := by
  have word := toFloat_word_eq_pattern fits
  have finite : Decimal.pattern ⟨n, 0⟩ < Pattern.infinity :=
    (scale_of_direct ⟨fits, .inr (.inl rfl)⟩).1
  cases minus with
  | false => exact word
  | true =>
      have negated : -(UInt64.ofNat n).toFloat = Decimal.toFloat true ⟨n, 0⟩ := by
        rw [word, Double.neg_toFloat false finite]
        rfl
      by_cases wide : n = 0 ∨ 2 ^ 63 < n
      · have float : Number.ofInteger true n = .float (-(UInt64.ofNat n).toFloat) := by
          rw [Number.ofInteger, if_neg (by decide), if_pos wide]
        rw [float]
        exact negated
      · have negative : Number.ofInteger true n = .negative (-n) := by
          rw [Number.ofInteger, if_neg (by decide), if_neg wide]
        rw [negative]
        change -(UInt64.ofNat (-(n : Int)).natAbs).toFloat = _
        rw [Int.natAbs_neg, Int.natAbs_natCast]
        exact negated

/-- A direct decimal with an exponent in range is assembled, and one that is out of range is
zero or refused. -/
theorem eq_of_powered {digits places : Nat} {e : Int} {minus : Bool} {x : Float}
    (direct : Decimal.Direct ⟨digits, -places + e⟩)
    (read : powered minus digits (-places) e = .ok x) :
    x = Decimal.toFloat minus ⟨digits, -places + e⟩ := by
  unfold powered at read
  split at read
  · rw [assemble_of_direct direct minus] at read
    exact (Except.ok.inj read).symm
  · rename_i beyond
    unfold largestExponent at beyond
    split at read
    · cases read
    · rename_i other
      obtain rfl := Except.ok.inj read
      obtain ⟨-, kind⟩ := direct
      dsimp only at kind
      obtain rfl : digits = 0 := by omega
      rfl

/-- A numeral by its parts, with the exponent it is written with. -/
theorem IsNumeral.exists_parts {text : List Char} (known : IsNumeral text) :
    ∃ (minus : Bool) (whole fraction exponent : List Char) (e : Int),
      text = (if minus then ['-'] else []) ++ (whole ++ (fraction ++ exponent)) ∧
        IsWhole whole ∧ IsFraction fraction ∧ IsExponent exponent ∧
        parseExponent? exponent = some e := by
  cases known with
  | @parts sign whole fraction exponent signed whole' fractional scaled =>
      obtain ⟨e, value⟩ := exists_parseExponent? scaled
      simp only [signs, List.mem_cons, List.not_mem_nil, or_false] at signed
      rcases signed with rfl | rfl
      · exact ⟨false, whole, fraction, exponent, e, rfl, whole', fractional, scaled, value⟩
      · exact ⟨true, whole, fraction, exponent, e, rfl, whole', fractional, scaled, value⟩

/-- A numeral as a literal. -/
theorem parse?_parts {whole fraction exponent : List Char} {e : Int} (minus : Bool)
    (known : IsWhole whole) (fractional : IsFraction fraction)
    (value : parseExponent? exponent = some e) :
    Literal.parse? ((if minus then ['-'] else []) ++ (whole ++ (fraction ++ exponent))) =
      some (.finite minus
        ⟨digitsValue (whole ++ fraction.tail), -fraction.tail.length + e⟩) := by
  have digits : IsDigits whole := by
    refine ⟨?_, known.allDigits⟩
    cases known with
    | zero => exact List.cons_ne_nil _ _
    | digits _ _ _ => exact List.cons_ne_nil _ _
  have place : e - fraction.tail.length = -fraction.tail.length + e := by omega
  have numeral := Literal.parseDecimal?_append digits fractional value
  rw [place] at numeral
  exact Literal.parse?_append minus (fun c head => digits.isDigit_head head) numeral

/-- **Direct numerals.** What a numeral of a direct decimal denotes is the double it is as a
literal. -/
theorem eq_of_denotesNumber {text : List Char} {minus : Bool} {d : Decimal} {x : Float}
    (written : Literal.parse? text = some (.finite minus d)) (direct : d.Direct)
    (denotes : DenotesNumber text x) : x = d.toFloat minus := by
  obtain ⟨numeral, number, read, rfl⟩ := denotes
  obtain ⟨minus', whole, fraction, exponent, e, rfl, known, fractional, scaled, value⟩ :=
    numeral.exists_parts
  rw [parse?_parts minus' known fractional value] at written
  cases written
  have fits : digitsValue (whole ++ fraction.tail) ≤ largestDigits := Nat.le_pred_of_lt direct.1
  rw [scanNumeral?_parts minus known fractional scaled value fits] at read
  by_cases bare : fraction ++ exponent = []
  · obtain ⟨rfl, rfl⟩ := List.append_eq_nil_iff.1 bare
    obtain rfl : 0 = e := Option.some.inj value
    cases read
    rw [List.tail_nil, List.append_nil] at direct ⊢
    exact toFloat_ofInteger direct.1 minus
  · rw [if_neg bare] at read
    cases scanned : powered minus (digitsValue (whole ++ fraction.tail)) (-fraction.tail.length) e
      with
    | error fault =>
        rw [scanned] at read
        cases read
    | ok y =>
        rw [scanned] at read
        cases read
        exact eq_of_powered direct scanned

/-- A direct decimal is not out of range, unless its exponent is. -/
theorem denotesNumber_of_direct {whole fraction exponent : List Char} {e : Int} (minus : Bool)
    (known : IsWhole whole) (fractional : IsFraction fraction) (scaled : IsExponent exponent)
    (value : parseExponent? exponent = some e) (moderate : e.natAbs ≤ largestExponent)
    (direct : Decimal.Direct ⟨digitsValue (whole ++ fraction.tail), -fraction.tail.length + e⟩) :
    ∃ x, DenotesNumber ((if minus then ['-'] else []) ++ (whole ++ (fraction ++ exponent))) x := by
  have fits : digitsValue (whole ++ fraction.tail) ≤ largestDigits := Nat.le_pred_of_lt direct.1
  have read := scanNumeral?_parts minus known fractional scaled value fits
  have numeral : IsNumeral ((if minus then ['-'] else []) ++ (whole ++ (fraction ++ exponent))) := by
    refine .parts ?_ known fractional scaled
    cases minus <;> decide
  by_cases bare : fraction ++ exponent = []
  · rw [if_pos bare] at read
    exact ⟨_, numeral, _, read, rfl⟩
  · rw [if_neg bare, powered, if_pos moderate, assemble_of_direct direct] at read
    exact ⟨_, numeral, _, read, rfl⟩

end Timings.Json
