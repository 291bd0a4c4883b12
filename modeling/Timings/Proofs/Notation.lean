import Mathlib
import Timings.Decimal.Style
import Timings.Proofs.Decimals
import Timings.Proofs.Doubles
import Timings.Proofs.Literals
import Timings.Text.Basic

/-!
Written numbers, read back.

In every style the text of a decimal is a numeral of it, perhaps with zeros behind the last
digit (`Writes`), whether the point falls between the digits, before them or behind them,
and whether there is an exponent. Since the decimal of a double rounds to the double, the
text is read as it (`Style.parse?_writeChars`), with the sign of a zero.
-/

namespace Timings

open Json (AllDigits IsDigits IsFraction IsExponent)
open Literal (parseDecimal? parseExponent? digitsValue isDigits_toDigits)
open Float.Model (Format UnpackedFloat)

/-! ## Blanks and digits -/

namespace Text

theorem isBlank_of_isDigit {c : Char} (digit : c.isDigit = true) : isBlank c = false := by
  have range := Json.range_of_isDigit digit
  simp only [isBlank, blanks, CharRanges.contains, List.any_cons, List.any_nil,
    Bool.or_false, Bool.or_eq_false_iff, Bool.and_eq_false_iff, decide_eq_false_iff_not]
  omega

theorem isBlank_of_mem_exponent {exponent : List Char} (known : IsExponent exponent) :
    ∀ c ∈ exponent, isBlank c = false := by
  intro c inside
  cases known with
  | none => cases inside
  | digits letter signed digits =>
      rcases List.mem_cons.1 inside with rfl | inside
      · rcases letter with rfl | rfl
        · decide
        · decide
      · rcases List.mem_append.1 inside with inside | inside
        · have signs : ∀ sign ∈ Json.exponentSigns, ∀ c ∈ sign, isBlank c = false := by decide
          exact signs _ signed c inside
        · exact isBlank_of_isDigit (digits.2 c inside)

end Text

/-! ## Numerals of decimals -/

/-- A text is a numeral of a decimal, perhaps with zeros behind the last digit. -/
structure Writes (text : List Char) (d : Decimal) : Prop where
  parsed : ∃ k : Nat, parseDecimal? text = some ⟨d.digits * 10 ^ k, d.exponent - k⟩
  digit : ∀ c ∈ text.head?, c.isDigit = true
  solid : ∀ c ∈ text, Text.isBlank c = false

theorem Writes.of_parts {whole fraction exponent : List Char} {d : Decimal} {e : Int} (k : Nat)
    (digits : IsDigits whole) (fractional : IsFraction fraction)
    (scaled : IsExponent exponent) (power : parseExponent? exponent = some e)
    (value : digitsValue (whole ++ fraction.tail) = d.digits * 10 ^ k)
    (place : e - fraction.tail.length = d.exponent - k) :
    Writes (whole ++ (fraction ++ exponent)) d where
  parsed := ⟨k, by rw [Literal.parseDecimal?_append digits fractional power, value, place]⟩
  digit c head := digits.isDigit_head head
  solid c inside := by
    rcases List.mem_append.1 inside with inside | inside
    · exact Text.isBlank_of_isDigit (digits.2 c inside)
    · rcases List.mem_append.1 inside with inside | inside
      · cases fractional with
        | none => cases inside
        | digits behind =>
            rcases List.mem_cons.1 inside with rfl | inside
            · decide
            · exact Text.isBlank_of_isDigit (behind.2 c inside)
      · exact Text.isBlank_of_mem_exponent scaled c inside

theorem Writes.of_point {whole behind : List Char} {d : Decimal} (k : Nat) (digits : IsDigits whole)
    (digits' : IsDigits behind) (value : digitsValue (whole ++ behind) = d.digits * 10 ^ k)
    (place : 0 - behind.length = d.exponent - k) : Writes (whole ++ '.' :: behind) d := by
  have parts := Writes.of_parts k digits (.digits digits') .none rfl value place
  rwa [List.append_nil] at parts

namespace Decimal

theorem isDigits_digitChars (d : Decimal) : IsDigits d.digitChars := isDigits_toDigits d.digits

theorem digitsValue_digitChars (d : Decimal) : digitsValue d.digitChars = d.digits :=
  Nat.ofDigitChars_ten_toDigits

theorem allDigits_append {ds more : List Char} (front : AllDigits ds) (back : AllDigits more) :
    AllDigits (ds ++ more) := by
  intro c inside
  rcases List.mem_append.1 inside with inside | inside
  · exact front c inside
  · exact back c inside

theorem allDigits_replicate_zero (k : Nat) : AllDigits (List.replicate k '0') := by
  intro c inside
  rw [List.eq_of_mem_replicate inside]
  rfl

theorem digitsValue_append_zeros (ds : List Char) (k : Nat) :
    digitsValue (ds ++ List.replicate k '0') = digitsValue ds * 10 ^ k := by
  unfold digitsValue
  rw [Nat.ofDigitChars_append, Nat.ofDigitChars_replicate_zero, Nat.mul_comm]

theorem digitsValue_zeros_append (k : Nat) (ds : List Char) :
    digitsValue (List.replicate k '0' ++ ds) = digitsValue ds := by
  unfold digitsValue
  rw [Nat.ofDigitChars_append, Nat.ofDigitChars_replicate_zero, Nat.mul_zero]

theorem isDigits_padded (d : Decimal) (k : Nat) :
    IsDigits (d.digitChars ++ List.replicate k '0') :=
  ⟨List.append_ne_nil_of_left_ne_nil d.isDigits_digitChars.1 _,
    allDigits_append d.isDigits_digitChars.2 (allDigits_replicate_zero k)⟩

theorem isDigits_behind (d : Decimal) (k : Nat) :
    IsDigits (List.replicate k '0' ++ d.digitChars) :=
  ⟨List.append_ne_nil_of_right_ne_nil _ d.isDigits_digitChars.1,
    allDigits_append (allDigits_replicate_zero k) d.isDigits_digitChars.2⟩

theorem isDigits_take (d : Decimal) {k : Nat} (some_digit : 0 < k) :
    IsDigits (d.digitChars.take k) := by
  have filled := List.length_pos_of_ne_nil d.isDigits_digitChars.1
  refine ⟨List.ne_nil_of_length_pos ?_, fun c inside =>
    d.isDigits_digitChars.2 c (List.mem_of_mem_take inside)⟩
  rw [List.length_take]
  omega

theorem isDigits_drop {d : Decimal} {k : Nat} (inner : k < d.digitChars.length) :
    IsDigits (d.digitChars.drop k) := by
  refine ⟨List.ne_nil_of_length_pos ?_, fun c inside =>
    d.isDigits_digitChars.2 c (List.mem_of_mem_drop inside)⟩
  rw [List.length_drop]
  omega

/-! ## Notations of a decimal -/

theorem writes_whole (pointed : Bool) {d : Decimal} (whole : 0 ≤ d.exponent) :
    Writes (d.digitChars ++ List.replicate d.exponent.toNat '0' ++
      if pointed then ['.', '0'] else []) d := by
  have padded := d.isDigits_padded d.exponent.toNat
  cases pointed with
  | false =>
      apply Writes.of_parts d.exponent.toNat padded .none .none rfl
      · rw [List.tail_nil, List.append_nil, digitsValue_append_zeros, digitsValue_digitChars]
      · rw [List.tail_nil, List.length_nil]
        omega
  | true =>
      have zeros : List.replicate d.exponent.toNat '0' ++ ['0'] =
          List.replicate (d.exponent.toNat + 1) '0' := List.replicate_succ'.symm
      apply Writes.of_point (d.exponent.toNat + 1) padded ⟨List.cons_ne_nil _ _, by decide⟩
      · rw [List.append_assoc, zeros, digitsValue_append_zeros, digitsValue_digitChars]
      · rw [List.length_singleton]
        omega

/-- The point falls between the digits. -/
theorem writes_split {d : Decimal} {places : Nat} (behind : 0 < places)
    (inner : places < d.digitChars.length) (exponent : d.exponent = -places) :
    Writes (d.digitChars.take (d.digitChars.length - places) ++
      '.' :: d.digitChars.drop (d.digitChars.length - places)) d := by
  have front : IsDigits (d.digitChars.take (d.digitChars.length - places)) :=
    d.isDigits_take (by omega)
  have back : IsDigits (d.digitChars.drop (d.digitChars.length - places)) :=
    isDigits_drop (by omega)
  apply Writes.of_point 0 front back
  · rw [List.take_append_drop, digitsValue_digitChars, Nat.pow_zero, Nat.mul_one]
  · rw [List.length_drop]
    omega

/-- Zeros stand between the point and the digits. -/
theorem writes_behind {d : Decimal} {places : Nat} (outer : d.digitChars.length ≤ places)
    (exponent : d.exponent = -places) :
    Writes ('0' :: '.' :: (List.replicate (places - d.digitChars.length) '0' ++ d.digitChars))
      d := by
  have back := d.isDigits_behind (places - d.digitChars.length)
  have zero : IsDigits ['0'] := ⟨List.cons_ne_nil _ _, by decide⟩
  apply Writes.of_point 0 zero back
  · calc digitsValue (['0'] ++ (List.replicate _ '0' ++ d.digitChars))
        = digitsValue (List.replicate _ '0' ++ d.digitChars) := digitsValue_zeros_append 1 _
      _ = d.digits * 10 ^ 0 := by
        rw [digitsValue_zeros_append, digitsValue_digitChars, Nat.pow_zero, Nat.mul_one]
  · rw [List.length_append, List.length_replicate]
    omega

theorem writes_positional (pointed : Bool) (d : Decimal) : Writes (d.positional pointed) d := by
  unfold positional
  dsimp only
  by_cases whole : 0 ≤ d.exponent
  · rw [if_pos whole]
    exact writes_whole pointed whole
  · rw [if_neg whole]
    by_cases inner : (-d.exponent).toNat < d.digitChars.length
    · rw [if_pos inner]
      exact writes_split (by omega) inner (by omega)
    · rw [if_neg inner]
      exact writes_behind (by omega) (by omega)

/-- The sign in front of the power of ten. -/
theorem sign_mem_exponentSigns (plus : Bool) (power : Int) :
    (if power < 0 then ['-'] else if plus then ['+'] else []) ∈ Json.exponentSigns := by
  split
  · decide
  · split
    · decide
    · decide

theorem parseExponent?_power (plus : Bool) (power : Int) :
    parseExponent? ('e' :: ((if power < 0 then ['-'] else if plus then ['+'] else []) ++
      Nat.toDigits 10 power.natAbs)) = some power := by
  have value : digitsValue (Nat.toDigits 10 power.natAbs) = power.natAbs :=
    Nat.ofDigitChars_ten_toDigits
  rw [Literal.parseExponent?_cons (.inl rfl) (sign_mem_exponentSigns plus power)
    (isDigits_toDigits _), value]
  by_cases negative : power < 0
  · rw [if_pos negative, if_pos rfl]
    congr 1
    omega
  · rw [if_neg negative]
    have other : (if plus then ['+'] else []) ≠ ['-'] := by
      cases plus with
      | false => exact List.cons_ne_nil _ _ ∘ Eq.symm
      | true => decide
    rw [if_neg other]
    congr 1
    omega

theorem writes_scientific (plus : Bool) (d : Decimal) : Writes (d.scientific plus) d := by
  have digits := d.isDigits_digitChars
  have value := d.digitsValue_digitChars
  have leading : d.leading = d.digitChars.length - 1 + d.exponent := rfl
  have scaled := IsExponent.digits (.inl rfl) (sign_mem_exponentSigns plus d.leading)
    (isDigits_toDigits d.leading.natAbs)
  have power := parseExponent?_power plus d.leading
  unfold scientific
  dsimp only
  -- a single digit stands alone, and behind the first of several there is a point
  obtain ⟨c, cs, written⟩ := List.exists_cons_of_ne_nil digits.1
  rw [written] at digits value leading ⊢
  cases cs with
  | nil =>
      apply Writes.of_parts 0 digits .none scaled power
      · rw [List.tail_nil, List.append_nil, value, Nat.pow_zero, Nat.mul_one]
      · rw [List.length_singleton] at leading
        rw [List.tail_nil, List.length_nil]
        omega
  | cons c' cs =>
      have first : IsDigits [c] :=
        ⟨List.cons_ne_nil _ _, fun _ inside => List.mem_singleton.1 inside ▸ digits.2.cons.1⟩
      have behind : IsDigits (c' :: cs) := ⟨List.cons_ne_nil _ _, digits.2.cons.2⟩
      apply Writes.of_parts 0 first (.digits behind) scaled power
      · rw [List.tail_cons, List.singleton_append, value, Nat.pow_zero, Nat.mul_one]
      · rw [List.length_cons] at leading
        rw [List.tail_cons]
        omega

end Decimal

/-! ## Doubles -/

namespace Pattern

theorem ofFloat_lt_infinity {x : Float} (finite : x.isFinite = true) : ofFloat x < infinity := by
  have other : (@UnpackedFloat.unpackExponent Format.binary64 x.toBits.toBitVec).toNat ≠ 2047 :=
    fun all => Double.isFinite_unpack_iff.1 finite (BitVec.eq_of_toNat_eq all)
  have stored : (@UnpackedFloat.unpackExponent Format.binary64 x.toBits.toBitVec).toNat =
      x.toBits.toNat / 2 ^ 52 % 2 ^ 11 := by
    unfold UnpackedFloat.unpackExponent
    rw [BitVec.toNat_cast, BitVec.extractLsb_toNat, Nat.shiftRight_eq_div_pow]
    rfl
  rw [stored] at other
  unfold ofFloat infinity signBit
  omega

/-- A double is its sign and its pattern. -/
theorem toFloat_ofFloat (x : Float) : toFloat (isNegative x) (ofFloat x) = x := by
  have bits : (if isNegative x then signBit + ofFloat x else ofFloat x) = x.toBits.toNat := by
    have bound : x.toBits.toNat < 2 * signBit := x.toBits.toNat_lt
    unfold isNegative ofFloat
    by_cases negative : signBit ≤ x.toBits.toNat
    · have rest : x.toBits.toNat % signBit = x.toBits.toNat - signBit := by
        rw [Nat.mod_eq_sub_mod negative, Nat.mod_eq_of_lt (by omega)]
      rw [if_pos (decide_eq_true negative), rest]
      omega
    · rw [if_neg (by simpa using negative)]
      exact Nat.mod_eq_of_lt (by omega)
  unfold toFloat
  rw [bits, UInt64.ofNat_toNat, Float.ofBits_toBits]

end Pattern

namespace Style

theorem writes_layOut (style : Style) (d : Decimal) : Writes (style.layOut d) d := by
  unfold layOut
  split
  · exact d.writes_positional style.pointed
  · exact d.writes_scientific style.plus

/-- **Numbers read back.** In every style, what is written for a finite double is read as
that double. -/
theorem parse?_writeChars (style : Style) {x : Float} (finite : x.isFinite = true) :
    (Literal.parse? (style.writeChars x)).map Literal.toFloat = some x := by
  have small := Pattern.ofFloat_lt_infinity finite
  have shortest := Decimal.pattern_shortest style.tie (Nat.le_of_lt small)
  have writes := style.writes_layOut (Decimal.shortest style.tie (Pattern.ofFloat x))
  obtain ⟨k, numeral⟩ := writes.parsed
  have written : style.writeChars x = (if Pattern.isNegative x then ['-'] else []) ++
      style.layOut (Decimal.shortest style.tie (Pattern.ofFloat x)) := by
    unfold writeChars
    dsimp only
    rw [if_neg (Nat.lt_asymm small), if_neg (Nat.ne_of_lt small)]
  have nonzero : (Decimal.shortest style.tie (Pattern.ofFloat x)).digits ≠ 0 →
      (Decimal.shortest style.tie (Pattern.ofFloat x)).pattern ≠ 0 := by
    intro digits zero
    rw [← shortest, zero] at digits
    exact digits rfl
  have same := Decimal.pattern_scaled (shortest.symm ▸ small) nonzero k
  rw [written, Literal.parse?_append _ writes.digit numeral, Option.map_some, Literal.toFloat,
    Decimal.toFloat, same, shortest, Pattern.toFloat_ofFloat]

theorem isBlank_of_mem_writeChars (style : Style) (x : Float) :
    ∀ c ∈ style.writeChars x, Text.isBlank c = false := by
  unfold writeChars
  dsimp only
  split
  · decide
  · intro c inside
    rcases List.mem_append.1 inside with inside | inside
    · split at inside
      · rw [List.mem_singleton.1 inside]
        decide
      · cases inside
    · split at inside
      · have word : ∀ c ∈ ['i', 'n', 'f'], Text.isBlank c = false := by decide
        exact word c inside
      · exact (style.writes_layOut _).solid c inside

end Style

end Timings
