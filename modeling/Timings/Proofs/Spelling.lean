import Timings.Proofs.Nearest
import Timings.Proofs.Notation
import Timings.Proofs.Scaling

/-!
# The spelling of number literals

Which texts are number literals is said by a grammar (`Spells`): a sign or none, then one of
the words for infinity and NaN in any case, or digits with a point among or beside them and a
power of ten behind them. The reader accepts these texts and no others (`parse?_eq_some_iff`),
so a literal is told by its text. A decimal stands for the double nearest to it, however
large its power of ten is (`pattern_eq`).
-/

namespace Timings

open Json (AllDigits IsDigits Stops)

/-! ## Decimals of any size -/

namespace Decimal

open Pattern (infinity nearest units)

theorem two_pow_le_ten_pow {k n : Nat} (short : k ≤ 3 * n) : 2 ^ k ≤ 10 ^ n :=
  calc 2 ^ k ≤ 2 ^ (3 * n) := Nat.pow_le_pow_right Nat.two_pos short
    _ = 8 ^ n := Nat.pow_mul 2 3 n
    _ ≤ 10 ^ n := Nat.pow_le_pow_left (by decide) n

theorem nearest_steps_of_large {d : Decimal} (digits : d.digits ≠ 0) (large : 400 < d.exponent) :
    nearest d.steps.1 d.steps.2 = infinity := by
  have none : (-d.exponent).toNat = 0 := by omega
  have tens : 2 ^ 1024 ≤ 10 ^ d.exponent.toNat :=
    @two_pow_le_ten_pow 1024 _ (by omega)
  rw [steps_eq, none, ← Double.places_eq]
  apply Pattern.nearest_eq_infinity Nat.one_pos
  calc units infinity * 1 = 2 ^ 1024 * 2 ^ Double.places := by
        rw [Nat.mul_one, Pattern.units_infinity, Nat.pow_add, Nat.mul_comm]
    _ ≤ d.digits * 10 ^ d.exponent.toNat * 2 ^ Double.places :=
      Nat.mul_le_mul_right _ (Nat.le_trans tens
        (Nat.le_mul_of_pos_left _ (Nat.pos_of_ne_zero digits)))

theorem nearest_steps_of_small {d : Decimal} (small : d.exponent + d.digits.log2 < -400) :
    nearest d.steps.1 d.steps.2 = 0 := by
  have places := Double.places_eq
  have none : d.exponent.toNat = 0 := by omega
  have one : units 0 + units (0 + 1) = 1 := by decide
  rw [steps_eq, none, ← places]
  apply Nat.le_zero.1
  apply Pattern.nearest_le_of_lt_middle (Nat.pow_pos (by decide))
  calc 2 * (d.digits * 10 ^ 0 * 2 ^ Double.places)
      < 2 * (2 ^ (d.digits.log2 + 1) * 10 ^ 0 * 2 ^ Double.places) := by
        rw [Nat.pow_zero, Nat.mul_one, Nat.mul_one]
        exact Nat.mul_lt_mul_of_pos_left (Nat.mul_lt_mul_of_pos_right Nat.lt_log2_self
          (Nat.two_pow_pos _)) Nat.two_pos
    _ = 2 ^ (d.digits.log2 + 2 + Double.places) := by
        rw [Nat.pow_zero, Nat.mul_one, Nat.pow_add 2 _ Double.places, Nat.pow_succ 2 (_ + 1)]
        ac_rfl
    _ ≤ 10 ^ (-d.exponent).toNat := two_pow_le_ten_pow (by omega)
    _ = 10 ^ (-d.exponent).toNat * (units 0 + units (0 + 1)) := by rw [one, Nat.mul_one]

/-- The short cuts for very large and very small decimals give the nearest double as well. -/
theorem pattern_eq (d : Decimal) : d.pattern = nearest d.steps.1 d.steps.2 := by
  unfold pattern
  split
  · next zero =>
      rw [steps_eq, ← Double.places_eq, zero, Nat.zero_mul, Nat.zero_mul]
      exact (Double.nearest_zero (Nat.pow_pos (by decide))).symm
  · next digits =>
      split
      · next large => exact (nearest_steps_of_large digits large).symm
      · split
        · next small => exact (nearest_steps_of_small small).symm
        · rfl

end Decimal

theorem Text.isBlank_of_toLower {c : Char} (solid : isBlank c.toLower = false) :
    isBlank c = false := by
  by_cases upper : c.val ≥ 'A'.val ∧ c.val ≤ 'Z'.val
  · have low : 65 ≤ c.toNat := UInt32.le_iff_toNat_le.1 upper.1
    have high : c.toNat ≤ 90 := UInt32.le_iff_toNat_le.1 upper.2
    simp only [isBlank, blanks, CharRanges.contains, List.any_cons, List.any_nil, Bool.or_false,
      Bool.or_eq_false_iff, Bool.and_eq_false_iff, decide_eq_false_iff_not]
    omega
  · unfold Char.toLower at solid
    rwa [dif_neg upper] at solid

namespace Literal

/-! ## The grammar -/

/-- A sign, or none; the flag says whether it is a minus. -/
inductive SpellsSign : List Char → Bool → Prop
  | none : SpellsSign [] false
  | plus : SpellsSign ['+'] false
  | minus : SpellsSign ['-'] true

/-- A power of ten, or none. -/
inductive SpellsPower : List Char → Int → Prop
  | none : SpellsPower [] 0
  | power {letter : Char} {sign ds : List Char} {negative : Bool}
      (known : letter = 'e' ∨ letter = 'E') (signed : SpellsSign sign negative)
      (digits : IsDigits ds) :
    SpellsPower (letter :: (sign ++ ds))
      (if negative then -(digitsValue ds : Int) else digitsValue ds)

/-- A decimal without sign: digits, with a point before them, among them or behind them or
without one, and a power of ten. -/
inductive SpellsDecimal : List Char → Decimal → Prop
  | plain {ds power : List Char} {e : Int} (digits : IsDigits ds) (scaled : SpellsPower power e) :
    SpellsDecimal (ds ++ power) ⟨digitsValue ds, e⟩
  | pointed {whole fraction power : List Char} {e : Int} (front : AllDigits whole)
      (back : AllDigits fraction) (some_digit : whole ++ fraction ≠ [])
      (scaled : SpellsPower power e) :
    SpellsDecimal (whole ++ '.' :: (fraction ++ power))
      ⟨digitsValue (whole ++ fraction), e - fraction.length⟩

/-- A number literal. -/
inductive Spells : List Char → Literal → Prop
  | infinite {sign word : List Char} {negative : Bool} (signed : SpellsSign sign negative)
      (known : word.map Char.toLower ∈ infinityWords) :
    Spells (sign ++ word) (.infinite negative)
  | notANumber {sign word : List Char} {negative : Bool} (signed : SpellsSign sign negative)
      (known : word.map Char.toLower = nanWord) : Spells (sign ++ word) .notANumber
  | finite {sign number : List Char} {negative : Bool} {d : Decimal}
      (signed : SpellsSign sign negative) (decimal : SpellsDecimal number d) :
    Spells (sign ++ number) (.finite negative d)

/-! ## Signs and digits -/

theorem exists_splitSign (cs : List Char) :
    ∃ sign, SpellsSign sign (splitSign cs).1 ∧ cs = sign ++ (splitSign cs).2 := by
  unfold splitSign
  split
  · exact ⟨['-'], .minus, rfl⟩
  · exact ⟨['+'], .plus, rfl⟩
  · exact ⟨[], .none, rfl⟩

/-- A sign is split off what does not start with one. -/
theorem splitSign_append {sign cs : List Char} {negative : Bool}
    (signed : SpellsSign sign negative) (unsigned : ∀ c ∈ cs.head?, c ≠ '-' ∧ c ≠ '+') :
    splitSign (sign ++ cs) = (negative, cs) := by
  cases signed with
  | none =>
      rw [List.nil_append]
      unfold splitSign
      split
      · exact absurd rfl (unsigned _ rfl).1
      · exact absurd rfl (unsigned _ rfl).2
      · rfl
  | plus => rfl
  | minus => rfl

theorem exists_splitDigits (cs : List Char) :
    ∃ ds rest, splitDigits cs = (ds, rest) ∧ cs = ds ++ rest ∧ AllDigits ds ∧ Stops rest := by
  refine ⟨_, _, rfl, List.takeWhile_append_dropWhile.symm,
    fun c inside => List.mem_takeWhile_imp inside, fun c head => ?_⟩
  have stopped := List.head?_dropWhile_not Char.isDigit cs
  rw [Option.mem_def.1 head] at stopped
  simpa using stopped

/-! ## Powers of ten -/

theorem SpellsSign.mem_exponentSigns {sign : List Char} {negative : Bool}
    (signed : SpellsSign sign negative) :
    sign ∈ Json.exponentSigns ∧ negative = decide (sign = ['-']) := by
  cases signed <;> decide

theorem parseExponent?_eq_some_iff {cs : List Char} {e : Int} :
    parseExponent? cs = some e ↔ SpellsPower cs e := by
  constructor
  · intro read
    rcases eq_nil_or_cons_of_parseExponent? read with rfl | ⟨letter, rest, rfl, known⟩
    · obtain rfl := Option.some.inj read
      exact .none
    · obtain ⟨sign, signed, same⟩ := exists_splitSign rest
      obtain ⟨ds, behind, split, cut, digits, -⟩ := exists_splitDigits (splitSign rest).2
      rw [parseExponent?, if_pos known] at read
      simp only [split] at read
      split at read
      · cases read
      · rename_i written
        rw [not_or, Bool.not_eq_true', Bool.not_eq_false, List.isEmpty_iff,
          List.isEmpty_iff] at written
        obtain ⟨nonempty, rfl⟩ := written
        rw [List.append_nil] at cut
        rw [same, cut, ← Option.some.inj read]
        exact .power known signed ⟨nonempty, digits⟩
  · intro spelled
    cases spelled with
    | none => rfl
    | power known signed digits =>
        obtain ⟨sign, rfl⟩ := signed.mem_exponentSigns
        rw [parseExponent?_cons known sign digits]
        simp only [decide_eq_true_eq]

/-! ## Decimals -/

theorem splitFraction_cases (cs : List Char) :
    (∃ behind, cs = '.' :: behind ∧ splitFraction cs = splitDigits behind) ∨
      splitFraction cs = ([], cs) := by
  unfold splitFraction
  split
  · exact .inl ⟨_, rfl, rfl⟩
  · exact .inr rfl

theorem parseDecimal?_eq_some_iff {cs : List Char} {d : Decimal} :
    parseDecimal? cs = some d ↔ SpellsDecimal cs d := by
  constructor
  · intro read
    obtain ⟨whole, rest, split, rfl, front, -⟩ := exists_splitDigits cs
    unfold parseDecimal? at read
    simp only [split] at read
    rcases splitFraction_cases rest with ⟨behind, rfl, point⟩ | point
    · obtain ⟨fraction, power, split', rfl, back, -⟩ := exists_splitDigits behind
      simp only [point, split'] at read
      split at read
      · cases read
      · rename_i some_digit
        rw [List.isEmpty_iff, List.isEmpty_iff, ← List.append_eq_nil_iff] at some_digit
        obtain ⟨e, scaled, rfl⟩ := Option.map_eq_some_iff.1 read
        exact .pointed front back some_digit (parseExponent?_eq_some_iff.1 scaled)
    · simp only [point] at read
      split at read
      · cases read
      · rename_i some_digit
        rw [List.isEmpty_iff, List.isEmpty_iff, and_iff_left rfl] at some_digit
        obtain ⟨e, scaled, rfl⟩ := Option.map_eq_some_iff.1 read
        rw [List.append_nil, List.length_nil, Int.natCast_zero, Int.sub_zero]
        exact .plain ⟨some_digit, front⟩ (parseExponent?_eq_some_iff.1 scaled)
  · intro spelled
    cases spelled with
    | plain digits scaled =>
        have read := parseDecimal?_append digits .none (parseExponent?_eq_some_iff.2 scaled)
        rwa [List.nil_append, List.tail_nil, List.append_nil, List.length_nil, Int.natCast_zero,
          Int.sub_zero] at read
    | @pointed whole fraction power e front back some_digit scaled =>
        have scaled := parseExponent?_eq_some_iff.2 scaled
        have stops : Stops ('.' :: (fraction ++ power)) := by
          intro c head
          cases head
          rfl
        have point : splitFraction ('.' :: (fraction ++ power)) = (fraction, power) :=
          splitDigits_append back (stops_of_parseExponent? scaled)
        have nonempty : ¬(whole.isEmpty ∧ fraction.isEmpty) := by
          rw [List.isEmpty_iff, List.isEmpty_iff, ← List.append_eq_nil_iff]
          exact some_digit
        unfold parseDecimal?
        simp only [splitDigits_append front stops, point, if_neg nonempty, scaled, Option.map_some]

/-- A decimal starts with a digit or a point. -/
theorem SpellsDecimal.exists_cons {cs : List Char} {d : Decimal} (spelled : SpellsDecimal cs d) :
    ∃ c rest, cs = c :: rest ∧ (c.isDigit = true ∨ c = '.') := by
  cases spelled with
  | plain digits _ =>
      obtain ⟨c, ds, rfl⟩ := List.exists_cons_of_ne_nil digits.1
      exact ⟨c, _, rfl, .inl digits.2.cons.1⟩
  | @pointed whole _ _ _ front _ _ _ =>
      cases whole with
      | nil => exact ⟨'.', _, rfl, .inr rfl⟩
      | cons c ds => exact ⟨c, _, rfl, .inl front.cons.1⟩

/-! ## Literals -/

/-- No word starts as a decimal does, or with a sign. -/
theorem head_of_word {c : Char} {cs : List Char}
    (known : (c :: cs).map Char.toLower ∈ infinityWords ∨ (c :: cs).map Char.toLower = nanWord) :
    (c ≠ '-' ∧ c ≠ '+') ∧ ¬(c.isDigit = true ∨ c = '.') := by
  have first := first_of_word known
  refine ⟨⟨?_, ?_⟩, ?_⟩
  · rintro rfl
    exact absurd first (by decide)
  · rintro rfl
    exact absurd first (by decide)
  · rintro (digit | rfl)
    · have letter := isDigit_of_word known
      rw [toLower_of_isDigit digit, digit] at letter
      cases letter
    · exact absurd first (by decide)

theorem splitSign_word {sign word : List Char} {negative : Bool}
    (signed : SpellsSign sign negative)
    (known : word.map Char.toLower ∈ infinityWords ∨ word.map Char.toLower = nanWord) :
    splitSign (sign ++ word) = (negative, word) := by
  refine splitSign_append signed fun c head => ?_
  obtain ⟨rest, rfl⟩ := List.head?_eq_some_iff.1 head
  exact (head_of_word known).1

theorem parse?_eq_some_iff {cs : List Char} {literal : Literal} :
    parse? cs = some literal ↔ Spells cs literal := by
  constructor
  · intro read
    obtain ⟨sign, signed, same⟩ := exists_splitSign cs
    unfold parse? at read
    dsimp only at read
    rw [same]
    split at read
    · rename_i word
      rw [← Option.some.inj read]
      exact .infinite signed (List.contains_iff_mem.1 word)
    · split at read
      · rename_i word
        rw [← Option.some.inj read]
        exact .notANumber signed word
      · obtain ⟨d, decimal, rfl⟩ := Option.map_eq_some_iff.1 read
        exact .finite signed (parseDecimal?_eq_some_iff.1 decimal)
  · intro spelled
    unfold parse?
    cases spelled with
    | infinite signed known =>
        rw [splitSign_word signed (.inl known)]
        exact if_pos (List.contains_iff_mem.2 known)
    | notANumber signed known =>
        rw [splitSign_word signed (.inr known)]
        dsimp only
        rw [known]
        rfl
    | finite signed decimal =>
        obtain ⟨c, rest, rfl, first⟩ := decimal.exists_cons
        have unsigned : ∀ c' ∈ (c :: rest).head?, c' ≠ '-' ∧ c' ≠ '+' := by
          intro c' head
          obtain rfl := Option.some.inj head
          constructor <;> rintro rfl <;> exact absurd first (by decide)
        have noWord : ¬((c :: rest).map Char.toLower ∈ infinityWords ∨
            (c :: rest).map Char.toLower = nanWord) :=
          fun known => (head_of_word known).2 first
        rw [not_or] at noWord
        rw [splitSign_append signed unsigned]
        dsimp only
        rw [if_neg (mt List.contains_iff_mem.1 noWord.1), if_neg noWord.2,
          parseDecimal?_eq_some_iff.2 decimal]
        rfl

/-! ## Characters of literals -/

/-- The characters of decimals. -/
def IsNumeric (c : Char) : Prop := c.isDigit = true ∨ c ∈ ['+', '-', '.', 'e', 'E']

instance (c : Char) : Decidable (IsNumeric c) :=
  inferInstanceAs (Decidable (c.isDigit = true ∨ c ∈ ['+', '-', '.', 'e', 'E']))

/-- What is said of the digits and of the other characters of decimals is said of all. -/
theorem IsNumeric.imp {P : Char → Prop} (digit : ∀ c, c.isDigit = true → P c)
    (other : ∀ c ∈ ['+', '-', '.', 'e', 'E'], P c) {c : Char} (numeric : IsNumeric c) : P c :=
  numeric.elim (digit c) (other c)

theorem IsNumeric.isBlank {c : Char} (numeric : IsNumeric c) : Text.isBlank c = false :=
  numeric.imp (fun _ => Text.isBlank_of_isDigit) (by decide)

theorem isNumeric_of_allDigits {ds : List Char} (digits : AllDigits ds) : ∀ c ∈ ds, IsNumeric c :=
  fun c inside => .inl (digits c inside)

theorem SpellsSign.isNumeric {sign : List Char} {negative : Bool}
    (signed : SpellsSign sign negative) : ∀ c ∈ sign, IsNumeric c := by
  cases signed <;> decide

theorem SpellsPower.isNumeric {power : List Char} {e : Int} (scaled : SpellsPower power e) :
    ∀ c ∈ power, IsNumeric c := by
  cases scaled with
  | none => decide
  | power known signed digits =>
      rw [List.forall_mem_cons, List.forall_mem_append]
      refine ⟨?_, signed.isNumeric, isNumeric_of_allDigits digits.2⟩
      rcases known with rfl | rfl <;> decide

theorem SpellsDecimal.isNumeric {number : List Char} {d : Decimal}
    (decimal : SpellsDecimal number d) : ∀ c ∈ number, IsNumeric c := by
  cases decimal with
  | plain digits scaled =>
      rw [List.forall_mem_append]
      exact ⟨isNumeric_of_allDigits digits.2, scaled.isNumeric⟩
  | pointed front back _ scaled =>
      simp only [List.forall_mem_append, List.forall_mem_cons]
      exact ⟨isNumeric_of_allDigits front, by decide, isNumeric_of_allDigits back,
        scaled.isNumeric⟩

/-- A decimal has digits, signs, a point and a letter before its power of ten only. -/
theorem Spells.isNumeric {cs : List Char} {negative : Bool} {d : Decimal}
    (spelled : Spells cs (.finite negative d)) : ∀ c ∈ cs, IsNumeric c := by
  cases spelled with
  | finite signed decimal =>
      exact List.forall_mem_append.2 ⟨signed.isNumeric, decimal.isNumeric⟩

theorem isBlank_of_mem_word {word : List Char}
    (known : word.map Char.toLower ∈ infinityWords ∨ word.map Char.toLower = nanWord) :
    ∀ c ∈ word, Text.isBlank c = false := by
  have letters : ∀ w ∈ infinityWords ++ [nanWord], ∀ c ∈ w, Text.isBlank c = false := by decide
  intro c inside
  apply Text.isBlank_of_toLower
  refine letters (word.map Char.toLower) ?_ _ (List.mem_map_of_mem inside)
  rwa [List.mem_append, List.mem_singleton]

/-- There is no blank in a literal. -/
theorem Spells.isBlank {cs : List Char} {literal : Literal} (spelled : Spells cs literal) :
    ∀ c ∈ cs, Text.isBlank c = false := by
  have solid {sign : List Char} {negative : Bool} (signed : SpellsSign sign negative) :
      ∀ c ∈ sign, Text.isBlank c = false := fun c inside => (signed.isNumeric c inside).isBlank
  cases spelled with
  | infinite signed known =>
      exact List.forall_mem_append.2 ⟨solid signed, isBlank_of_mem_word (.inl known)⟩
  | notANumber signed known =>
      exact List.forall_mem_append.2 ⟨solid signed, isBlank_of_mem_word (.inr known)⟩
  | finite signed decimal =>
      exact fun c inside => ((Spells.finite signed decimal).isNumeric c inside).isBlank

end Literal

end Timings
