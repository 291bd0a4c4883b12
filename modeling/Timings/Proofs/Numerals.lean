import Timings.Proofs.Grammar

/-!
Reading numerals.

A text that is a numeral is read as a whole, whatever follows it, as long as that cannot
go on the numeral; the only fault it can have is to be out of range. The scanners are
followed from the end of a numeral to its front: exponent, fraction, digits before the
point, sign.
-/

namespace Timings.Json

/-! ## Digits -/

/-- Whether a text cannot go on digits in front of it. -/
def Stops (rest : List Char) : Prop := ∀ c ∈ rest.head?, c.isDigit = false

theorem Ends.stops {rest : List Char} (ends : Ends rest) : Stops rest :=
  fun c head => (ends c head).1

theorem Stops.eq_nil_or_cons {rest : List Char} (stops : Stops rest) :
    rest = [] ∨ ∃ c cs, rest = c :: cs ∧ c.isDigit = false := by
  cases rest with
  | nil => exact .inl rfl
  | cons c cs => exact .inr ⟨c, cs, rfl, stops c rfl⟩

theorem dropWhile_isDigit_append {ds rest : List Char} (digits : AllDigits ds)
    (stops : Stops rest) : (ds ++ rest).dropWhile Char.isDigit = rest := by
  rw [List.dropWhile_append_of_pos digits]
  rcases stops.eq_nil_or_cons with rfl | ⟨c, cs, rfl, other⟩
  · rfl
  · exact List.dropWhile_cons_of_neg (by simp [other])

theorem AllDigits.cons {d : Char} {ds : List Char} (digits : AllDigits (d :: ds)) :
    d.isDigit = true ∧ AllDigits ds :=
  ⟨digits d List.mem_cons_self, fun c inside => digits c (List.mem_cons_of_mem d inside)⟩

theorem IsDigits.isDigit_head {ds rest : List Char} {c : Char} (digits : IsDigits ds)
    (head : (ds ++ rest).head? = some c) : c.isDigit = true := by
  obtain ⟨d, ds, rfl⟩ := List.exists_cons_of_ne_nil digits.1
  cases head
  exact digits.2.cons.1

theorem scanExponentDigits_append {ds : List Char} (digits : AllDigits ds) (e : Nat) :
    ∃ power : Option Nat, ∀ rest, Stops rest →
      scanExponentDigits e (ds ++ rest) = power.map (·, rest) := by
  induction ds generalizing e with
  | nil =>
    refine ⟨some e, fun rest stops => ?_⟩
    rcases stops.eq_nil_or_cons with rfl | ⟨c, cs, rfl, other⟩
    · rfl
    · simp [scanExponentDigits, other]
  | cons d ds ih =>
    obtain ⟨digit, digits⟩ := digits.cons
    by_cases large : largestExponent < e * 10 + digitValue d
    · exact ⟨none, fun rest stops => by simp [scanExponentDigits, digit, large]⟩
    · obtain ⟨power, scanned⟩ := ih digits (e * 10 + digitValue d)
      refine ⟨power, fun rest stops => ?_⟩
      simp [scanExponentDigits, digit, large, scanned rest stops]

theorem scanFractionDigits_append {ds : List Char} (digits : AllDigits ds) (lead : Nat) (e : Int) :
    ∃ lead' e', ∀ rest, Stops rest →
      scanFractionDigits lead e (ds ++ rest) = (lead', e', rest) := by
  induction ds generalizing lead e with
  | nil =>
    refine ⟨lead, e, fun rest stops => ?_⟩
    rcases stops.eq_nil_or_cons with rfl | ⟨c, cs, rfl, other⟩
    · rfl
    · simp [scanFractionDigits, other]
  | cons d ds ih =>
    obtain ⟨digit, digits⟩ := digits.cons
    by_cases large : largestDigits < lead * 10 + digitValue d
    · refine ⟨lead, e, fun rest stops => ?_⟩
      simp [scanFractionDigits, digit, large, dropWhile_isDigit_append digits stops]
    · obtain ⟨lead', e', scanned⟩ := ih digits (lead * 10 + digitValue d) (e - 1)
      refine ⟨lead', e', fun rest stops => ?_⟩
      simp [scanFractionDigits, digit, large, scanned rest stops]

theorem scanLong_append {ds rest : List Char} (digits : AllDigits ds) (minus : Bool) (lead : Nat)
    (e : Int) : scanLong minus lead e (ds ++ rest) = scanLong minus lead (e + ds.length) rest := by
  induction ds generalizing e with
  | nil => simp
  | cons d ds ih =>
    obtain ⟨digit, digits⟩ := digits.cons
    have shifted : e + 1 + (ds.length : Int) = e + ((d :: ds).length : Int) := by
      simp only [List.length_cons]
      omega
    simp only [List.cons_append, scanLong, digit, if_true]
    rw [ih digits, shifted]

theorem le_ofDigitChars (ds : List Char) (lead : Nat) : lead ≤ Nat.ofDigitChars 10 ds lead := by
  rw [Nat.ofDigitChars_eq_ofDigitChars_zero]
  have scaled : lead ≤ 10 ^ ds.length * lead := Nat.le_mul_of_pos_left _ (Nat.pow_pos (by decide))
  omega

theorem range_of_isDigit {d : Char} (digit : d.isDigit = true) : 48 ≤ d.toNat ∧ d.toNat ≤ 57 := by
  have range : '0' ≤ d ∧ d ≤ '9' := by simpa [Char.isDigit, Char.le_def] using digit
  exact range

theorem digitValue_lt_ten {d : Char} (digit : d.isDigit = true) : digitValue d < 10 := by
  obtain ⟨-, upper⟩ := range_of_isDigit digit
  unfold digitValue
  change d.toNat - 48 < 10
  omega

theorem ofDigitChars_cons_eq (d : Char) (ds : List Char) (lead : Nat) :
    Nat.ofDigitChars 10 (d :: ds) lead = Nat.ofDigitChars 10 ds (lead * 10 + digitValue d) := by
  rw [Nat.ofDigitChars_cons, Nat.mul_comm]
  rfl

/-- The digits before the point make a word as long as they fit one; else they are
shortened, and the number is not read as an integer. -/
theorem scanWhole_append {ds : List Char} (digits : AllDigits ds) (minus : Bool) {lead : Nat}
    (small : lead ≤ largestDigits) :
    (Nat.ofDigitChars 10 ds lead ≤ largestDigits ∧ ∀ rest, Stops rest →
      scanWhole minus lead (ds ++ rest) =
        scanAfterWhole minus (Nat.ofDigitChars 10 ds lead) rest) ∨
    (largestDigits < Nat.ofDigitChars 10 ds lead ∧ ∃ lead' e, ∀ rest,
      scanWhole minus lead (ds ++ rest) =
        (scanLong minus lead' e rest).map fun p => (.float p.1, p.2)) := by
  induction ds generalizing lead with
  | nil =>
    refine .inl ⟨small, fun rest stops => ?_⟩
    rcases stops.eq_nil_or_cons with rfl | ⟨c, cs, rfl, other⟩
    · rfl
    · simp [scanWhole, other]
  | cons d ds ih =>
    obtain ⟨digit, digits⟩ := digits.cons
    rw [ofDigitChars_cons_eq]
    by_cases large : largestDigits < lead * 10 + digitValue d
    · refine .inr ⟨Nat.lt_of_lt_of_le large (le_ofDigitChars ds _), lead, 1 + ds.length, ?_⟩
      intro rest
      simp only [List.cons_append, scanWhole, digit, large, if_true]
      rw [scanLong_append digits]
    · have step : ∀ rest, scanWhole minus lead (d :: ds ++ rest) =
          scanWhole minus (lead * 10 + digitValue d) (ds ++ rest) := by
        intro rest
        simp only [List.cons_append, scanWhole, digit, large, if_true, if_false]
      simp only [step]
      exact ih digits (Nat.le_of_not_lt large)

/-! ## Numerals -/

/-- A scanner takes a text as a whole, and nothing of what follows it; the only fault
is a number out of range. -/
def Consumes {α : Type} (scan : List Char → Except Fault (α × List Char)) (text : List Char) :
    Prop :=
  ∃ answer : Except Fault α, (∀ fault, answer = .error fault → fault = .numberOutOfRange) ∧
    ∀ rest, Ends rest → scan (text ++ rest) = answer.map (·, rest)

theorem assemble_eq_error {minus : Bool} {digits : Nat} {e : Int} {fault : Fault}
    (failed : assemble minus digits e = .error fault) : fault = .numberOutOfRange := by
  unfold assemble at failed
  split at failed
  · cases failed
    rfl
  · cases failed

theorem consumes_scanPower {ds : List Char} (digits : IsDigits ds) (minus : Bool) (lead : Nat)
    (start : Int) (down : Bool) : Consumes (scanPower minus lead start down) ds := by
  obtain ⟨filled, digits⟩ := digits
  obtain ⟨d, ds, rfl⟩ := List.exists_cons_of_ne_nil filled
  obtain ⟨digit, digits⟩ := digits.cons
  obtain ⟨power, scanned⟩ := scanExponentDigits_append digits (digitValue d)
  cases power with
  | some e =>
    refine ⟨assemble minus lead (if down then start - e else start + e),
      fun fault => assemble_eq_error, fun rest ends => ?_⟩
    simp only [List.cons_append, scanPower, digit, if_true, scanned rest ends.stops, Option.map]
    rfl
  | none =>
    by_cases large : lead ≠ 0 ∧ (!down) = true
    · refine ⟨.error .numberOutOfRange, ?_, fun rest ends => ?_⟩
      · rintro fault ⟨⟩
        rfl
      · simp only [List.cons_append, scanPower, digit, if_true, scanned rest ends.stops,
          Option.map]
        rw [if_pos large]
        rfl
    · refine ⟨.ok (Pattern.toFloat minus 0), ?_, fun rest ends => ?_⟩
      · rintro fault ⟨⟩
      · simp only [List.cons_append, scanPower, digit, if_true, scanned rest ends.stops,
          Option.map, dropWhile_isDigit_append digits ends.stops]
        rw [if_neg large]
        rfl

theorem consumes_scanExponent {sign ds : List Char} (signed : sign ∈ exponentSigns)
    (digits : IsDigits ds) (minus : Bool) (lead : Nat) (start : Int) :
    Consumes (scanExponent minus lead start) (sign ++ ds) := by
  simp only [exponentSigns, List.mem_cons, List.not_mem_nil, or_false] at signed
  rcases signed with rfl | rfl | rfl
  · obtain ⟨answer, range, scanned⟩ := consumes_scanPower digits minus lead start false
    refine ⟨answer, range, fun rest ends => ?_⟩
    rw [← scanned rest ends, List.nil_append]
    unfold scanExponent
    split
    · rename_i same
      exact absurd (digits.isDigit_head (congrArg List.head? same)) (by decide)
    · rename_i same
      exact absurd (digits.isDigit_head (congrArg List.head? same)) (by decide)
    · rfl
  · exact consumes_scanPower digits minus lead start false
  · exact consumes_scanPower digits minus lead start true

theorem consumes_scanScaled {exponent : List Char} (known : IsExponent exponent) (minus : Bool)
    (lead : Nat) (e : Int) : Consumes (scanScaled minus lead e) exponent := by
  cases known with
  | none =>
    refine ⟨assemble minus lead e, fun fault => assemble_eq_error, fun rest ends => ?_⟩
    rw [List.nil_append]
    unfold scanScaled
    split
    · exact absurd rfl (ends 'e' rfl).2.2.1
    · exact absurd rfl (ends 'E' rfl).2.2.2
    · rfl
  | digits letter signed digits =>
    rcases letter with rfl | rfl
    · exact consumes_scanExponent signed digits minus lead e
    · exact consumes_scanExponent signed digits minus lead e

theorem IsExponent.head_append {exponent rest : List Char} (known : IsExponent exponent)
    (ends : Ends rest) : ∀ c ∈ (exponent ++ rest).head?, c.isDigit = false ∧ c ≠ '.' := by
  intro c head
  cases known with
  | none => exact ⟨(ends c head).1, (ends c head).2.1⟩
  | digits letter signed digits =>
    cases head
    rcases letter with rfl | rfl <;> decide

theorem IsFraction.stops_append {fraction exponent rest : List Char}
    (fractional : IsFraction fraction) (power : IsExponent exponent) (ends : Ends rest) :
    Stops (fraction ++ (exponent ++ rest)) := by
  intro c head
  cases fractional with
  | none => exact (power.head_append ends c head).1
  | digits digits =>
    cases head
    rfl

theorem consumes_scanFraction {ds exponent : List Char} (digits : IsDigits ds)
    (known : IsExponent exponent) (minus : Bool) (lead : Nat) (e : Int) :
    Consumes (scanFraction minus lead e) (ds ++ exponent) := by
  obtain ⟨lead', e', taken⟩ := scanFractionDigits_append digits.2 lead e
  obtain ⟨answer, range, scanned⟩ := consumes_scanScaled known minus lead' e'
  refine ⟨answer, range, fun rest ends => ?_⟩
  rw [← scanned rest ends, List.append_assoc]
  have read := taken (exponent ++ rest) fun c head => (known.head_append ends c head).1
  obtain ⟨d, ds, rfl⟩ := List.exists_cons_of_ne_nil digits.1
  rw [List.cons_append] at read ⊢
  simp only [scanFraction, digits.2.cons.1, if_true, read]

theorem scanLong_eq_scanScaled {cs : List Char}
    (head : ∀ c ∈ cs.head?, c.isDigit = false ∧ c ≠ '.') (minus : Bool) (lead : Nat) (e : Int) :
    scanLong minus lead e cs = scanScaled minus lead e cs := by
  cases cs with
  | nil => rfl
  | cons c cs =>
    obtain ⟨digit, point⟩ := head c rfl
    simp only [scanLong, digit, point, if_false, Bool.false_eq_true]

theorem consumes_scanLong {fraction exponent : List Char} (fractional : IsFraction fraction)
    (known : IsExponent exponent) (minus : Bool) (lead : Nat) (e : Int) :
    Consumes (scanLong minus lead e) (fraction ++ exponent) := by
  cases fractional with
  | digits digits => exact consumes_scanFraction digits known minus lead e
  | none =>
    obtain ⟨answer, range, scanned⟩ := consumes_scanScaled known minus lead e
    refine ⟨answer, range, fun rest ends => ?_⟩
    rw [← scanned rest ends]
    exact scanLong_eq_scanScaled (known.head_append ends) minus lead e

/-- A scanner of numbers takes a text as `Consumes` says, and gives no integer. -/
def ConsumesFloat (scan : List Char → Except Fault (Number × List Char)) (text : List Char) :
    Prop :=
  ∃ answer : Except Fault Float, (∀ fault, answer = .error fault → fault = .numberOutOfRange) ∧
    ∀ rest, Ends rest → scan (text ++ rest) = (answer.map Number.float).map (·, rest)

theorem Consumes.float {scan : List Char → Except Fault (Float × List Char)}
    {scan' : List Char → Except Fault (Number × List Char)} {text text' : List Char}
    (consumes : Consumes scan text)
    (same : ∀ rest, Ends rest →
      scan' (text' ++ rest) = (scan (text ++ rest)).map fun p => (.float p.1, p.2)) :
    ConsumesFloat scan' text' := by
  obtain ⟨answer, range, scanned⟩ := consumes
  refine ⟨answer, range, fun rest ends => ?_⟩
  rw [same rest ends, scanned rest ends]
  cases answer <;> rfl

theorem scanAfterWhole_of_ends {rest : List Char} (ends : Ends rest) (minus : Bool)
    (digits : Nat) : scanAfterWhole minus digits rest = .ok (.ofInteger minus digits, rest) := by
  unfold scanAfterWhole
  split
  · exact absurd rfl (ends '.' rfl).2.1
  · exact absurd rfl (ends 'e' rfl).2.2.1
  · exact absurd rfl (ends 'E' rfl).2.2.2
  · rfl

theorem consumesFloat_scanAfterWhole {fraction exponent : List Char}
    (fractional : IsFraction fraction) (known : IsExponent exponent)
    (filled : fraction ++ exponent ≠ []) (minus : Bool) (digits : Nat) :
    ConsumesFloat (scanAfterWhole minus digits) (fraction ++ exponent) := by
  cases fractional with
  | digits behind =>
    exact (consumes_scanFraction behind known minus digits 0).float fun rest ends => rfl
  | none =>
    cases known with
    | none => exact absurd rfl filled
    | digits letter signed behind =>
      rcases letter with rfl | rfl
      · exact (consumes_scanExponent signed behind minus digits 0).float fun rest ends => rfl
      · exact (consumes_scanExponent signed behind minus digits 0).float fun rest ends => rfl

theorem IsWhole.allDigits {whole : List Char} (known : IsWhole whole) : AllDigits whole := by
  intro c inside
  cases known with
  | zero =>
    rw [List.mem_singleton.1 inside]
    decide
  | digits other digit digits =>
    rcases List.mem_cons.1 inside with rfl | inside
    · exact digit
    · exact digits c inside

theorem IsWhole.isNumeral {whole : List Char} (known : IsWhole whole) : IsNumeral whole := by
  have parts : IsNumeral ([] ++ (whole ++ ([] ++ []))) := .parts (by decide) known .none .none
  rwa [List.nil_append, List.nil_append, List.append_nil] at parts

theorem scanUnsigned_append {whole : List Char} (known : IsWhole whole) (minus : Bool) :
    (Nat.ofDigitChars 10 whole 0 ≤ largestDigits ∧ ∀ rest, Stops rest →
      scanUnsigned minus (whole ++ rest) =
        scanAfterWhole minus (Nat.ofDigitChars 10 whole 0) rest) ∨
    (largestDigits < Nat.ofDigitChars 10 whole 0 ∧ ∃ lead e, ∀ rest,
      scanUnsigned minus (whole ++ rest) =
        (scanLong minus lead e rest).map fun p => (.float p.1, p.2)) := by
  cases known with
  | zero =>
    refine .inl ⟨by decide, fun rest stops => ?_⟩
    rcases stops.eq_nil_or_cons with rfl | ⟨c, cs, rfl, other⟩
    · rfl
    · simp [scanUnsigned, other, Nat.ofDigitChars_cons]
  | @digits d ds other digit digits =>
    have step : ∀ rest, scanUnsigned minus (d :: ds ++ rest) =
        scanWhole minus (digitValue d) (ds ++ rest) := by
      intro rest
      simp [scanUnsigned, other, digit]
    have small : digitValue d ≤ largestDigits := by
      have digitValue := digitValue_lt_ten digit
      unfold largestDigits
      omega
    have value : Nat.ofDigitChars 10 (d :: ds) 0 = Nat.ofDigitChars 10 ds (digitValue d) := by
      rw [ofDigitChars_cons_eq, Nat.zero_mul, Nat.zero_add]
    simp only [step, value]
    exact scanWhole_append digits minus small

theorem Number.ofInteger_eq_natural_iff {minus : Bool} {digits n : Nat} :
    Number.ofInteger minus digits = .natural n ↔ minus = false ∧ digits = n := by
  unfold Number.ofInteger
  cases minus with
  | false => simp
  | true =>
    simp only [Bool.not_true, Bool.false_eq_true, if_false]
    split <;> simp

theorem map_float_ne_natural (answer : Except Fault Float) (n : Nat) :
    answer.map Number.float ≠ .ok (.natural n) := by
  cases answer <;> simp [Except.map]

theorem map_float_eq_error {answer : Except Fault Float} {fault : Fault}
    (failed : answer.map Number.float = .error fault) : answer = .error fault := by
  cases answer with
  | error other =>
    cases failed
    rfl
  | ok x => cases failed

theorem scanUnsigned_append_append {whole fraction exponent : List Char} (known : IsWhole whole)
    (fractional : IsFraction fraction) (power : IsExponent exponent) (minus : Bool) :
    ∃ answer : Except Fault Number,
      (∀ fault, answer = .error fault → fault = .numberOutOfRange) ∧
      (∀ n, answer = .ok (.natural n) ↔ (minus = false ∧ fraction ++ exponent = []) ∧
        Nat.ofDigitChars 10 whole 0 = n ∧ n ≤ largestDigits) ∧
      ∀ rest, Ends rest →
        scanUnsigned minus (whole ++ (fraction ++ exponent ++ rest)) = answer.map (·, rest) := by
  have stops : ∀ rest, Ends rest → Stops (fraction ++ exponent ++ rest) := by
    intro rest ends
    rw [List.append_assoc]
    exact fractional.stops_append power ends
  rcases scanUnsigned_append known minus with ⟨fits, scanned⟩ | ⟨large, lead, e, scanned⟩
  · by_cases bare : fraction ++ exponent = []
    · rw [bare] at stops ⊢
      refine ⟨.ok (.ofInteger minus (Nat.ofDigitChars 10 whole 0)), ?_, fun n => ?_, ?_⟩
      · rintro fault ⟨⟩
      · rw [Except.ok.injEq, Number.ofInteger_eq_natural_iff]
        constructor
        · rintro ⟨positive, rfl⟩
          exact ⟨⟨positive, rfl⟩, rfl, fits⟩
        · rintro ⟨⟨positive, -⟩, same, -⟩
          exact ⟨positive, same⟩
      · intro rest ends
        rw [scanned _ (stops rest ends)]
        exact scanAfterWhole_of_ends ends minus _
    · obtain ⟨answer, range, read⟩ := consumesFloat_scanAfterWhole fractional power bare minus
        (Nat.ofDigitChars 10 whole 0)
      refine ⟨answer.map .float, fun fault failed => range fault (map_float_eq_error failed),
        fun n => ?_, fun rest ends => ?_⟩
      · simp only [map_float_ne_natural, bare, and_false, false_and]
      · rw [scanned _ (stops rest ends), read rest ends]
  · obtain ⟨answer, range, read⟩ : ConsumesFloat (fun cs => scanUnsigned minus (whole ++ cs))
        (fraction ++ exponent) :=
      (consumes_scanLong fractional power minus lead e).float fun rest ends => scanned _
    refine ⟨answer.map .float, fun fault failed => range fault (map_float_eq_error failed),
      fun n => ?_, read⟩
    constructor
    · intro natural
      exact absurd natural (map_float_ne_natural answer n)
    · rintro ⟨-, rfl, fits⟩
      omega

theorem isWhole_append_iff {whole fraction exponent : List Char} (known : IsWhole whole)
    (fractional : IsFraction fraction) (power : IsExponent exponent) :
    IsWhole (whole ++ (fraction ++ exponent)) ↔ fraction ++ exponent = [] := by
  constructor
  · intro longer
    have digit : ∀ c ∈ fraction ++ exponent, c.isDigit = true := fun c inside =>
      longer.allDigits c (List.mem_append_right whole inside)
    cases fractional with
    | digits digits => exact absurd (digit '.' List.mem_cons_self) (by decide)
    | none =>
      cases power with
      | none => rfl
      | digits letter signed digits =>
        have marked := digit _ List.mem_cons_self
        rcases letter with rfl | rfl <;> exact absurd marked (by decide)
  · intro bare
    rwa [bare, List.append_nil]

theorem scanNumeral?_of_isDigit {c : Char} {cs : List Char} (digit : c.isDigit = true) :
    scanNumeral? (c :: cs) = some (scanUnsigned false (c :: cs)) := by
  have other : c ≠ '-' := by
    rintro rfl
    cases digit
  simp only [scanNumeral?, other, digit, if_true, if_false]

/-- **Reading a numeral.** A numeral is read as a whole, whatever follows it, and can
only be out of range. The number is a natural one exactly for digits without sign, point
and exponent that fit a word, and then it is their value. -/
theorem scanNumeral?_append {text : List Char} (known : IsNumeral text) :
    ∃ answer : Except Fault Number,
      (∀ fault, answer = .error fault → fault = .numberOutOfRange) ∧
      (∀ n, answer = .ok (.natural n) ↔
        IsWhole text ∧ Nat.ofDigitChars 10 text 0 = n ∧ n ≤ largestDigits) ∧
      ∀ rest, Ends rest → scanNumeral? (text ++ rest) = some (answer.map (·, rest)) := by
  cases known with
  | @parts sign whole fraction exponent signed known fractional power =>
    simp only [signs, List.mem_cons, List.not_mem_nil, or_false] at signed
    rcases signed with rfl | rfl
    · obtain ⟨answer, range, natural, read⟩ :=
        scanUnsigned_append_append known fractional power false
      refine ⟨answer, range, fun n => ?_, fun rest ends => ?_⟩
      · rw [natural n, List.nil_append, isWhole_append_iff known fractional power]
        constructor
        · rintro ⟨⟨-, bare⟩, value, fits⟩
          rw [bare, List.append_nil]
          exact ⟨rfl, value, fits⟩
        · rintro ⟨bare, value, fits⟩
          rw [bare, List.append_nil] at value
          exact ⟨⟨rfl, bare⟩, value, fits⟩
      · rw [List.nil_append, List.append_assoc, ← read rest ends]
        obtain ⟨c, cs, rfl⟩ : ∃ c cs, whole = c :: cs := by cases known <;> exact ⟨_, _, rfl⟩
        exact scanNumeral?_of_isDigit (known.allDigits c List.mem_cons_self)
    · obtain ⟨answer, range, natural, read⟩ :=
        scanUnsigned_append_append known fractional power true
      refine ⟨answer, range, fun n => ?_, fun rest ends => ?_⟩
      · simp only [natural n, Bool.true_eq_false, false_and, false_iff]
        rintro ⟨signed, -⟩
        exact absurd (signed.allDigits '-' List.mem_cons_self) (by decide)
      · rw [List.append_assoc, List.append_assoc, ← read rest ends]
        rfl

theorem ends_nil : Ends [] := fun _ head => by cases head

/-- A numeral by itself, and what it is read as in front of something else. -/
theorem scanNumeral?_self {text : List Char} (known : IsNumeral text) :
    ∃ answer : Except Fault Number,
      (∀ fault, answer = .error fault → fault = .numberOutOfRange) ∧
      scanNumeral? text = some (answer.map (·, [])) ∧
      ∀ rest, Ends rest → scanNumeral? (text ++ rest) = some (answer.map (·, rest)) := by
  obtain ⟨answer, range, -, read⟩ := scanNumeral?_append known
  have alone := read [] ends_nil
  rw [List.append_nil] at alone
  exact ⟨answer, range, alone, read⟩

theorem scanNumeral?_eq_natural_iff {text : List Char} {n : Nat} (known : IsNumeral text) :
    scanNumeral? text = some (.ok (.natural n, [])) ↔
      IsWhole text ∧ Nat.ofDigitChars 10 text 0 = n ∧ n ≤ largestDigits := by
  obtain ⟨answer, -, natural, read⟩ := scanNumeral?_append known
  have alone := read [] ends_nil
  rw [List.append_nil] at alone
  rw [alone, ← natural n]
  cases answer <;> simp [Except.map]

/-! ## Passing over numerals -/

theorem skipDigits_append {ds rest : List Char} (digits : IsDigits ds) (stops : Stops rest) :
    skipDigits (ds ++ rest) = .ok rest := by
  obtain ⟨filled, digits⟩ := digits
  obtain ⟨d, ds, rfl⟩ := List.exists_cons_of_ne_nil filled
  obtain ⟨digit, digits⟩ := digits.cons
  simp only [List.cons_append, skipDigits, digit, if_true, dropWhile_isDigit_append digits stops]

theorem skipWhole_append {whole rest : List Char} (known : IsWhole whole) (stops : Stops rest) :
    skipWhole (whole ++ rest) = .ok rest := by
  cases known with
  | zero =>
    rcases stops.eq_nil_or_cons with rfl | ⟨c, cs, rfl, other⟩
    · rfl
    · simp [skipWhole, other]
  | digits other digit digits =>
    simp [skipWhole, other, digit, dropWhile_isDigit_append digits stops]

theorem skipFraction_append {fraction rest : List Char} (known : IsFraction fraction)
    (head : ∀ c ∈ rest.head?, c.isDigit = false ∧ c ≠ '.') :
    skipFraction (fraction ++ rest) = .ok rest := by
  cases known with
  | digits digits => exact skipDigits_append digits fun c first => (head c first).1
  | none =>
    rw [List.nil_append]
    unfold skipFraction
    split
    · exact absurd rfl (head '.' rfl).2
    · rfl

theorem skipExponent_append {exponent rest : List Char} (known : IsExponent exponent)
    (ends : Ends rest) : skipExponent (exponent ++ rest) = .ok rest := by
  cases known with
  | none =>
    cases rest with
    | nil => rfl
    | cons c cs =>
      obtain ⟨-, -, lower, upper⟩ := ends c rfl
      simp [skipExponent, lower, upper]
  | @digits letter sign ds known signed digits =>
    have taken := skipDigits_append digits ends.stops
    simp only [exponentSigns, List.mem_cons, List.not_mem_nil, or_false] at signed
    simp only [List.cons_append, List.append_assoc, skipExponent, known, if_true]
    rcases signed with rfl | rfl | rfl
    · rw [List.nil_append]
      split
      · rename_i same
        exact absurd (digits.isDigit_head (congrArg List.head? same)) (by decide)
      · rename_i same
        exact absurd (digits.isDigit_head (congrArg List.head? same)) (by decide)
      · exact taken
    · exact taken
    · exact taken

/-- A numeral is passed over as a whole, whatever it denotes. -/
theorem skipNumeral_append {whole fraction exponent rest : List Char} (known : IsWhole whole)
    (fractional : IsFraction fraction) (power : IsExponent exponent) (ends : Ends rest) :
    skipNumeral (whole ++ (fraction ++ exponent) ++ rest) = .ok rest := by
  unfold skipNumeral
  rw [List.append_assoc, List.append_assoc,
    skipWhole_append known (fractional.stops_append power ends)]
  change skipFraction _ >>= skipExponent = _
  rw [skipFraction_append fractional (power.head_append ends)]
  exact skipExponent_append power ends

end Timings.Json
