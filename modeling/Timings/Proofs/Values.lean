import Timings.Proofs.Numerals
import Timings.Proofs.Strings

/-!
Passing over values.

A value is passed over as a whole, whatever it is and however deep its brackets nest.
Passing over goes from stage to stage; each part of a value leads, within a number of
steps that its length bounds, from the stage in front of it to the stage behind it. The
fuel of `skipValue` is enough for that.
-/

namespace Timings.Json

/-! ## Blanks and what may follow them -/

theorem isBlank_iff {c : Char} : isBlank c = true ↔ c = ' ' ∨ c = '\t' ∨ c = '\n' ∨ c = '\r' := by
  simp [isBlank, or_assoc]

theorem skipBlanks_append {before : List Char} (blanks : Blanks before) (cs : List Char) :
    skipBlanks (before ++ cs) = skipBlanks cs :=
  List.dropWhile_append_of_pos blanks

theorem skipBlanks_cons {c : Char} {cs : List Char} (other : isBlank c = false) :
    skipBlanks (c :: cs) = c :: cs :=
  List.dropWhile_cons_of_neg (by simp [other])

theorem ends_cons {c : Char} {cs : List Char}
    (other : c.isDigit = false ∧ c ≠ '.' ∧ c ≠ 'e' ∧ c ≠ 'E') : Ends (c :: cs) := by
  intro d head
  cases head
  exact other

theorem Blanks.ends {before rest : List Char} (blanks : Blanks before) (ends : Ends rest) :
    Ends (before ++ rest) := by
  cases before with
  | nil => exact ends
  | cons c cs =>
    refine ends_cons ?_
    rcases isBlank_iff.1 (blanks c List.mem_cons_self) with rfl | rfl | rfl | rfl <;> decide

theorem ends_close (bracket : Bracket) (rest : List Char) : Ends (bracket.close :: rest) := by
  cases bracket <;> exact ends_cons (by decide)

theorem skipBlanks_append_close {before : List Char} (blanks : Blanks before) (bracket : Bracket)
    (rest : List Char) : skipBlanks (before ++ bracket.close :: rest) = bracket.close :: rest := by
  rw [skipBlanks_append blanks]
  cases bracket <;> exact skipBlanks_cons (by decide)

/-- A text that starts with a character of its own, and not with a bracket that closes. -/
def Starts (cs : List Char) : Prop :=
  ∃ c tail, cs = c :: tail ∧ isBlank c = false ∧ c ≠ ']' ∧ c ≠ '\x7d'

theorem starts_cons {c : Char} {tail : List Char}
    (other : isBlank c = false ∧ c ≠ ']' ∧ c ≠ '\x7d') : Starts (c :: tail) :=
  ⟨c, tail, rfl, other⟩

theorem Bracket.ne_close {c : Char} (other : c ≠ ']' ∧ c ≠ '\x7d') (bracket : Bracket) :
    c ≠ bracket.close := by
  cases bracket with
  | list => exact other.1
  | object => exact other.2

theorem Starts.append {cs : List Char} (starts : Starts cs) (rest : List Char) :
    Starts (cs ++ rest) := by
  obtain ⟨c, tail, rfl, other⟩ := starts
  exact starts_cons other

theorem Starts.skipBlanks_eq {cs : List Char} (starts : Starts cs) : skipBlanks cs = cs := by
  obtain ⟨c, tail, rfl, blank, -⟩ := starts
  exact skipBlanks_cons blank

theorem Starts.skipBlanks_append {cs before : List Char} (starts : Starts cs)
    (blanks : Blanks before) (rest : List Char) :
    skipBlanks (before ++ (cs ++ rest)) = cs ++ rest := by
  rw [Json.skipBlanks_append blanks, (starts.append rest).skipBlanks_eq]

theorem ne_of_isDigit {c d : Char} (digit : c.isDigit = true) (other : d.isDigit = false) :
    c ≠ d := by
  rintro rfl
  rw [digit] at other
  cases other

theorem isBlank_of_isDigit {c : Char} (digit : c.isDigit = true) : isBlank c = false := by
  rw [← Bool.not_eq_true, isBlank_iff]
  rintro (rfl | rfl | rfl | rfl) <;> cases digit

theorem IsNumeral.head {cs : List Char} (known : IsNumeral cs) :
    ∃ c tail, cs = c :: tail ∧ (c = '-' ∨ c.isDigit = true) := by
  cases known with
  | @parts sign whole fraction exponent signed known fractional power =>
    simp only [signs, List.mem_cons, List.not_mem_nil, or_false] at signed
    rcases signed with rfl | rfl
    · obtain ⟨d, ds, rfl⟩ : ∃ d ds, whole = d :: ds := by cases known <;> exact ⟨_, _, rfl⟩
      exact ⟨_, _, rfl, .inr (known.allDigits d List.mem_cons_self)⟩
    · exact ⟨_, _, rfl, .inl rfl⟩

theorem Derives.starts {part : Part} {cs : List Char} (derives : Derives part cs) : Starts cs := by
  induction derives with
  | null => exact starts_cons (by decide)
  | yes => exact starts_cons (by decide)
  | no => exact starts_cons (by decide)
  | numeral known =>
    obtain ⟨c, tail, rfl, rfl | digit⟩ := known.head
    · exact starts_cons (by decide)
    · exact starts_cons ⟨isBlank_of_isDigit digit, ne_of_isDigit digit (by decide),
        ne_of_isDigit digit (by decide)⟩
  | string _ => exact starts_cons (by decide)
  | @empty bracket _ _ => cases bracket <;> exact starts_cons (by decide)
  | @filled bracket _ _ _ _ _ => cases bracket <;> exact starts_cons (by decide)
  | element _ ih => exact ih
  | member _ _ _ _ _ => exact starts_cons (by decide)
  | last _ _ ih => exact ih.append _
  | more _ _ _ _ ih _ => exact ih.append _

/-- What the first character of a value tells: the word for no value, a string, or
something else. -/
theorem kind_of_isValue {cs : List Char} (known : IsValue cs) :
    cs = ['n', 'u', 'l', 'l'] ∨ (∃ body, IsString body ∧ cs = '"' :: (body ++ ['"'])) ∨
      ∃ c tail, cs = c :: tail ∧ c ≠ 'n' ∧ c ≠ '"' := by
  cases known with
  | null => exact .inl rfl
  | string known => exact .inr (.inl ⟨_, known, rfl⟩)
  | numeral known =>
    obtain ⟨c, tail, rfl, rfl | digit⟩ := known.head
    · exact .inr (.inr ⟨_, _, rfl, by decide, by decide⟩)
    · exact .inr (.inr ⟨_, _, rfl, ne_of_isDigit digit (by decide), ne_of_isDigit digit (by decide)⟩)
  | yes => exact .inr (.inr ⟨_, _, rfl, by decide, by decide⟩)
  | no => exact .inr (.inr ⟨_, _, rfl, by decide, by decide⟩)
  | @empty bracket _ _ =>
    refine .inr (.inr ⟨_, _, rfl, ?_⟩)
    cases bracket <;> decide
  | @filled bracket _ _ _ _ =>
    refine .inr (.inr ⟨_, _, rfl, ?_⟩)
    cases bracket <;> decide

/-! ## Stages -/

/-- A stage of passing over a value. -/
structure Stage where
  phase : Phase
  brackets : List Bracket
  text : List Char

/-- What is left of the text behind a stage. -/
def Stage.skip (fuel : Nat) (s : Stage) : Except Fault (List Char) :=
  skipFrom fuel s.phase s.brackets s.text

/-- A number of steps leads from one stage to another. -/
def Reaches (k : Nat) (s s' : Stage) : Prop := ∀ fuel, s.skip (fuel + k) = s'.skip fuel

theorem Reaches.trans {j k : Nat} {s s' s'' : Stage} (first : Reaches j s s')
    (second : Reaches k s' s'') : Reaches (j + k) s s'' := by
  intro fuel
  rw [Nat.add_comm j k, ← Nat.add_assoc, first (fuel + k), second fuel]

theorem reaches_scalar {text rest : List Char} (brackets : List Bracket)
    (scalar : skipScalar (skipBlanks text) = .ok (none, rest)) :
    Reaches 1 ⟨.value, brackets, text⟩ ⟨.after, brackets, rest⟩ := by
  intro fuel
  simp only [Stage.skip, skipFrom, scalar]
  rfl

theorem reaches_opened {bracket : Bracket} {text rest : List Char} (brackets : List Bracket)
    (opens : skipBlanks text = bracket.opening :: rest) :
    Reaches 1 ⟨.value, brackets, text⟩ ⟨.opened, bracket :: brackets, rest⟩ := by
  intro fuel
  simp only [Stage.skip, skipFrom, opens]
  cases bracket <;> rfl

theorem reaches_closed_opened {bracket : Bracket} {text rest : List Char} (brackets : List Bracket)
    (closes : skipBlanks text = bracket.close :: rest) :
    Reaches 1 ⟨.opened, bracket :: brackets, text⟩ ⟨.after, brackets, rest⟩ := by
  intro fuel
  simp only [Stage.skip, skipFrom, closes, if_true]

theorem reaches_first {bracket : Bracket} {text cs : List Char} (brackets : List Bracket)
    (starts : Starts cs) (blanks : skipBlanks text = cs) :
    Reaches 1 ⟨.opened, bracket :: brackets, text⟩ ⟨.entry, bracket :: brackets, cs⟩ := by
  intro fuel
  obtain ⟨c, tail, rfl, -, other⟩ := starts
  simp only [Stage.skip, skipFrom, blanks, bracket.ne_close other, if_false]

theorem reaches_element {text : List Char} (brackets : List Bracket) :
    Reaches 1 ⟨.entry, .list :: brackets, text⟩ ⟨.value, .list :: brackets, text⟩ :=
  fun _ => rfl

theorem reaches_named {text rest : List Char} (brackets : List Bracket)
    (named : skipName text = .ok rest) :
    Reaches 1 ⟨.entry, .object :: brackets, text⟩ ⟨.value, .object :: brackets, rest⟩ := by
  intro fuel
  simp only [Stage.skip, skipFrom, named]
  rfl

theorem reaches_next {bracket : Bracket} {text rest : List Char} (brackets : List Bracket)
    (comma : skipBlanks text = ',' :: rest) :
    Reaches 1 ⟨.after, bracket :: brackets, text⟩ ⟨.entry, bracket :: brackets, rest⟩ := by
  intro fuel
  simp only [Stage.skip, skipFrom, comma, if_true]

theorem reaches_closed {bracket : Bracket} {text rest : List Char} (brackets : List Bracket)
    (closes : skipBlanks text = bracket.close :: rest) :
    Reaches 1 ⟨.after, bracket :: brackets, text⟩ ⟨.after, brackets, rest⟩ := by
  intro fuel
  have other : bracket.close ≠ ',' := by cases bracket <;> decide
  simp only [Stage.skip, skipFrom, closes, other, if_true, if_false]

/-! ## Values -/

theorem skipScalar_of_isDigit {c : Char} {cs : List Char} (digit : c.isDigit = true) :
    skipScalar (c :: cs) = (skipNumeral (c :: cs)).map fun rest => (none, rest) := by
  unfold skipScalar
  dsimp only
  split <;> first | cases digit | skip
  rw [if_pos digit]

theorem skipScalar_numeral {cs rest : List Char} (known : IsNumeral cs) (ends : Ends rest) :
    skipScalar (cs ++ rest) = .ok (none, rest) := by
  cases known with
  | @parts sign whole fraction exponent signed known fractional power =>
    have skipped := skipNumeral_append known fractional power ends
    simp only [signs, List.mem_cons, List.not_mem_nil, or_false] at signed
    rcases signed with rfl | rfl
    · obtain ⟨d, ds, rfl⟩ : ∃ d ds, whole = d :: ds := by cases known <;> exact ⟨_, _, rfl⟩
      have digit := known.allDigits d List.mem_cons_self
      rw [List.nil_append, List.cons_append, List.cons_append, skipScalar_of_isDigit digit]
      exact congrArg (Except.map _) skipped
    · exact congrArg (Except.map _) skipped

/-- What passing over does with each part of a value: a value and an entry lead to the
stage behind them, entries to the stage behind the bracket that closes them. -/
def PassedOver : Part → List Char → Prop
  | .value, cs => ∃ k, k ≤ 3 * cs.length ∧ ∀ brackets text rest, Ends rest →
    skipBlanks text = cs ++ rest →
    Reaches k ⟨.value, brackets, text⟩ ⟨.after, brackets, rest⟩
  | .entry bracket, cs => ∃ k, k ≤ 3 * cs.length + 1 ∧ ∀ brackets text rest, Ends rest →
    skipBlanks text = cs ++ rest →
    Reaches k ⟨.entry, bracket :: brackets, text⟩ ⟨.after, bracket :: brackets, rest⟩
  | .entries bracket, cs => ∃ k, k ≤ 3 * cs.length + 2 ∧ ∀ brackets text rest,
    skipBlanks text = cs ++ bracket.close :: rest →
    Reaches k ⟨.entry, bracket :: brackets, text⟩ ⟨.after, brackets, rest⟩

theorem passedOver_scalar {cs : List Char} (filled : 1 ≤ 3 * cs.length)
    (scalar : ∀ rest, Ends rest → skipScalar (cs ++ rest) = .ok (none, rest)) :
    PassedOver .value cs := by
  refine ⟨1, filled, fun brackets text rest ends blanks => reaches_scalar brackets ?_⟩
  rw [blanks]
  exact scalar rest ends

theorem skipName_append {name before cs : List Char} (known : IsString name)
    (blanks : Blanks before) {text : List Char}
    (starts : skipBlanks text = '"' :: (name ++ '"' :: (before ++ ':' :: cs))) :
    skipName text = .ok cs := by
  have colon : skipBlanks (before ++ ':' :: cs) = ':' :: cs := by
    rw [skipBlanks_append blanks, skipBlanks_cons (by decide)]
  unfold skipName
  rw [starts]
  simp only [if_true, skipString_append known]
  dsimp only [bind, Except.bind]
  rw [colon]
  rfl

theorem Derives.passedOver {part : Part} {cs : List Char} (derives : Derives part cs) :
    PassedOver part cs := by
  induction derives with
  | null => exact passedOver_scalar (by decide) fun rest ends => rfl
  | yes => exact passedOver_scalar (by decide) fun rest ends => rfl
  | no => exact passedOver_scalar (by decide) fun rest ends => rfl
  | @numeral cs known =>
    obtain ⟨c, tail, rfl, -⟩ := known.head
    exact passedOver_scalar (by simp only [List.length_cons]; omega)
      fun rest ends => skipScalar_numeral known ends
  | @string cs known =>
    refine passedOver_scalar (by simp only [List.length_cons]; omega) fun rest ends => ?_
    have skipped := skipString_append known rest
    rw [List.cons_append, List.append_assoc]
    exact congrArg (Except.map _) skipped
  | @empty bracket cs blanks =>
    refine ⟨1 + 1, by simp only [List.length_cons]; omega, ?_⟩
    intro brackets text rest ends opens
    rw [List.cons_append, List.append_assoc, List.singleton_append] at opens
    exact (reaches_opened brackets opens).trans
      (reaches_closed_opened brackets (skipBlanks_append_close blanks bracket rest))
  | @filled bracket before cs blanks derives ih =>
    obtain ⟨k, bound, reaches⟩ := ih
    refine ⟨1 + (1 + k), by simp only [List.length_cons, List.length_append]; omega, ?_⟩
    intro brackets text rest ends opens
    simp only [List.cons_append, List.append_assoc, List.nil_append] at opens
    have first := derives.starts.skipBlanks_append blanks (bracket.close :: rest)
    have again := (derives.starts.append (bracket.close :: rest)).skipBlanks_eq
    exact (reaches_opened brackets opens).trans
      ((reaches_first brackets (derives.starts.append _) first).trans (reaches brackets _ rest again))
  | element _ ih =>
    obtain ⟨k, bound, reaches⟩ := ih
    refine ⟨1 + k, by omega, fun brackets text rest ends blanks => ?_⟩
    exact (reaches_element brackets).trans (reaches _ text rest ends blanks)
  | @member name before behind cs known blanks blanks' derives ih =>
    obtain ⟨k, bound, reaches⟩ := ih
    refine ⟨1 + k, by simp only [List.length_cons, List.length_append]; omega, ?_⟩
    intro brackets text rest ends starts
    simp only [List.cons_append, List.append_assoc] at starts
    have value := derives.starts.skipBlanks_append blanks' rest
    exact (reaches_named brackets (skipName_append known blanks starts)).trans
      (reaches _ _ rest ends value)
  | @last bracket cs behind derives blanks ih =>
    obtain ⟨k, bound, reaches⟩ := ih
    refine ⟨k + 1, by simp only [List.length_append]; omega, ?_⟩
    intro brackets text rest starts
    rw [List.append_assoc] at starts
    exact (reaches brackets text _ (blanks.ends (ends_close bracket rest)) starts).trans
      (reaches_closed brackets (skipBlanks_append_close blanks bracket rest))
  | @more bracket cs before behind more derives blanks blanks' derives' ih ih' =>
    obtain ⟨k, bound, reaches⟩ := ih
    obtain ⟨k', bound', reaches'⟩ := ih'
    refine ⟨k + (1 + k'), by simp only [List.length_cons, List.length_append]; omega, ?_⟩
    intro brackets text rest starts
    simp only [List.cons_append, List.append_assoc] at starts
    have comma : ∀ cs, skipBlanks (before ++ ',' :: cs) = ',' :: cs := fun cs => by
      rw [skipBlanks_append blanks, skipBlanks_cons (by decide)]
    have next := derives'.starts.skipBlanks_append blanks' (bracket.close :: rest)
    exact (reaches brackets text _ (blanks.ends (ends_cons (by decide))) starts).trans
      ((reaches_next brackets (comma _)).trans (reaches' brackets _ rest next))

/-- **Passing over a value.** A value is passed over as a whole, with the blanks in front
of it and nothing of what follows. -/
theorem skipValue_append {before cs rest : List Char} (known : IsValue cs)
    (blanks : Blanks before) (ends : Ends rest) :
    skipValue (before ++ (cs ++ rest)) = .ok rest := by
  obtain ⟨k, bound, reaches⟩ := known.passedOver
  have starts := known.starts.skipBlanks_append blanks rest
  have enough : 3 * (before ++ (cs ++ rest)).length + 3 =
      3 * (before.length + rest.length) + 2 + (3 * cs.length - k) + 1 + k := by
    simp only [List.length_append]
    omega
  unfold skipValue
  rw [enough]
  exact reaches [] _ rest ends starts _

end Timings.Json
