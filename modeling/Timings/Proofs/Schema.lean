import Timings.Proofs.Finite
import Timings.Proofs.Values

/-!
The schema of measurements.

`Conforms` says which objects are measurements, and of what, member by member: how often
a name may occur and what its value has to denote. It speaks of the members' names and
of the texts of their values alone. What each kind of value denotes is what its reader
gives: `reads_count`, `reads_number`, `reads_text` and `reads_nullable`.
-/

namespace Timings.Measurement

open Json

/-! ## What values denote -/

/-- Digits without sign, point and exponent denote their value, if a word can hold it. -/
def DenotesCount (text : List Char) (n : Nat) : Prop :=
  IsWhole text ∧ Nat.ofDigitChars 10 text 0 = n ∧ n ≤ 2 ^ 64 - 1

/-- A numeral denotes the double of the number it is read as, if it is not out of
range. -/
def DenotesNumber (text : List Char) (x : Float) : Prop :=
  IsNumeral text ∧ ∃ number, scanNumeral? text = some (.ok (number, [])) ∧
    Number.toFloat number = x

/-- A string denotes what it spells between its quotes. -/
def DenotesText (text : List Char) (s : String) : Prop :=
  ∃ body chars, text = '"' :: (body ++ ['"']) ∧ Spells body chars ∧ s = String.ofList chars

/-- The word for no value. -/
def null : List Char := ['n', 'u', 'l', 'l']

/-- The word for no value denotes none, and any other text what it denotes. -/
def Nullable {α : Type} (denotes : List Char → α → Prop) (text : List Char) : Option α → Prop
  | none => text = null
  | some a => denotes text a

theorem DenotesNumber.isFinite {text : List Char} {x : Float} (denotes : DenotesNumber text x) :
    x.isFinite = true := by
  obtain ⟨-, number, read, rfl⟩ := denotes
  exact isFinite_of_scanNumeral? read

theorem not_denotesNumber_null (x : Float) : ¬ DenotesNumber null x := by
  rintro ⟨numeral, -⟩
  obtain ⟨c, tail, same, known⟩ := numeral.head
  cases same
  revert known
  decide

theorem not_denotesText_null (s : String) : ¬ DenotesText null s := by
  rintro ⟨body, chars, same, -⟩
  cases same

/-! ## Values denote at most one thing -/

/-- No text denotes two things. -/
def Functional {α : Type} (denotes : List Char → α → Prop) : Prop :=
  ∀ (text : List Char) (a b : α), denotes text a → denotes text b → a = b

theorem functional_count : Functional DenotesCount := by
  rintro text a b ⟨-, first, -⟩ ⟨-, second, -⟩
  exact first.symm.trans second

theorem functional_number : Functional DenotesNumber := by
  rintro text x y ⟨-, number, read, rfl⟩ ⟨-, number', read', rfl⟩
  rw [read] at read'
  cases read'
  rfl

theorem functional_text : Functional DenotesText := by
  rintro text s s' ⟨body, chars, rfl, spells, rfl⟩ ⟨body', chars', same, spells', rfl⟩
  obtain rfl : body = body' := List.append_cancel_right (List.cons.inj same).2
  have read : scanString (body ++ '"' :: []) = .ok (String.ofList chars, []) :=
    (scanString_append_iff spells.isString).2 ⟨⟨chars, spells, rfl⟩, rfl⟩
  have read' : scanString (body ++ '"' :: []) = .ok (String.ofList chars', []) :=
    (scanString_append_iff spells.isString).2 ⟨⟨chars', spells', rfl⟩, rfl⟩
  exact congrArg Prod.fst (Except.ok.inj (read.symm.trans read'))

theorem functional_nullable {α : Type} {denotes : List Char → α → Prop}
    (functional : Functional denotes) (never : ∀ a, ¬ denotes null a) :
    Functional (Nullable denotes) := by
  intro text a b first second
  cases a with
  | none =>
    cases b with
    | none => rfl
    | some b => exact absurd ((show text = null from first) ▸ second) (never b)
  | some a =>
    cases b with
    | none => exact absurd ((show text = null from second) ▸ first) (never a)
    | some b => exact congrArg some (functional _ _ _ first second)

/-! ## The schema -/

/-- The texts of the values that stand under a name, in their order. -/
def valuesNamed (name : String) (fields : List Field) : List (List Char) :=
  (fields.filter fun field => field.1 = name).map (·.2)

/-- There is exactly one value, and it denotes this. -/
def Required {α : Type} (denotes : List Char → α → Prop) (values : List (List Char)) (a : α) :
    Prop :=
  ∃ text, values = [text] ∧ denotes text a

/-- There is at most one value. It denotes this, or, if it is missing or the word for no
value, this is none. -/
def Optional {α : Type} (denotes : List Char → α → Prop) (values : List (List Char)) :
    Option α → Prop
  | none => values = [] ∨ values = [null]
  | some a => Required denotes values a

/-- An object with these members is a measurement, and this one. -/
structure Conforms (fields : List Field) (m : Measurement) : Prop where
  message : Optional DenotesText (valuesNamed "message" fields) m.message
  items : Required DenotesCount (valuesNamed "items" fields) m.items
  time : Optional DenotesNumber (valuesNamed "time" fields) m.time
  timePerItem : Required DenotesNumber (valuesNamed "time/item" fields) m.timePerItem

theorem Conforms.isFinite {fields : List Field} {m : Measurement} (conforms : Conforms fields m) :
    m.timePerItem.isFinite = true ∧ ∀ time ∈ m.time, time.isFinite = true := by
  constructor
  · obtain ⟨text, -, denotes⟩ := conforms.timePerItem
    exact denotes.isFinite
  · intro time given
    have known := conforms.time
    rw [given] at known
    obtain ⟨text, -, denotes⟩ := known
    exact denotes.isFinite

/-! ## Reading values -/

/-- A reader of values gives exactly what a value denotes, and leaves what follows it. -/
def Reads {α : Type} (read : List Char → Except Fault (α × List Char))
    (denotes : List Char → α → Prop) : Prop :=
  ∀ {before cs rest left : List Char} {a : α}, Blanks before → IsValue cs → Ends rest →
    (read (before ++ (cs ++ rest)) = .ok (a, left) ↔ denotes cs a ∧ left = rest)

theorem scanNumeral?_value {cs : List Char} (known : IsValue cs) :
    IsNumeral cs ∨ ∀ rest, scanNumeral? (cs ++ rest) = none := by
  cases known with
  | numeral known => exact .inl known
  | null => exact .inr fun rest => rfl
  | yes => exact .inr fun rest => rfl
  | no => exact .inr fun rest => rfl
  | string _ => exact .inr fun rest => rfl
  | @empty bracket _ _ => cases bracket <;> exact .inr fun rest => rfl
  | @filled bracket _ _ _ _ => cases bracket <;> exact .inr fun rest => rfl

theorem readNumber_append {before cs rest left : List Char} {number : Number} (wanted : Wanted)
    (blanks : Blanks before) (known : IsValue cs) (ends : Ends rest) :
    readNumber wanted (before ++ (cs ++ rest)) = .ok (number, left) ↔
      (IsNumeral cs ∧ scanNumeral? cs = some (.ok (number, []))) ∧ left = rest := by
  unfold readNumber
  rw [known.starts.skipBlanks_append blanks rest]
  rcases scanNumeral?_value known with numeral | other
  · obtain ⟨answer, -, alone, read⟩ := scanNumeral?_self numeral
    rw [read rest ends, alone]
    cases answer with
    | ok number' => simp [Except.map, numeral, eq_comm]
    | error fault => simp [Except.map]
  · have alone := other []
    rw [List.append_nil] at alone
    rw [other rest, alone]
    simp

theorem readCount_eq_ok_iff {cs left : List Char} {n : Nat} :
    readCount cs = .ok (n, left) ↔ readNumber .count cs = .ok (.natural n, left) := by
  unfold readCount
  cases readNumber .count cs with
  | error fault => simp [bind, Except.bind]
  | ok p =>
    obtain ⟨number, rest⟩ := p
    cases number <;> simp [bind, Except.bind]

theorem reads_count : Reads readCount DenotesCount := by
  intro before cs rest left n blanks known ends
  rw [readCount_eq_ok_iff, readNumber_append .count blanks known ends]
  refine and_congr_left fun _ => ?_
  constructor
  · rintro ⟨numeral, read⟩
    exact (scanNumeral?_eq_natural_iff numeral).1 read
  · intro denotes
    have numeral := denotes.1.isNumeral
    exact ⟨numeral, (scanNumeral?_eq_natural_iff numeral).2 denotes⟩

theorem readFloat_eq_ok_iff {cs left : List Char} {x : Float} :
    readFloat cs = .ok (x, left) ↔
      ∃ number, readNumber .number cs = .ok (number, left) ∧ Number.toFloat number = x := by
  unfold readFloat
  cases readNumber .number cs with
  | error fault => simp [bind, Except.bind]
  | ok p =>
    obtain ⟨number, rest⟩ := p
    simp [bind, Except.bind, and_comm, and_assoc]

theorem reads_number : Reads readFloat DenotesNumber := by
  intro before cs rest left x blanks known ends
  rw [readFloat_eq_ok_iff]
  simp only [readNumber_append .number blanks known ends, DenotesNumber]
  constructor
  · rintro ⟨number, ⟨⟨numeral, read⟩, same⟩, value⟩
    exact ⟨⟨numeral, number, read, value⟩, same⟩
  · rintro ⟨⟨numeral, number, read, value⟩, same⟩
    exact ⟨number, ⟨⟨numeral, read⟩, same⟩, value⟩

theorem reads_text : Reads readText DenotesText := by
  intro before cs rest left s blanks known ends
  unfold readText
  rw [known.starts.skipBlanks_append blanks rest]
  rcases kind_of_isValue known with rfl | ⟨body, string, rfl⟩ | ⟨c, tail, rfl, -, other⟩
  · simp [DenotesText]
  · have same : ∀ body', '"' :: (body ++ ['"']) = '"' :: (body' ++ ['"']) ↔ body' = body := by
      simp [eq_comm]
    simp only [List.cons_append, List.append_assoc, List.nil_append, DenotesText, same,
      scanString_append_iff string]
    simp
  · have refused : ∀ chars, ¬ DenotesText (c :: tail) chars := by
      rintro chars ⟨body, spelled, same, -⟩
      exact other (List.cons.inj same).1
    rw [List.cons_append]
    split
    · rename_i same
      exact absurd (List.cons.inj same).1 other
    · simp [refused]

theorem reads_nullable {α : Type} {read : List Char → Except Fault (α × List Char)}
    {denotes : List Char → α → Prop} (reads : Reads read denotes)
    (never : ∀ a, ¬ denotes null a) : Reads (readNullable read) (Nullable denotes) := by
  intro before cs rest left a blanks known ends
  unfold readNullable
  rw [known.starts.skipBlanks_append blanks rest]
  by_cases word : cs = null
  · subst word
    cases a with
    | none => simp [null, Nullable, scanWord, Except.map, eq_comm]
    | some a =>
      have refused : ¬ denotes ['n', 'u', 'l', 'l'] a := never a
      simp [null, Nullable, scanWord, Except.map, refused]
  · have other : ∀ more, cs ++ rest ≠ 'n' :: more := by
      intro more same
      rcases kind_of_isValue known with rfl | ⟨body, known, rfl⟩ | ⟨c, tail, rfl, other, -⟩
      · exact word rfl
      · cases same
      · exact other (List.cons.inj same).1
    split
    · rename_i same
      exact absurd same (other _)
    · have nothing : Blanks [] := fun c inside => by cases inside
      have whole : ∀ a, read (cs ++ rest) = .ok (a, left) ↔ denotes cs a ∧ left = rest :=
        fun a => reads nothing known ends
      rw [map_eq_ok_iff]
      cases a with
      | none => simp [Nullable, word]
      | some a => simp [Nullable, ← whole]

end Timings.Measurement
