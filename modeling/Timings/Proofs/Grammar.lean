import Timings.Json.Skip

/-!
The grammar of JSON, as relations on texts.

`IsNumeral` and `IsString` are the texts of numerals and what stands between the
quotes of a string; `Spells` says which characters the latter denotes, if it denotes
any. `Derives` has the grammar of values, one constructor for each way to write one,
and `IsObject` that of an object whose members are told apart. Blanks stand between
tokens only, so every part of a value starts with a character of its own.

None of these relations mentions how a text is read.
-/

namespace Timings.Json

-- What holds of all characters of a text is decided along the text. Where the characters
-- are known to be finitely many, all of them would be tried otherwise.
attribute [instance (high)] List.decidableBAll

/-- Blanks and nothing else. -/
def Blanks (cs : List Char) : Prop := ∀ c ∈ cs, isBlank c = true

instance : DecidablePred Blanks := fun cs =>
  inferInstanceAs (Decidable (∀ c ∈ cs, isBlank c = true))

/-! ## Numerals -/

/-- Digits and nothing else. -/
def AllDigits (cs : List Char) : Prop := ∀ c ∈ cs, c.isDigit = true

instance : DecidablePred AllDigits := fun cs =>
  inferInstanceAs (Decidable (∀ c ∈ cs, c.isDigit = true))

/-- One or more digits. -/
def IsDigits (cs : List Char) : Prop := cs ≠ [] ∧ AllDigits cs

instance : DecidablePred IsDigits := fun cs =>
  inferInstanceAs (Decidable (cs ≠ [] ∧ AllDigits cs))

/-- The digits before the point: a zero in front stands alone. -/
inductive IsWhole : List Char → Prop
  | zero : IsWhole ['0']
  | digits {d : Char} {ds : List Char} :
    d ≠ '0' → d.isDigit = true → AllDigits ds → IsWhole (d :: ds)

/-- A point with digits behind it, or nothing. -/
inductive IsFraction : List Char → Prop
  | none : IsFraction []
  | digits {ds : List Char} : IsDigits ds → IsFraction ('.' :: ds)

/-- What may stand in front of the digits of an exponent. -/
def exponentSigns : List (List Char) := [[], ['+'], ['-']]

/-- An exponent, or nothing. -/
inductive IsExponent : List Char → Prop
  | none : IsExponent []
  | digits {letter : Char} {sign ds : List Char} :
    letter = 'e' ∨ letter = 'E' → sign ∈ exponentSigns → IsDigits ds →
    IsExponent (letter :: (sign ++ ds))

/-- What may stand in front of the digits of a numeral. -/
def signs : List (List Char) := [[], ['-']]

/-- A numeral. -/
inductive IsNumeral : List Char → Prop
  | parts {sign whole fraction exponent : List Char} :
    sign ∈ signs → IsWhole whole → IsFraction fraction → IsExponent exponent →
    IsNumeral (sign ++ (whole ++ (fraction ++ exponent)))

/-! ## Strings -/

/-- A character that stands for itself in a string. -/
def IsPlain (c : Char) : Prop := c ≠ '"' ∧ c ≠ '\\' ∧ ' ' ≤ c

instance : DecidablePred IsPlain := fun c =>
  inferInstanceAs (Decidable (c ≠ '"' ∧ c ≠ '\\' ∧ ' ' ≤ c))

/-- The letters behind a backslash that stand for one character, with the character. -/
def letterEscapes : List (Char × Char) :=
  [('"', '"'), ('\\', '\\'), ('/', '/'), ('b', '\x08'), ('f', '\x0c'), ('n', '\n'), ('r', '\r'),
   ('t', '\t')]

/-- A hexadecimal digit and its value. -/
inductive IsHex (c : Char) (n : Nat) : Prop
  | lower : "0123456789abcdef".toList[n]? = some c → IsHex c n
  | upper : "0123456789ABCDEF".toList[n]? = some c → IsHex c n

/-- Four hexadecimal digits and the code unit they stand for. -/
inductive IsUnit : List Char → Nat → Prop
  | digits {a b c d : Char} {x y z w : Nat} : IsHex a x → IsHex b y → IsHex c z → IsHex d w →
    IsUnit [a, b, c, d] (((x * 16 + y) * 16 + z) * 16 + w)

/-- What may stand between the quotes of a string. -/
inductive IsString : List Char → Prop
  | nil : IsString []
  | plain {c : Char} {cs : List Char} : IsPlain c → IsString cs → IsString (c :: cs)
  | letter {c e : Char} {cs : List Char} :
    (c, e) ∈ letterEscapes → IsString cs → IsString ('\\' :: c :: cs)
  | unit {digits cs : List Char} {n : Nat} :
    IsUnit digits n → IsString cs → IsString ('\\' :: 'u' :: (digits ++ cs))

/-- The characters a string denotes. A code unit stands for its character, two
surrogates for the character of the pair; a surrogate without the other one denotes
nothing. -/
inductive Spells : List Char → List Char → Prop
  | nil : Spells [] []
  | plain {c : Char} {cs s : List Char} : IsPlain c → Spells cs s → Spells (c :: cs) (c :: s)
  | letter {c e : Char} {cs s : List Char} :
    (c, e) ∈ letterEscapes → Spells cs s → Spells ('\\' :: c :: cs) (e :: s)
  | unit {digits cs s : List Char} {n : Nat} :
    IsUnit digits n → n < 0xd800 ∨ 0xdfff < n → Spells cs s →
    Spells ('\\' :: 'u' :: (digits ++ cs)) (Char.ofNat n :: s)
  | pair {digits digits' cs s : List Char} {n m : Nat} :
    IsUnit digits n → 0xd800 ≤ n ∧ n ≤ 0xdbff → IsUnit digits' m → 0xdc00 ≤ m ∧ m ≤ 0xdfff →
    Spells cs s →
    Spells ('\\' :: 'u' :: (digits ++ '\\' :: 'u' :: (digits' ++ cs)))
      (Char.ofNat (0x10000 + (n - 0xd800) * 0x400 + (m - 0xdc00)) :: s)

theorem Spells.isString {cs s : List Char} (spells : Spells cs s) : IsString cs := by
  induction spells with
  | nil => exact .nil
  | plain plain _ ih => exact .plain plain ih
  | letter known _ ih => exact .letter known ih
  | unit digits _ _ ih => exact .unit digits ih
  | pair high _ low _ _ ih => exact .unit high (.unit low ih)

/-- Plain characters spell themselves. -/
theorem spells_self {cs : List Char} (plain : ∀ c ∈ cs, IsPlain c) : Spells cs cs := by
  induction cs with
  | nil => exact .nil
  | cons c cs ih =>
    exact .plain (plain c List.mem_cons_self)
      (ih fun d inside => plain d (List.mem_cons_of_mem c inside))

/-! ## Values -/

namespace Bracket

/-- The bracket that opens it. -/
def opening : Bracket → Char
  | list => '['
  | object => '\x7b'

end Bracket

/-- The parts of a value that the grammar tells apart. -/
inductive Part where
  | value
  /-- One entry between brackets: a value, in objects with a name. -/
  | entry (bracket : Bracket)
  /-- One or more entries with commas between them, and the blanks behind the last. -/
  | entries (bracket : Bracket)

/-- The texts of values and their parts. -/
inductive Derives : Part → List Char → Prop
  | null : Derives .value ['n', 'u', 'l', 'l']
  | yes : Derives .value ['t', 'r', 'u', 'e']
  | no : Derives .value ['f', 'a', 'l', 's', 'e']
  | numeral {cs : List Char} : IsNumeral cs → Derives .value cs
  | string {cs : List Char} : IsString cs → Derives .value ('"' :: (cs ++ ['"']))
  | empty {bracket : Bracket} {cs : List Char} :
    Blanks cs → Derives .value (bracket.opening :: (cs ++ [bracket.close]))
  | filled {bracket : Bracket} {before cs : List Char} :
    Blanks before → Derives (.entries bracket) cs →
    Derives .value (bracket.opening :: (before ++ (cs ++ [bracket.close])))
  | element {cs : List Char} : Derives .value cs → Derives (.entry .list) cs
  | member {name before behind cs : List Char} :
    IsString name → Blanks before → Blanks behind → Derives .value cs →
    Derives (.entry .object) ('"' :: (name ++ '"' :: (before ++ ':' :: (behind ++ cs))))
  | last {bracket : Bracket} {cs behind : List Char} :
    Derives (.entry bracket) cs → Blanks behind → Derives (.entries bracket) (cs ++ behind)
  | more {bracket : Bracket} {cs before behind more : List Char} :
    Derives (.entry bracket) cs → Blanks before → Blanks behind →
    Derives (.entries bracket) more →
    Derives (.entries bracket) (cs ++ (before ++ ',' :: (behind ++ more)))

/-- The text of a value. -/
abbrev IsValue (cs : List Char) : Prop := Derives .value cs

/-- A member of an object: its name and the text of its value. -/
abbrev Field := String × List Char

/-- The text of one member. -/
inductive IsMember : List Char → Field → Prop
  | mk {text name before behind value : List Char} :
    Spells text name → Blanks before → Blanks behind → IsValue value →
    IsMember ('"' :: (text ++ '"' :: (before ++ ':' :: (behind ++ value))))
      (String.ofList name, value)

/-- The text of one or more members with commas between them. -/
inductive AreMembers : List Char → List Field → Prop
  | last {cs behind : List Char} {field : Field} :
    IsMember cs field → Blanks behind → AreMembers (cs ++ behind) [field]
  | more {cs before behind rest : List Char} {field : Field} {fields : List Field} :
    IsMember cs field → Blanks before → Blanks behind → AreMembers rest fields →
    AreMembers (cs ++ (before ++ ',' :: (behind ++ rest))) (field :: fields)

/-- The text of an object with these members, in their order. No member's name has a
surrogate that stands alone. -/
inductive IsObject : List Char → List Field → Prop
  | empty {cs : List Char} : Blanks cs → IsObject ('\x7b' :: (cs ++ ['\x7d'])) []
  | filled {before cs : List Char} {fields : List Field} :
    Blanks before → AreMembers cs fields →
    IsObject ('\x7b' :: (before ++ (cs ++ ['\x7d']))) fields

theorem AreMembers.length_le {cs : List Char} {fields : List Field}
    (known : AreMembers cs fields) : fields.length ≤ cs.length := by
  induction known with
  | last known _ =>
    cases known
    simp only [List.length_cons, List.length_nil, List.length_append]
    omega
  | more known _ _ _ ih =>
    simp only [List.length_cons, List.length_append]
    omega

/-! ## What may follow a value -/

/-- Whether a text cannot go on a numeral in front of it. -/
def Ends (rest : List Char) : Prop :=
  ∀ c ∈ rest.head?, c.isDigit = false ∧ c ≠ '.' ∧ c ≠ 'e' ∧ c ≠ 'E'

end Timings.Json
