import Timings.Json.Fault

/-!
Tokens of JSON: blanks, words and strings.

A scanner takes the characters still to be read and gives what it found with the
characters that follow, or the fault that stopped it.
-/

namespace Timings.Json

/-- The four characters that may stand between tokens. -/
def isBlank (c : Char) : Bool := c == ' ' || c == '\t' || c == '\n' || c == '\r'

/-- Drops blanks. -/
def skipBlanks (cs : List Char) : List Char := cs.dropWhile isBlank

/-- Reads the rest of a word whose first letter settled which one it is. -/
def scanWord : List Char → List Char → Except Fault (List Char)
  | [], cs => .ok cs
  | _ :: _, [] => .error .endInValue
  | w :: ws, c :: cs => if w = c then scanWord ws cs else .error .unknownWord

/-- The value of a hexadecimal digit. -/
def hexDigit? (c : Char) : Option Nat :=
  if '0' ≤ c ∧ c ≤ '9' then some (c.toNat - '0'.toNat)
  else if 'a' ≤ c ∧ c ≤ 'f' then some (c.toNat - 'a'.toNat + 10)
  else if 'A' ≤ c ∧ c ≤ 'F' then some (c.toNat - 'A'.toNat + 10)
  else none

/-- Reads four hexadecimal digits. The text counts as cut off if fewer than four
bytes are left, whatever they are. -/
def scanHex : List Char → Except Fault (Nat × List Char)
  | a :: b :: c :: d :: rest =>
    match hexDigit? a, hexDigit? b, hexDigit? c, hexDigit? d with
    | some a, some b, some c, some d => .ok (((a * 16 + b) * 16 + c) * 16 + d, rest)
    | _, _, _, _ => .error .unknownEscape
  | cs => .error (if 4 ≤ (cs.map Char.utf8Size).sum then .unknownEscape else .endInString)

/-- Whether a code unit opens a surrogate pair. -/
def isHighSurrogate (n : Nat) : Bool := 0xd800 ≤ n && n ≤ 0xdbff

/-- Whether a code unit closes a surrogate pair. -/
def isLowSurrogate (n : Nat) : Bool := 0xdc00 ≤ n && n ≤ 0xdfff

/-- Reads what follows `\u`: a code unit, or two that form a pair. -/
def scanUnicode (cs : List Char) : Except Fault (Char × List Char) := do
  let (n, rest) ← scanHex cs
  if isLowSurrogate n then .error .loneSurrogate
  else if isHighSurrogate n then
    match rest with
    | [] => .error .endInString
    | '\\' :: [] => .error .endInString
    | '\\' :: 'u' :: rest =>
      let (m, rest) ← scanHex rest
      if isLowSurrogate m then
        .ok (Char.ofNat (0x10000 + (n - 0xd800) * 0x400 + (m - 0xdc00)), rest)
      else .error .loneSurrogate
    | _ => .error .halfSurrogatePair
  else .ok (Char.ofNat n, rest)

/-- The character behind a backslash that stands for one character. -/
def simpleEscape? : Char → Option Char
  | '"' => some '"'
  | '\\' => some '\\'
  | '/' => some '/'
  | 'b' => some '\x08'
  | 'f' => some '\x0c'
  | 'n' => some '\n'
  | 'r' => some '\r'
  | 't' => some '\t'
  | _ => none

/-- Reads what follows a backslash. -/
def scanEscape : List Char → Except Fault (Char × List Char)
  | [] => .error .endInString
  | c :: cs =>
    if c = 'u' then scanUnicode cs
    else
      match simpleEscape? c with
      | some e => .ok (e, cs)
      | none => .error .unknownEscape

theorem length_of_scanHex {cs rest : List Char} {n : Nat} (h : scanHex cs = .ok (n, rest)) :
    rest.length < cs.length := by
  unfold scanHex at h
  split at h
  · split at h
    · cases h; simp only [List.length_cons]; omega
    · cases h
  · cases h

theorem length_of_scanUnicode {cs rest : List Char} {c : Char}
    (h : scanUnicode cs = .ok (c, rest)) : rest.length < cs.length := by
  unfold scanUnicode at h
  cases hex : scanHex cs with
  | error e => rw [hex] at h; cases h
  | ok p =>
    obtain ⟨n, rest'⟩ := p
    have shorter := length_of_scanHex hex
    simp only [hex, bind, Except.bind] at h
    split at h
    · cases h
    · split at h
      · split at h
        · cases h
        · cases h
        · rename_i tail
          cases low : scanHex tail with
          | error e => rw [low] at h; cases h
          | ok q =>
            obtain ⟨m, rest''⟩ := q
            have shorter' := length_of_scanHex low
            simp only [low] at h
            split at h
            · obtain ⟨-, rfl⟩ := Prod.mk.inj (Except.ok.inj h)
              simp only [List.length_cons] at shorter
              omega
            · cases h
        · cases h
      · obtain ⟨-, rfl⟩ := Prod.mk.inj (Except.ok.inj h)
        exact shorter

theorem length_of_scanEscape {cs rest : List Char} {c : Char}
    (h : scanEscape cs = .ok (c, rest)) : rest.length < cs.length := by
  unfold scanEscape at h
  split at h
  · cases h
  · split at h
    · exact Nat.lt_succ_of_lt (length_of_scanUnicode h)
    · split at h
      · cases h; exact Nat.lt_succ_self _
      · cases h

/-- Reads a string behind its opening quote; `read` holds the characters it
denotes so far, last first. -/
def scanStringFrom (read : List Char) : List Char → Except Fault (List Char × List Char)
  | [] => .error .endInString
  | c :: cs =>
    if c = '"' then .ok (read.reverse, cs)
    else if c = '\\' then
      match h : scanEscape cs with
      | .error fault => .error fault
      | .ok (e, rest) =>
        have := length_of_scanEscape h
        scanStringFrom (e :: read) rest
    else if c < ' ' then .error .controlInString
    else scanStringFrom (c :: read) cs
termination_by cs => cs.length

/-- Reads a string behind its opening quote. -/
def scanString (cs : List Char) : Except Fault (String × List Char) := do
  let (read, rest) ← scanStringFrom [] cs
  .ok (String.ofList read, rest)

/-- Passes over what follows a backslash, without asking what it denotes. -/
def skipEscape : List Char → Except Fault (List Char)
  | [] => .error .endInString
  | c :: cs =>
    if c = 'u' then (scanHex cs).map (·.2)
    else if (simpleEscape? c).isSome then .ok cs
    else .error .unknownEscape

theorem length_of_skipEscape {cs rest : List Char} (h : skipEscape cs = .ok rest) :
    rest.length < cs.length := by
  unfold skipEscape at h
  split at h
  · cases h
  · rename_i c cs
    split at h
    · cases hex : scanHex cs with
      | error e => rw [hex] at h; cases h
      | ok p =>
        rw [hex] at h
        cases h
        exact Nat.lt_succ_of_lt (length_of_scanHex hex)
    · split at h
      · cases h; exact Nat.lt_succ_self _
      · cases h

/-- Passes over a string behind its opening quote. -/
def skipString : List Char → Except Fault (List Char)
  | [] => .error .endInString
  | c :: cs =>
    if c = '"' then .ok cs
    else if c = '\\' then
      match h : skipEscape cs with
      | .error fault => .error fault
      | .ok rest =>
        have := length_of_skipEscape h
        skipString rest
    else if c < ' ' then .error .controlInString
    else skipString cs
termination_by cs => cs.length

end Timings.Json
