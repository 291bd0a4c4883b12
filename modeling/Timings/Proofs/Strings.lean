import Timings.Proofs.Grammar

/-!
Reading strings.

A string is passed over as a whole. It is read exactly if it spells something, and then
what it spells is read; the strings that do not are those with a surrogate that stands
alone.
-/

namespace Timings.Json

/-! ## Escapes -/

theorem hexDigit?_of_isHex {c : Char} {n : Nat} (known : IsHex c n) : hexDigit? c = some n := by
  have bound : n < 16 := by
    cases known with
    | lower found => exact (List.getElem?_eq_some_iff.1 found).1
    | upper found => exact (List.getElem?_eq_some_iff.1 found).1
  have all : ∀ n < 16, ∀ alphabet ∈ ["0123456789abcdef".toList, "0123456789ABCDEF".toList],
      alphabet[n]?.bind hexDigit? = some n := by decide
  cases known with
  | lower found =>
    have read := all n bound _ List.mem_cons_self
    rwa [found] at read
  | upper found =>
    have read := all n bound _ (List.mem_cons_of_mem _ List.mem_cons_self)
    rwa [found] at read

theorem scanHex_append {digits rest : List Char} {n : Nat} (known : IsUnit digits n) :
    scanHex (digits ++ rest) = .ok (n, rest) := by
  cases known with
  | digits a b c d =>
    simp only [List.cons_append, List.nil_append, scanHex, hexDigit?_of_isHex a,
      hexDigit?_of_isHex b, hexDigit?_of_isHex c, hexDigit?_of_isHex d]

theorem simpleEscape?_of_mem {c e : Char} (known : (c, e) ∈ letterEscapes) :
    c ≠ 'u' ∧ simpleEscape? c = some e := by
  have all : ∀ p ∈ letterEscapes, p.1 ≠ 'u' ∧ simpleEscape? p.1 = some p.2 := by decide
  exact all (c, e) known

theorem scanEscape_letter {c e : Char} {cs : List Char} (known : (c, e) ∈ letterEscapes) :
    scanEscape (c :: cs) = .ok (e, cs) := by
  obtain ⟨other, found⟩ := simpleEscape?_of_mem known
  simp only [scanEscape, other, if_false, found]

/-- What a code unit behind a backslash is taken for: a character, the first half of
one, or nothing. -/
theorem scanEscape_of_isUnit {digits rest : List Char} {n : Nat} (known : IsUnit digits n) :
    scanEscape ('u' :: (digits ++ rest)) =
      if isLowSurrogate n then .error .loneSurrogate
      else if isHighSurrogate n then
        match rest with
        | [] => .error .endInString
        | '\\' :: [] => .error .endInString
        | '\\' :: 'u' :: rest => do
          let (m, rest) ← scanHex rest
          if isLowSurrogate m then
            .ok (Char.ofNat (0x10000 + (n - 0xd800) * 0x400 + (m - 0xdc00)), rest)
          else .error .loneSurrogate
        | _ => .error .halfSurrogatePair
      else .ok (Char.ofNat n, rest) := by
  simp only [scanEscape, if_true, scanUnicode, scanHex_append known]
  rfl

theorem isLowSurrogate_iff {n : Nat} : isLowSurrogate n = true ↔ 0xdc00 ≤ n ∧ n ≤ 0xdfff := by
  simp [isLowSurrogate]

theorem isHighSurrogate_iff {n : Nat} : isHighSurrogate n = true ↔ 0xd800 ≤ n ∧ n ≤ 0xdbff := by
  simp [isHighSurrogate]

theorem scanEscape_unit {digits cs : List Char} {n : Nat} (known : IsUnit digits n)
    (whole : n < 0xd800 ∨ 0xdfff < n) :
    scanEscape ('u' :: (digits ++ cs)) = .ok (Char.ofNat n, cs) := by
  have low : ¬ isLowSurrogate n = true := by
    rw [isLowSurrogate_iff]
    omega
  have high : ¬ isHighSurrogate n = true := by
    rw [isHighSurrogate_iff]
    omega
  rw [scanEscape_of_isUnit known, if_neg low, if_neg high]

theorem scanEscape_pair {digits digits' cs : List Char} {n m : Nat} (known : IsUnit digits n)
    (high : 0xd800 ≤ n ∧ n ≤ 0xdbff) (known' : IsUnit digits' m)
    (low : 0xdc00 ≤ m ∧ m ≤ 0xdfff) :
    scanEscape ('u' :: (digits ++ '\\' :: 'u' :: (digits' ++ cs))) =
      .ok (Char.ofNat (0x10000 + (n - 0xd800) * 0x400 + (m - 0xdc00)), cs) := by
  have other : ¬ isLowSurrogate n = true := by
    rw [isLowSurrogate_iff]
    omega
  rw [scanEscape_of_isUnit known, if_neg other, if_pos (isHighSurrogate_iff.2 high)]
  simp only [scanHex_append known']
  exact if_pos (isLowSurrogate_iff.2 low)

theorem scanEscape_low {digits cs : List Char} {n : Nat} (known : IsUnit digits n)
    (low : 0xdc00 ≤ n ∧ n ≤ 0xdfff) :
    scanEscape ('u' :: (digits ++ cs)) = .error .loneSurrogate := by
  rw [scanEscape_of_isUnit known, if_pos (isLowSurrogate_iff.2 low)]

theorem scanEscape_high {digits cs : List Char} {n : Nat} (known : IsUnit digits n)
    (high : 0xd800 ≤ n ∧ n ≤ 0xdbff) (alone : ∀ more, cs ≠ '\\' :: 'u' :: more) :
    ∃ fault, scanEscape ('u' :: (digits ++ cs)) = .error fault := by
  have other : ¬ isLowSurrogate n = true := by
    rw [isLowSurrogate_iff]
    omega
  rw [scanEscape_of_isUnit known, if_neg other, if_pos (isHighSurrogate_iff.2 high)]
  split
  · exact ⟨_, rfl⟩
  · exact ⟨_, rfl⟩
  · rename_i more
    exact absurd rfl (alone more)
  · exact ⟨_, rfl⟩

theorem scanEscape_high_unit {digits digits' cs : List Char} {n m : Nat} (known : IsUnit digits n)
    (high : 0xd800 ≤ n ∧ n ≤ 0xdbff) (known' : IsUnit digits' m)
    (other : ¬ (0xdc00 ≤ m ∧ m ≤ 0xdfff)) :
    scanEscape ('u' :: (digits ++ '\\' :: 'u' :: (digits' ++ cs))) = .error .loneSurrogate := by
  have notLow : ¬ isLowSurrogate n = true := by
    rw [isLowSurrogate_iff]
    omega
  rw [scanEscape_of_isUnit known, if_neg notLow, if_pos (isHighSurrogate_iff.2 high)]
  simp only [scanHex_append known']
  exact if_neg fun low => other (isLowSurrogate_iff.1 low)

/-! ## Strings -/

theorem scanStringFrom_quote (read rest : List Char) :
    scanStringFrom read ('"' :: rest) = .ok (read.reverse, rest) := by
  rw [scanStringFrom]
  rfl

theorem scanStringFrom_plain {c : Char} (plain : IsPlain c) (read cs : List Char) :
    scanStringFrom read (c :: cs) = scanStringFrom (c :: read) cs := by
  obtain ⟨quote, backslash, visible⟩ := plain
  have control : ¬ c < ' ' := Char.not_lt.2 visible
  rw [scanStringFrom]
  simp only [quote, backslash, control, if_false]

theorem scanStringFrom_escape {cs rest : List Char} {e : Char}
    (escape : scanEscape cs = .ok (e, rest)) (read : List Char) :
    scanStringFrom read ('\\' :: cs) = scanStringFrom (e :: read) rest := by
  rw [scanStringFrom]
  simp only [Char.reduceEq, if_true, if_false]
  split
  · rename_i failed
    rw [escape] at failed
    cases failed
  · rename_i done
    rw [escape] at done
    cases done
    rfl

theorem scanStringFrom_fault {cs : List Char} {fault : Fault}
    (escape : scanEscape cs = .error fault) (read : List Char) :
    scanStringFrom read ('\\' :: cs) = .error fault := by
  rw [scanStringFrom]
  simp only [Char.reduceEq, if_true, if_false]
  split
  · rename_i failed
    rw [escape] at failed
    cases failed
    rfl
  · rename_i done
    rw [escape] at done
    cases done

theorem scanStringFrom_append {text s : List Char} (spells : Spells text s)
    (read rest : List Char) :
    scanStringFrom read (text ++ '"' :: rest) = .ok (read.reverse ++ s, rest) := by
  induction spells generalizing read with
  | nil =>
    rw [List.append_nil]
    exact scanStringFrom_quote read rest
  | plain plain _ ih => rw [List.cons_append, scanStringFrom_plain plain, ih]; simp
  | letter known _ ih =>
    simp only [List.cons_append, scanStringFrom_escape (scanEscape_letter known), ih]
    simp
  | unit known whole _ ih =>
    simp only [List.cons_append, List.append_assoc,
      scanStringFrom_escape (scanEscape_unit known whole), ih]
    simp
  | pair known high known' low _ ih =>
    simp only [List.cons_append, List.append_assoc,
      scanStringFrom_escape (scanEscape_pair known high known' low), ih]
    simp

theorem scanStringFrom_fault_or_spells {text : List Char} (known : IsString text) :
    (∃ s, Spells text s) ∨
      ∀ read rest, ∃ fault, scanStringFrom read (text ++ '"' :: rest) = .error fault := by
  -- A pair of surrogates takes two code units at once, so the induction is on the length.
  generalize size : text.length = n
  induction n using Nat.strongRecOn generalizing text with
  | ind n ih =>
    have shorter : ∀ {cs : List Char}, IsString cs → cs.length < text.length →
        (∃ s, Spells cs s) ∨
          ∀ read rest, ∃ fault, scanStringFrom read (cs ++ '"' :: rest) = .error fault :=
      fun known less => ih _ (size ▸ less) known rfl
    cases known with
    | nil => exact .inl ⟨[], .nil⟩
    | @plain c cs plain known =>
      rcases shorter known (by simp) with ⟨s, spells⟩ | fails
      · exact .inl ⟨c :: s, .plain plain spells⟩
      · refine .inr fun read rest => ?_
        rw [List.cons_append, scanStringFrom_plain plain]
        exact fails _ rest
    | @letter c e cs letter known =>
      rcases shorter known (by simp only [List.length_cons]; omega) with ⟨s, spells⟩ | fails
      · exact .inl ⟨e :: s, .letter letter spells⟩
      · refine .inr fun read rest => ?_
        simp only [List.cons_append, scanStringFrom_escape (scanEscape_letter letter)]
        exact fails _ rest
    | @unit digits cs n unit known =>
      -- An escape that fails ends the string, whatever has been read.
      have fails : (∀ rest, ∃ fault, scanEscape ('u' :: (digits ++ (cs ++ '"' :: rest))) =
          .error fault) → ∀ read rest, ∃ fault,
            scanStringFrom read ('\\' :: 'u' :: (digits ++ cs) ++ '"' :: rest) = .error fault := by
        intro escape read rest
        obtain ⟨fault, failed⟩ := escape rest
        refine ⟨fault, ?_⟩
        simp only [List.cons_append, List.append_assoc, scanStringFrom_fault failed]
      have kinds : (n < 0xd800 ∨ 0xdfff < n) ∨ (0xdc00 ≤ n ∧ n ≤ 0xdfff) ∨
          (0xd800 ≤ n ∧ n ≤ 0xdbff) := by omega
      rcases kinds with whole | low | high
      · have less : cs.length < ('\\' :: 'u' :: (digits ++ cs)).length := by
          simp only [List.length_cons, List.length_append]
          omega
        rcases shorter known less with ⟨s, spells⟩ | fails
        · exact .inl ⟨_, .unit unit whole spells⟩
        · refine .inr fun read rest => ?_
          simp only [List.cons_append, List.append_assoc,
            scanStringFrom_escape (scanEscape_unit unit whole)]
          exact fails _ rest
      · exact .inr (fails fun rest => ⟨_, scanEscape_low unit low⟩)
      · cases known with
        | nil => exact .inr (fails fun rest => scanEscape_high unit high (by simp))
        | plain plain _ =>
          refine .inr (fails fun rest => scanEscape_high unit high fun more same => ?_)
          exact plain.2.1 (List.cons.inj same).1
        | letter letter _ =>
          refine .inr (fails fun rest => scanEscape_high unit high fun more same => ?_)
          exact (simpleEscape?_of_mem letter).1 (List.cons.inj (List.cons.inj same).2).1
        | @unit digits' cs m unit' known =>
          by_cases low : 0xdc00 ≤ m ∧ m ≤ 0xdfff
          · have less : cs.length <
                ('\\' :: 'u' :: (digits ++ '\\' :: 'u' :: (digits' ++ cs))).length := by
              simp only [List.length_cons, List.length_append]
              omega
            rcases shorter known less with ⟨s, spells⟩ | fails
            · exact .inl ⟨_, .pair unit high unit' low spells⟩
            · refine .inr fun read rest => ?_
              simp only [List.cons_append, List.append_assoc,
                scanStringFrom_escape (scanEscape_pair unit high unit' low)]
              exact fails _ rest
          · refine .inr (fails fun rest => ⟨.loneSurrogate, ?_⟩)
            simp only [List.cons_append, List.append_assoc]
            exact scanEscape_high_unit unit high unit' low

/-- **Reading a string.** A string is read exactly if it spells something, and what is
read is what it spells. -/
theorem scanString_append_iff {text rest left : List Char} {s : String} (known : IsString text) :
    scanString (text ++ '"' :: rest) = .ok (s, left) ↔
      (∃ chars, Spells text chars ∧ s = String.ofList chars) ∧ left = rest := by
  have scanned : ∀ chars, Spells text chars →
      scanString (text ++ '"' :: rest) = .ok (String.ofList chars, rest) := by
    intro chars spells
    unfold scanString
    rw [scanStringFrom_append spells]
    rfl
  constructor
  · intro read
    rcases scanStringFrom_fault_or_spells known with ⟨chars, spells⟩ | fails
    · rw [scanned chars spells] at read
      cases read
      exact ⟨⟨chars, spells, rfl⟩, rfl⟩
    · obtain ⟨fault, failed⟩ := fails [] rest
      unfold scanString at read
      rw [failed] at read
      cases read
  · rintro ⟨⟨chars, spells, rfl⟩, rfl⟩
    exact scanned chars spells

/-! ## Passing over strings -/

theorem skipString_escape {cs rest : List Char} (escape : skipEscape cs = .ok rest) :
    skipString ('\\' :: cs) = skipString rest := by
  rw [skipString]
  simp only [Char.reduceEq, if_true, if_false]
  split
  · rename_i failed
    rw [escape] at failed
    cases failed
  · rename_i done
    rw [escape] at done
    cases done
    rfl

theorem skipString_append {text : List Char} (known : IsString text) (rest : List Char) :
    skipString (text ++ '"' :: rest) = .ok rest := by
  induction known with
  | nil =>
    rw [List.nil_append, skipString]
    rfl
  | plain plain _ ih =>
    obtain ⟨quote, backslash, visible⟩ := plain
    rw [List.cons_append, skipString]
    simpa only [quote, backslash, Char.not_lt.2 visible, if_false] using ih
  | @letter c e cs known _ ih =>
    obtain ⟨other, found⟩ := simpleEscape?_of_mem known
    have escape : skipEscape (c :: (cs ++ '"' :: rest)) = .ok (cs ++ '"' :: rest) := by
      simp only [skipEscape, other, if_false, found, Option.isSome_some, if_true]
    rw [List.cons_append, List.cons_append, skipString_escape escape, ih]
  | @unit digits cs n known _ ih =>
    have escape : skipEscape ('u' :: (digits ++ (cs ++ '"' :: rest))) = .ok (cs ++ '"' :: rest) := by
      simp only [skipEscape, if_true, scanHex_append known, Except.map]
    simp only [List.cons_append, List.append_assoc, skipString_escape escape, ih]

end Timings.Json
