import Timings.Bytes

/-!
Texts and their encodings, byte by byte.

The first 128 characters are encoded in one byte, and their bytes stand in no other
encoding. So a line feed among the bytes is one of the text (`newline_mem_ofText`), and
a line end behind bytes is a line end behind the text that they encode, if they encode
one (`toText?_concat`).
-/

namespace Timings.Bytes

theorem ofText_append (s t : String) : ofText (s ++ t) = ofText s ++ ofText t := by
  unfold ofText
  simp

theorem ofText_push (s : String) (c : Char) :
    ofText (s.push c) = ofText s ++ String.utf8EncodeChar c := by
  unfold ofText
  simp [List.utf8Encode_singleton]

theorem ofText_ofList (cs : List Char) :
    ofText (String.ofList cs) = cs.flatMap String.utf8EncodeChar := by
  unfold ofText
  simp [List.utf8Encode]

/-- All bytes of a character beyond the first 128 are beyond the first 128 bytes. -/
theorem le_of_mem_utf8EncodeChar {c : Char} {b : UInt8} (wide : ¬ c.val.toNat ≤ 0x7f)
    (inside : b ∈ String.utf8EncodeChar c) : 128 ≤ b.toNat := by
  unfold String.utf8EncodeChar at inside
  dsimp only at inside
  rw [if_neg wide] at inside
  split at inside
  · simp only [List.mem_cons, List.not_mem_nil, or_false] at inside
    rcases inside with rfl | rfl <;> rw [UInt8.toNat_ofNat'] <;> omega
  · split at inside
    · simp only [List.mem_cons, List.not_mem_nil, or_false] at inside
      rcases inside with rfl | rfl | rfl <;> rw [UInt8.toNat_ofNat'] <;> omega
    · simp only [List.mem_cons, List.not_mem_nil, or_false] at inside
      rcases inside with rfl | rfl | rfl | rfl <;> rw [UInt8.toNat_ofNat'] <;> omega

/-- A byte below 128 is the whole encoding of a character in which it occurs. -/
theorem utf8EncodeChar_eq_of_mem {c : Char} {b : UInt8} (ascii : b.toNat < 128)
    (inside : b ∈ String.utf8EncodeChar c) : String.utf8EncodeChar c = [b] ∧ c.toNat = b.toNat := by
  by_cases narrow : c.val.toNat ≤ 0x7f
  · have single : String.utf8EncodeChar c = [UInt8.ofNat c.val.toNat] := if_pos narrow
    rw [single, List.mem_singleton] at inside
    refine ⟨by rw [single, inside], ?_⟩
    rw [inside, UInt8.toNat_ofNat', Nat.mod_eq_of_lt (by omega)]
    rfl
  · have wide := le_of_mem_utf8EncodeChar narrow inside
    omega

/-- A text has a line feed where its encoding has one. -/
theorem newline_mem_ofText {text : String} (inside : newline ∈ ofText text) :
    '\n' ∈ text.toList := by
  rw [← String.ofList_toList (s := text), ofText_ofList] at inside
  obtain ⟨c, occurs, inside⟩ := List.mem_flatMap.1 inside
  obtain ⟨-, same⟩ := utf8EncodeChar_eq_of_mem (by decide) inside
  have feed : c = '\n' := Char.toNat_inj.1 same
  exact feed ▸ occurs

/-- A character below 128 behind bytes goes to the text that they encode. -/
theorem toText?_concat {c : Char} {b : UInt8} (ascii : b.toNat < 128)
    (single : String.utf8EncodeChar c = [b]) (bytes : Bytes) :
    toText? (bytes ++ [b]) = (toText? bytes).map (·.push c) := by
  cases decoded : toText? bytes with
  | some text =>
      rw [eq_ofText_of_toText? decoded, ← single, ← ofText_push, toText?_ofText]
      rfl
  | none =>
      cases decoded' : toText? (bytes ++ [b]) with
      | none => rfl
      | some text =>
          have encoded := eq_ofText_of_toText? decoded'
          -- the last character of the text is the one that ends in the last byte
          induction text using String.push_induction with
          | empty => simp [ofText] at encoded
          | push text last _ =>
              rw [ofText_push] at encoded
              have inside : b ∈ String.utf8EncodeChar last := by
                have final := congrArg List.getLast? encoded
                rw [List.getLast?_concat, List.getLast?_append,
                  List.getLast?_eq_some_getLast String.utf8EncodeChar_ne_nil,
                  Option.some_or] at final
                exact Option.some.inj final ▸ List.getLast_mem _
              obtain ⟨alone, -⟩ := utf8EncodeChar_eq_of_mem ascii inside
              rw [alone] at encoded
              rw [List.append_cancel_right encoded, toText?_ofText] at decoded
              cases decoded

end Timings.Bytes
