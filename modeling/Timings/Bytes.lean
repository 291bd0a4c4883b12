/-!
Byte sequences and the texts they encode.
-/

namespace Timings

/-- The contents of a file, or a part of them. -/
abbrev Bytes := List UInt8

namespace Bytes

/-- The text whose UTF-8 encoding the bytes are, if they are one. -/
def toText? (bytes : Bytes) : Option String := String.fromUTF8? bytes.toByteArray

/-- The UTF-8 encoding of a text. -/
def ofText (text : String) : Bytes := text.toUTF8.data.toList

/-- The line feed. -/
def newline : UInt8 := 10

/-- The carriage return. -/
def carriageReturn : UInt8 := 13

/-- The first line with its line feed, and what follows it; `none` if there is no
line feed. -/
def cutLine? : Bytes → Option (Bytes × Bytes)
  | [] => none
  | b :: bs =>
    if b = newline then some ([b], bs) else (cutLine? bs).map fun p => (b :: p.1, p.2)

/-- A line without its line feed and one carriage return directly before it. A
line that has no line feed is left as it is. -/
def chopLine (line : Bytes) : Bytes :=
  match line.reverse with
  | [] => []
  | b :: rest =>
    if b = newline then
      match rest with
      | [] => []
      | r :: rest' => if r = carriageReturn then rest'.reverse else rest.reverse
    else line

/-- A text is what its encoding reads as. -/
theorem toText?_ofText (text : String) : toText? (ofText text) = some text := by
  have same : (ofText text).toByteArray = text.toUTF8 := by
    apply ByteArray.ext
    simp [ofText]
  unfold toText? String.fromUTF8?
  rw [same, String.toUTF8_eq_toByteArray, dif_pos text.isValidUTF8]
  rfl

/-- No other bytes read as a text than its encoding. -/
theorem eq_ofText_of_toText? {bytes : Bytes} {text : String} (h : toText? bytes = some text) :
    bytes = ofText text := by
  unfold toText? String.fromUTF8? at h
  split at h
  · rename_i valid
    cases h
    change bytes = bytes.toByteArray.data.toList
    simp
  · cases h

theorem cutLine?_append {bytes line rest : Bytes} (h : cutLine? bytes = some (line, rest)) :
    bytes = line ++ rest := by
  induction bytes generalizing line with
  | nil => cases h
  | cons b bs ih =>
    simp only [cutLine?] at h
    split at h
    · cases h; rfl
    · obtain ⟨p, cut, same⟩ := Option.map_eq_some_iff.1 h
      cases same
      rw [ih cut]
      rfl

end Bytes

end Timings
