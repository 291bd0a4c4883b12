/-!
Characters of texts: sets of them, the blank ones, and texts trimmed and cut by them.

Every occurrence of a delimiter separates two pieces, so there is one piece more than
occurrences, and joining the pieces gives the text again.
-/

namespace Timings

/-- A set of characters: those whose code point lies in one of the closed ranges. -/
abbrev CharRanges := List (Nat × Nat)

/-- Membership in a set of characters. -/
def CharRanges.contains (ranges : CharRanges) (c : Char) : Bool :=
  ranges.any fun range => range.1 ≤ c.toNat && c.toNat ≤ range.2

namespace Text

/-! ## Blank characters and trimming -/

/-- The ranges of blank characters, the property White_Space. -/
def blanks : CharRanges :=
  [(0x9, 0xd), (0x20, 0x20), (0x85, 0x85), (0xa0, 0xa0), (0x1680, 0x1680), (0x2000, 0x200a),
   (0x2028, 0x2029), (0x202f, 0x202f), (0x205f, 0x205f), (0x3000, 0x3000)]

/-- Whether a character is blank. -/
def isBlank (c : Char) : Bool := blanks.contains c

/-- Drops the longest run of such characters at the end. -/
def dropEnd (drop : Char → Bool) (cs : List Char) : List Char :=
  (cs.reverse.dropWhile drop).reverse

/-- Drops the longest runs of such characters at both ends. -/
def trim (drop : Char → Bool) (cs : List Char) : List Char :=
  dropEnd drop (cs.dropWhile drop)

/-! ## Pieces -/

/-- The pieces of a text between the occurrences of a delimiter, at least one. -/
def pieces (delimiter : Char) : List Char → List (List Char)
  | [] => [[]]
  | c :: cs =>
    if c = delimiter then [] :: pieces delimiter cs
    else
      match pieces delimiter cs with
      | [] => [[c]]
      | piece :: rest => (c :: piece) :: rest

theorem pieces_ne_nil (delimiter : Char) (cs : List Char) : pieces delimiter cs ≠ [] := by
  cases cs with
  | nil => exact List.cons_ne_nil _ _
  | cons c cs =>
    simp only [pieces]
    split
    · exact List.cons_ne_nil _ _
    · split <;> exact List.cons_ne_nil _ _

theorem intercalate_pieces (delimiter : Char) (cs : List Char) :
    [delimiter].intercalate (pieces delimiter cs) = cs := by
  induction cs with
  | nil => rfl
  | cons c cs ih =>
    have some_piece := pieces_ne_nil delimiter cs
    simp only [pieces]
    split
    · rename_i same
      rw [List.intercalate_cons_of_ne_nil some_piece, ih, same]
      rfl
    · split
      · rename_i empty
        exact absurd empty some_piece
      · rename_i piece rest cut
        rw [cut] at ih
        cases rest with
        | nil => simpa using ih
        | cons next rest =>
          rw [List.intercalate_cons_cons] at ih ⊢
          simpa using ih

end Text

end Timings
