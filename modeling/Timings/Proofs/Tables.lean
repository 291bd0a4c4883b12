import Timings.Proofs.Accepted
import Timings.Proofs.Encoding
import Timings.Proofs.Places

/-!
Tables, cut into lines and columns again.

Columns that are joined are the pieces of the line, as long as none of them has a delimiter
(`pieces_intercalate`), and rows that are joined are the lines of the table, as long as none
of them has a line feed (`lines_rows`). So a parser that accepts every row accepts the table
(`Parses.of_rows`).
-/

namespace Timings

/-! ## Columns of a line -/

namespace Text

/-- A delimiter separates the pieces before it from those behind it. -/
theorem pieces_append (delimiter : Char) (cs rest : List Char) :
    pieces delimiter (cs ++ delimiter :: rest) = pieces delimiter cs ++ pieces delimiter rest := by
  induction cs with
  | nil => simp only [List.nil_append, pieces, if_true, List.singleton_append]
  | cons c cs ih =>
      rw [List.cons_append]
      by_cases same : c = delimiter
      · rw [pieces, if_pos same, ih, pieces, if_pos same, List.cons_append]
      · rw [pieces, if_neg same, ih, pieces, if_neg same]
        cases cut : pieces delimiter cs with
        | nil => exact absurd cut (pieces_ne_nil delimiter cs)
        | cons piece others => rfl

theorem pieces_append_cons {delimiter : Char} {cs : List Char} (whole : delimiter ∉ cs)
    (rest : List Char) :
    pieces delimiter (cs ++ delimiter :: rest) = cs :: pieces delimiter rest := by
  rw [pieces_append, pieces_of_notMem whole, List.singleton_append]

/-- A text is determined by its pieces. -/
theorem pieces_injective {delimiter : Char} {cs ds : List Char}
    (same : pieces delimiter cs = pieces delimiter ds) : cs = ds := by
  rw [← intercalate_pieces delimiter cs, same, intercalate_pieces]

/-- A piece holds characters of the text, but no delimiter. -/
theorem mem_of_mem_pieces {delimiter : Char} {cs piece : List Char}
    (known : piece ∈ pieces delimiter cs) : ∀ c ∈ piece, c ∈ cs ∧ c ≠ delimiter := by
  induction cs generalizing piece with
  | nil =>
      rw [pieces, List.mem_singleton] at known
      subst known
      intro c inside
      cases inside
  | cons d cs ih =>
      rw [pieces] at known
      by_cases same : d = delimiter
      · rw [if_pos same, List.mem_cons] at known
        rcases known with rfl | known
        · intro c inside
          cases inside
        · exact fun c inside => (ih known c inside).imp_left (List.mem_cons_of_mem d)
      · rw [if_neg same] at known
        cases cut : pieces delimiter cs with
        | nil => exact absurd cut (pieces_ne_nil delimiter cs)
        | cons first others =>
            rw [cut] at known ih
            rcases List.mem_cons.1 known with rfl | known
            · intro c inside
              rcases List.mem_cons.1 inside with rfl | inside
              · exact ⟨List.mem_cons_self, same⟩
              · exact (ih List.mem_cons_self c inside).imp_left (List.mem_cons_of_mem d)
            · exact fun c inside =>
                (ih (List.mem_cons_of_mem first known) c inside).imp_left
                  (List.mem_cons_of_mem d)

/-- Lines that end in a delimiter each are cut apart again, with nothing behind the last. -/
theorem pieces_terminated {delimiter : Char} {lines : List (List Char)}
    (whole : ∀ line ∈ lines, delimiter ∉ line) :
    pieces delimiter (lines.flatMap (· ++ [delimiter])) = lines ++ [[]] := by
  induction lines with
  | nil => rfl
  | cons line lines ih =>
      have behind := ih fun l inside => whole l (List.mem_cons_of_mem line inside)
      rw [List.flatMap_cons, List.append_assoc, List.singleton_append,
        pieces_append_cons (whole line List.mem_cons_self), behind, List.cons_append]

/-- Joined columns are cut apart again. -/
theorem pieces_intercalate {delimiter : Char} {columns : List (List Char)}
    (nonempty : columns ≠ []) (whole : ∀ column ∈ columns, delimiter ∉ column) :
    pieces delimiter ([delimiter].intercalate columns) = columns := by
  induction columns with
  | nil => exact absurd rfl nonempty
  | cons column columns ih =>
      have here := whole column List.mem_cons_self
      cases columns with
      | nil =>
          rw [List.intercalate_singleton]
          exact pieces_of_notMem here
      | cons next columns =>
          have behind := ih (List.cons_ne_nil _ _) fun c inside =>
            whole c (List.mem_cons_of_mem column inside)
          rw [List.intercalate_cons_cons, List.append_assoc, List.singleton_append,
            pieces_append_cons here, behind]

theorem mem_intercalate {delimiter c : Char} {columns : List (List Char)}
    (inside : c ∈ [delimiter].intercalate columns) :
    c = delimiter ∨ ∃ column ∈ columns, c ∈ column := by
  induction columns with
  | nil => cases inside
  | cons column columns ih =>
      cases columns with
      | nil =>
          rw [List.intercalate_singleton] at inside
          exact .inr ⟨column, List.mem_cons_self, inside⟩
      | cons next columns =>
          rw [List.intercalate_cons_cons, List.append_assoc] at inside
          rcases List.mem_append.1 inside with here | inside
          · exact .inr ⟨column, List.mem_cons_self, here⟩
          · rcases List.mem_append.1 inside with between | inside
            · exact .inl (List.mem_singleton.1 between)
            · rcases ih inside with between | ⟨other, known, occurs⟩
              · exact .inl between
              · exact .inr ⟨other, List.mem_cons_of_mem column known, occurs⟩

/-- A joined text ends as its last column does, or in a delimiter. -/
theorem mem_getLast?_intercalate {delimiter c : Char} {columns : List (List Char)}
    (last : c ∈ ([delimiter].intercalate columns).getLast?) :
    c = delimiter ∨ ∃ column ∈ columns.getLast?, c ∈ column.getLast? := by
  induction columns with
  | nil => cases last
  | cons column columns ih =>
      cases columns with
      | nil =>
          rw [List.intercalate_singleton] at last
          exact .inr ⟨column, rfl, last⟩
      | cons next columns =>
          rw [List.getLast?_cons_cons]
          rw [List.intercalate_cons_cons, List.getLast?_append] at last
          cases rest : ([delimiter].intercalate (next :: columns)).getLast? with
          | some c' =>
              rw [rest] at last
              exact ih (rest.trans last)
          | none =>
              rw [rest, Option.none_or, List.getLast?_concat] at last
              exact .inl (Option.some.inj last).symm

/-- Nothing is dropped from a text whose last character stays. -/
theorem dropEnd_eq_self {drop : Char → Bool} {cs : List Char}
    (stays : ∀ c ∈ cs.getLast?, drop c = false) : dropEnd drop cs = cs := by
  unfold dropEnd
  have kept : cs.reverse.dropWhile drop = cs.reverse := by
    cases reversed : cs.reverse with
    | nil => rfl
    | cons c rest =>
        have last : cs.getLast? = some c := by rw [List.getLast?_eq_head?_reverse, reversed]; rfl
        exact List.dropWhile_cons_of_neg (by simp [stays c last])
  rw [kept, List.reverse_reverse]

theorem exists_dropEnd (drop : Char → Bool) (cs : List Char) :
    ∃ back, cs = dropEnd drop cs ++ back ∧ ∀ c ∈ back, drop c = true := by
  refine ⟨(cs.reverse.takeWhile drop).reverse, ?_, fun c inside => ?_⟩
  · rw [dropEnd, ← List.reverse_append, List.takeWhile_append_dropWhile, List.reverse_reverse]
  · exact List.all_eq_true.1 List.all_takeWhile c (List.mem_reverse.1 inside)

/-- A text is what is left of it between what was dropped. -/
theorem exists_trim (drop : Char → Bool) (cs : List Char) :
    ∃ front back, cs = front ++ (trim drop cs ++ back) ∧ (∀ c ∈ front, drop c = true) ∧
      ∀ c ∈ back, drop c = true := by
  obtain ⟨back, same, all⟩ := exists_dropEnd drop (cs.dropWhile drop)
  refine ⟨cs.takeWhile drop, back, ?_, List.all_eq_true.1 List.all_takeWhile, all⟩
  rw [trim, ← same, List.takeWhile_append_dropWhile]

/-- What is left of a text between characters that are dropped, if its ends stay. -/
theorem trim_append_of_ends {drop : Char → Bool} {front cs back : List Char}
    (before : ∀ c ∈ front, drop c = true) (first : ∀ c ∈ cs.head?, drop c = false)
    (last : ∀ c ∈ cs.getLast?, drop c = false) (behind : ∀ c ∈ back, drop c = true) :
    trim drop (front ++ (cs ++ back)) = cs := by
  rw [trim, List.dropWhile_append_of_pos before]
  cases cs with
  | nil =>
      rw [List.nil_append, ← List.append_nil back, List.dropWhile_append_of_pos behind]
      rfl
  | cons c cs =>
      have stays : ¬drop c = true := by simp [first c rfl]
      rw [List.cons_append, List.dropWhile_cons_of_neg stays, ← List.cons_append,
        Line.dropEnd_append_of_all behind]
      exact dropEnd_eq_self last

theorem trim_append {drop : Char → Bool} {front cs back : List Char}
    (before : ∀ c ∈ front, drop c = true) (solid : ∀ c ∈ cs, drop c = false)
    (behind : ∀ c ∈ back, drop c = true) : trim drop (front ++ (cs ++ back)) = cs :=
  trim_append_of_ends before (fun c head => solid c (List.mem_of_mem_head? head))
    (fun c last => solid c (List.mem_of_getLast? last)) behind

theorem trim_eq_self {drop : Char → Bool} {cs : List Char}
    (stays : ∀ c ∈ cs, drop c = false) : trim drop cs = cs := by
  have alone := @trim_append drop [] cs [] (List.forall_mem_nil _) stays (List.forall_mem_nil _)
  rwa [List.nil_append, List.append_nil] at alone

end Text

/-! ## Rows of a table -/

namespace Bytes

theorem lines_concat_newline {bytes : Bytes} (whole : newline ∉ bytes) :
    (bytes ++ [newline]).lines = [bytes ++ [newline]] := by
  induction bytes with
  | nil => rfl
  | cons b bs ih =>
      rw [List.mem_cons, not_or] at whole
      rw [List.cons_append, lines, if_neg (Ne.symm whole.1), ih whole.2]

theorem ofText_join (texts : List String) :
    ofText (String.join texts) = texts.flatMap ofText := by
  induction texts with
  | nil => rfl
  | cons text texts ih => rw [String.join_cons, ofText_append, ih, List.flatMap_cons]

/-- The encoding of a row with its line feed. -/
theorem ofText_append_newline (row : String) :
    ofText (row ++ "\n") = ofText row ++ [newline] := by
  rw [ofText_append]
  rfl

/-- Joined rows are cut apart again. -/
theorem lines_rows {rows : List String} (whole : ∀ row ∈ rows, '\n' ∉ row.toList) :
    (ofText (String.join (rows.map (· ++ "\n")))).lines =
      rows.map fun row => ofText row ++ [newline] := by
  induction rows with
  | nil => rfl
  | cons row rows ih =>
      have here : newline ∉ ofText row := fun inside =>
        whole row List.mem_cons_self (newline_mem_ofText inside)
      have behind := ih fun r inside => whole r (List.mem_cons_of_mem row inside)
      rw [List.map_cons, String.join_cons, ofText_append, ofText_append_newline,
        lines_append List.getLast?_concat, lines_concat_newline here, behind]
      rfl

end Bytes

/-- A parser that accepts every row accepts the table. -/
theorem Parses.of_rows {α : Type} {parse : LineParser α} (ignores : IgnoresEnds parse)
    (unnumbered : Unnumbered parse) {rows : List String} {items : List α}
    (whole : ∀ row ∈ rows, '\n' ∉ row.toList)
    (accepted : List.Forall₂ (fun row item => parse row 0 = .ok item) rows items) :
    Parses parse 0 (Bytes.ofText (String.join (rows.map (· ++ "\n")))).lines items := by
  rw [parses_iff_forall₂ ignores unnumbered, Bytes.lines_rows whole, List.map_map,
    List.forall₂_map_left_iff]
  refine accepted.imp fun row item given => ?_
  have ends : ∀ b ∈ [Bytes.newline], Bytes.isLineEnd b = true := by decide
  change Stream.parseBody parse (Bytes.stripped (Bytes.ofText row ++ [Bytes.newline])) 0 = _
  rw [ignores.parseBody_stripped, ignores.parseBody_append ends, Stream.parseBody,
    Bytes.toText?_ofText]
  exact given

end Timings
