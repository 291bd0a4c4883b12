import Timings.Proofs.Analyses
import Timings.Proofs.Arrival
import Timings.Proofs.Encoding

/-!
Line ends.

A line ends in a line feed, in a carriage return and a line feed, or with the log; a
logger may put further carriage returns in front. `Bytes.stripped` is a line without
all of these. No parser looks at them (`IgnoresEnds`), so an analysis is decided by the
stripped lines (`IsFold.eq_of_stripped`), and it does not matter which line ends a log
has.
-/

namespace Timings

/-! ## Stripped lines -/

namespace Bytes

/-- Whether a byte is a line feed or a carriage return. -/
def isLineEnd (b : UInt8) : Bool := b == newline || b == carriageReturn

/-- A line without the line feeds and carriage returns at its end. -/
def stripped : Bytes → Bytes
  | [] => []
  | b :: bs =>
    match stripped bs with
    | [] => if isLineEnd b then [] else [b]
    | rest => b :: rest

theorem stripped_cons_congr {bs bs' : Bytes} (same : stripped bs = stripped bs') (b : UInt8) :
    stripped (b :: bs) = stripped (b :: bs') := by
  rw [stripped, stripped, same]

theorem stripped_append {ends : Bytes} (all : ∀ b ∈ ends, isLineEnd b = true) (line : Bytes) :
    stripped (line ++ ends) = stripped line := by
  induction line with
  | nil =>
      induction ends with
      | nil => rfl
      | cons b ends ih =>
          have rest := ih fun c inside => all c (List.mem_cons_of_mem b inside)
          change stripped ends = [] at rest
          change stripped (b :: ends) = []
          rw [stripped, rest]
          exact if_pos (all b List.mem_cons_self)
  | cons b line ih => exact stripped_cons_congr ih b

theorem exists_eq_stripped_append (line : Bytes) :
    ∃ ends, (∀ b ∈ ends, isLineEnd b = true) ∧ line = stripped line ++ ends := by
  induction line with
  | nil => exact ⟨[], fun _ inside => absurd inside List.not_mem_nil, rfl⟩
  | cons b line ih =>
      obtain ⟨ends, all, whole⟩ := ih
      rw [stripped]
      cases body : stripped line with
      | nil =>
          rw [body] at whole
          by_cases ends' : isLineEnd b = true
          · refine ⟨b :: ends, ?_, ?_⟩
            · rintro c inside
              rcases List.mem_cons.1 inside with rfl | inside
              · exact ends'
              · exact all c inside
            · rw [if_pos ends', whole]
              rfl
          · exact ⟨ends, all, by rw [if_neg ends', whole]; rfl⟩
      | cons c cs =>
          rw [body] at whole
          exact ⟨ends, all, by rw [whole]; rfl⟩

/-- Chopping a line takes line ends off, if not all of them. -/
theorem exists_eq_chopLine_append (line : Bytes) :
    ∃ ends, (∀ b ∈ ends, isLineEnd b = true) ∧ line = line.chopLine ++ ends := by
  rw [chopLine_eq_withoutEnd, withoutEnd]
  by_cases feed : line.getLast? = some newline
  · obtain ⟨front, rfl⟩ := List.getLast?_eq_some_iff.1 feed
    rw [if_pos feed, List.dropLast_concat]
    by_cases return' : front.getLast? = some carriageReturn
    · obtain ⟨inner, rfl⟩ := List.getLast?_eq_some_iff.1 return'
      rw [if_pos return', List.dropLast_concat]
      exact ⟨[carriageReturn, newline], by decide, List.append_assoc ..⟩
    · rw [if_neg return']
      exact ⟨[newline], by decide, rfl⟩
  · rw [if_neg feed]
    exact ⟨[], fun _ inside => absurd inside List.not_mem_nil, (List.append_nil _).symm⟩

end Bytes

/-! ## Parsers and the ends of their lines -/

/-- A parser makes the same of a text with a line end behind it. -/
def IgnoresEnds {α : Type} (parse : LineParser α) : Prop :=
  ∀ (text : String) (c : Char) (number : Nat), Line.isLineEnd c = true →
    parse (text.push c) number = parse text number

/-- What a parser makes of bytes from which a line end has been taken off. -/
def Stream.parseBody {α : Type} (parse : LineParser α) (body : Bytes) (number : Nat) :
    Except Failure α :=
  match body.toText? with
  | none => .error (.malformedLine number .notUtf8)
  | some text => parse text number

namespace IgnoresEnds

open Timings.Stream

variable {α : Type} {parse : LineParser α}

theorem parseBody_concat (ignores : IgnoresEnds parse) {b : UInt8} (ends : Bytes.isLineEnd b = true)
    (body : Bytes) (number : Nat) :
    parseBody parse (body ++ [b]) number = parseBody parse body number := by
  have pushed : ∃ c, Line.isLineEnd c = true ∧ b.toNat < 128 ∧ String.utf8EncodeChar c = [b] := by
    rcases Bool.or_eq_true_iff.1 ends with feed | return'
    · exact ⟨'\n', rfl, by rw [eq_of_beq feed]; decide, by rw [eq_of_beq feed]; decide⟩
    · exact ⟨'\r', rfl, by rw [eq_of_beq return']; decide, by rw [eq_of_beq return']; decide⟩
  obtain ⟨c, isEnd, ascii, single⟩ := pushed
  unfold parseBody
  rw [Bytes.toText?_concat ascii single]
  cases body.toText? with
  | none => rfl
  | some text => exact ignores text c number isEnd

theorem parseBody_append (ignores : IgnoresEnds parse) {ends : Bytes}
    (all : ∀ b ∈ ends, Bytes.isLineEnd b = true) (body : Bytes) (number : Nat) :
    parseBody parse (body ++ ends) number = parseBody parse body number := by
  induction ends generalizing body with
  | nil => rw [List.append_nil]
  | cons b ends ih =>
      rw [List.append_cons, ih fun c inside => all c (List.mem_cons_of_mem b inside),
        ignores.parseBody_concat (all b List.mem_cons_self)]

theorem parseBody_stripped (ignores : IgnoresEnds parse) (line : Bytes) (number : Nat) :
    parseBody parse line.stripped number = parseBody parse line number := by
  obtain ⟨ends, all, whole⟩ := Bytes.exists_eq_stripped_append line
  conv => rhs; rw [whole, ignores.parseBody_append all]

/-- **Stripped lines.** A parser that does not look at line ends is decided by what is
left of a line without any. -/
theorem parseLine_eq_stripped (ignores : IgnoresEnds parse) (line : Bytes) (number : Nat) :
    parseLine parse line number = parseBody parse line.stripped number := by
  obtain ⟨ends, all, whole⟩ := Bytes.exists_eq_chopLine_append line
  have same : line.stripped = line.chopLine.stripped := by
    conv => lhs; rw [whole]
    exact Bytes.stripped_append all _
  rw [same, ignores.parseBody_stripped]
  rfl

theorem lineResult_congr (ignores : IgnoresEnds parse) {line line' : Bytes}
    (same : line'.stripped = line.stripped) {number : Nat} {result : Except Failure α}
    (worth : LineResult parse line number result) : LineResult parse line' number result := by
  rw [lineResult_iff, ignores.parseLine_eq_stripped] at worth ⊢
  rw [same, worth]

theorem parses_congr (ignores : IgnoresEnds parse) {read : Nat} {lines lines' : List Bytes}
    {items : List α} (same : lines'.map Bytes.stripped = lines.map Bytes.stripped)
    (parsed : Parses parse read lines items) : Parses parse read lines' items := by
  induction parsed generalizing lines' with
  | nil read =>
      rw [List.map_eq_nil_iff.1 same]
      exact .nil read
  | cons head _ ih =>
      obtain ⟨line', rest', rfl, first, rest⟩ := List.map_eq_cons_iff.1 same
      exact .cons (ignores.lineResult_congr first head) (ih rest)

theorem firstFailure_congr (ignores : IgnoresEnds parse) {lines lines' : List Bytes} {number : Nat}
    {failure : Failure} (same : lines'.map Bytes.stripped = lines.map Bytes.stripped)
    (first : FirstFailure parse lines number failure) :
    FirstFailure parse lines' number failure := by
  obtain ⟨before, line, after, items, rfl, rfl, parsed, bad⟩ := first
  rw [List.map_append, List.map_cons] at same
  obtain ⟨before', rest, rfl, front, back⟩ := List.map_eq_append_iff.1 same
  obtain ⟨line', after', rfl, here, -⟩ := List.map_eq_cons_iff.1 back
  have count : before'.length = before.length := by
    simpa using congrArg List.length front
  exact ⟨before', line', after', items, rfl, by rw [count], ignores.parses_congr front parsed,
    ignores.lineResult_congr here bad⟩

end IgnoresEnds

/-- An analysis depends on the stripped lines. -/
theorem IsFold.eq_of_stripped {α σ ρ : Type} {parse : LineParser α} {step : σ → α → σ} {value : σ}
    {finish : σ → Nat → Analysis ρ} {analyse : Source → Except Failure (Analysis ρ)}
    (folds : IsFold parse step value finish analyse) (ignores : IgnoresEnds parse)
    {input input' : Bytes}
    (same : input'.lines.map Bytes.stripped = input.lines.map Bytes.stripped) :
    analyse (.ofBytes input) = analyse (.ofBytes input') := by
  have count : input'.lines.length = input.lines.length := by
    simpa using congrArg List.length same
  rcases parses_or_firstFailure parse input.lines with ⟨items, parsed⟩ | ⟨number, failure, first⟩
  · rw [folds.of_parses parsed, folds.of_parses (ignores.parses_congr same parsed), count]
  · rw [folds.of_firstFailure first, folds.of_firstFailure (ignores.firstFailure_congr same first)]

/-! ## The parsers -/

namespace Line

theorem dropEnd_append_of_all {drop : Char → Bool} {back : List Char}
    (goes : ∀ c ∈ back, drop c = true) (cs : List Char) :
    Text.dropEnd drop (cs ++ back) = Text.dropEnd drop cs := by
  unfold Text.dropEnd
  rw [List.reverse_append,
    List.dropWhile_append_of_pos fun c inside => goes c (List.mem_reverse.1 inside)]

theorem ignoresEnds_labelled (format : ColumnFormat) : IgnoresEnds (labelled format) := by
  intro text c number ends
  unfold labelled
  rw [String.toList_push, dropEnd_append_of_all (by simpa using ends)]

theorem ofLine_push {c : Char} (margin : Fragment.isMargin c = true) (text : String) :
    Fragment.ofLine (text.push c) = Fragment.ofLine text := by
  have trimmed : Text.trim Fragment.isMargin (text.toList ++ [c]) =
      Text.trim Fragment.isMargin text.toList := by
    unfold Text.trim
    rw [List.dropWhile_append]
    split
    · rename_i nothing
      rw [List.isEmpty_iff.1 nothing, List.dropWhile_cons_of_pos margin]
      rfl
    · exact dropEnd_append_of_all (by simpa using margin) _
  unfold Fragment.ofLine
  rw [String.toList_push, trimmed]

theorem ignoresEnds_measurement : IgnoresEnds measurement := by
  intro text c number ends
  have margin : Fragment.isMargin c = true := by
    unfold isLineEnd at ends
    rcases Bool.or_eq_true_iff.1 ends with return' | feed
    · rw [eq_of_beq return']
      rfl
    · rw [eq_of_beq feed]
      rfl
  unfold measurement
  rw [ofLine_push margin]

theorem ignoresEnds_event : IgnoresEnds event := by
  intro text c number ends
  unfold event
  rw [ignoresEnds_measurement text c number ends]

theorem ignoresEnds_latency : IgnoresEnds latency := by
  intro text c number ends
  unfold latency
  rw [ignoresEnds_measurement text c number ends]

end Line

/-! ## Logs with other line ends -/

namespace Bytes

/-- The bytes with a carriage return put in front of each line feed. -/
def withReturns (bytes : Bytes) : Bytes :=
  bytes.flatMap fun b => if b = newline then [carriageReturn, newline] else [b]

theorem withReturns_cons (b : UInt8) (bs : Bytes) :
    withReturns (b :: bs) =
      (if b = newline then [carriageReturn, newline] else [b]) ++ withReturns bs :=
  List.flatMap_cons

theorem stripped_lines_cons {b : UInt8} {bs bs' : Bytes} (other : b ≠ newline)
    (same : bs'.lines.map stripped = bs.lines.map stripped) :
    (lines (b :: bs')).map stripped = (lines (b :: bs)).map stripped := by
  rw [lines, lines, if_neg other, if_neg other]
  cases cut : lines bs with
  | nil =>
      rw [cut, List.map_nil, List.map_eq_nil_iff] at same
      rw [same]
  | cons line rest =>
      rw [cut, List.map_cons] at same
      obtain ⟨line', rest', cut', first, behind⟩ := List.map_eq_cons_iff.1 same
      rw [cut', List.map_cons, List.map_cons, stripped_cons_congr first, behind]

/-- The returns that are put in belong to the ends of the lines. -/
theorem stripped_lines_withReturns (bytes : Bytes) :
    bytes.withReturns.lines.map stripped = bytes.lines.map stripped := by
  induction bytes with
  | nil => rfl
  | cons b bs ih =>
      rw [withReturns_cons]
      by_cases feed : b = newline
      · subst feed
        rw [if_pos rfl, List.cons_append, List.cons_append, List.nil_append, lines,
          if_neg (by decide), lines, if_pos rfl, lines, if_pos rfl, List.map_cons, List.map_cons,
          ih]
        rfl
      · rw [if_neg feed]
        exact stripped_lines_cons feed ih

/-- The line feed goes to the last line. -/
theorem stripped_lines_concat {bytes : Bytes} (nonempty : bytes ≠ [])
    (open' : bytes.getLast? ≠ some newline) :
    (bytes ++ [newline]).lines.map stripped = bytes.lines.map stripped := by
  induction bytes with
  | nil => exact absurd rfl nonempty
  | cons b bs ih =>
      cases bs with
      | nil =>
          have other : b ≠ newline := fun feed => open' (by rw [feed]; rfl)
          have end' : lines [b, newline] = [[b, newline]] := by
            rw [lines, if_neg other, lines, if_pos rfl]
            rfl
          have alone : lines [b] = [[b]] := by
            rw [lines, if_neg other]
            rfl
          have last := @stripped_append [newline] (by decide) [b]
          rw [List.cons_append, List.nil_append, end', alone, List.map_singleton,
            List.map_singleton]
          exact congrArg (fun line => [line]) last
      | cons c cs =>
          have rest := ih (List.cons_ne_nil c cs) open'
          by_cases feed : b = newline
          · rw [List.cons_append, lines, if_pos feed, lines, if_pos feed, List.map_cons,
              List.map_cons, rest]
          · exact stripped_lines_cons feed rest

end Bytes

namespace Analysis

/-- Two logs have the same analyses: each of the three gives the same result and counts,
or the same failure. -/
structure Alike (input input' : Bytes) : Prop where
  byEvent : byEvent (.ofBytes input) = byEvent (.ofBytes input')
  byLabel : ∀ format, byLabel format (.ofBytes input) = byLabel format (.ofBytes input')
  latencies : latencies (.ofBytes input) = latencies (.ofBytes input')

theorem alike_of_stripped {input input' : Bytes}
    (same : input'.lines.map Bytes.stripped = input.lines.map Bytes.stripped) :
    Alike input input' where
  byEvent := isFold_byEvent.eq_of_stripped Line.ignoresEnds_event same
  byLabel format := (isFold_byLabel format).eq_of_stripped (Line.ignoresEnds_labelled format) same
  latencies := isFold_latencies.eq_of_stripped Line.ignoresEnds_latency same

/-- **Line ends.** A log has the same analyses with a carriage return in front of each
line feed, and, if its last line has no line feed, with one behind it. -/
theorem analyses_ignore_line_ends (input : Bytes) :
    Alike input input.withReturns ∧
      (input ≠ [] → input.getLast? ≠ some Bytes.newline → Alike input (input ++ [Bytes.newline])) :=
  ⟨alike_of_stripped (Bytes.stripped_lines_withReturns input), fun nonempty open' =>
    alike_of_stripped (Bytes.stripped_lines_concat nonempty open')⟩

/-- Returns of its own, bytes that are no text, and a last line without a line feed. -/
theorem mixed_line_ends_are_ignored :
    let input : Bytes := [0x61, 13, 13, 10, 0xff, 10, 13, 10, 0x62, 13]
    input ≠ [] ∧ input.getLast? ≠ some Bytes.newline ∧ Alike input (input ++ [Bytes.newline]) := by
  intro input
  have nonempty : input ≠ [] := by decide
  have open' : input.getLast? ≠ some Bytes.newline := by decide
  exact ⟨nonempty, open', (analyses_ignore_line_ends input).2 nonempty open'⟩

end Analysis

end Timings
