import Timings.Line.Stream
import Timings.Proofs.Lines
import Timings.Proofs.Outcomes

/-!
What a stream makes of the lines of its source.

`LineResult` says what a line is worth to a parser, on the bytes of the line
alone. `Parses` are the items of lines that are all accepted, and `FirstFailure`
is the failure of the first line that is not. Folding a stream is folding these
items (`fold_of_parses`), or that failure (`fold_of_firstFailure`); nothing behind
a line that fails is looked at.
-/

namespace Timings

/-- What a parser makes of a line by its number: of its text, if its bytes without
the line end encode one; else the line is refused. -/
inductive LineResult {α : Type} (parse : LineParser α) (line : Bytes) (number : Nat) :
    Except Failure α → Prop
  | text (text : String) : line.chopLine = Bytes.ofText text →
    LineResult parse line number (parse text number)
  | notUtf8 : (∀ text, line.chopLine ≠ Bytes.ofText text) →
    LineResult parse line number (.error (.malformedLine number .notUtf8))

/-- The items of lines, all accepted, behind a number of lines already read. -/
inductive Parses {α : Type} (parse : LineParser α) : Nat → List Bytes → List α → Prop
  | nil (read : Nat) : Parses parse read [] []
  | cons {read : Nat} {line : Bytes} {lines : List Bytes} {item : α} {items : List α} :
    LineResult parse line (read + 1) (.ok item) → Parses parse (read + 1) lines items →
    Parses parse read (line :: lines) (item :: items)

/-- The failure of the first line that is not accepted, and the number of the line. -/
def FirstFailure {α : Type} (parse : LineParser α) (lines : List Bytes) (number : Nat)
    (failure : Failure) : Prop :=
  ∃ before line after items, lines = before ++ line :: after ∧ number = before.length + 1 ∧
    Parses parse 0 before items ∧ LineResult parse line number (.error failure)

variable {α : Type} {parse : LineParser α}

/-! ## Results of lines -/

theorem lineResult_iff {line : Bytes} {number : Nat} {result : Except Failure α} :
    LineResult parse line number result ↔ Stream.parseLine parse line number = result := by
  unfold Stream.parseLine
  constructor
  · rintro (⟨text, encoded⟩ | none)
    · rw [encoded, Bytes.toText?_ofText]
    · cases decoded : line.chopLine.toText? with
      | none => rfl
      | some text => exact absurd (Bytes.eq_ofText_of_toText? decoded) (none text)
  · rintro rfl
    cases decoded : line.chopLine.toText? with
    | some text => exact .text text (Bytes.eq_ofText_of_toText? decoded)
    | none =>
        refine .notUtf8 ?_
        intro text encoded
        rw [encoded, Bytes.toText?_ofText] at decoded
        cases decoded

theorem lineResult_total (parse : LineParser α) (line : Bytes) (number : Nat) :
    ∃ result, LineResult parse line number result :=
  ⟨_, lineResult_iff.2 rfl⟩

theorem LineResult.unique {line : Bytes} {number : Nat} {result result' : Except Failure α}
    (first : LineResult parse line number result) (second : LineResult parse line number result') :
    result = result' :=
  (lineResult_iff.1 first).symm.trans (lineResult_iff.1 second)

theorem Parses.length_eq {read : Nat} {lines : List Bytes} {items : List α}
    (parsed : Parses parse read lines items) : items.length = lines.length := by
  induction parsed with
  | nil => rfl
  | cons _ _ ih => rw [List.length_cons, List.length_cons, ih]

/-- Lines are all accepted, or there is a first one that is not. -/
theorem parses_or_fails (parse : LineParser α) (read : Nat) (lines : List Bytes) :
    (∃ items, Parses parse read lines items) ∨
      ∃ before line after items failure, lines = before ++ line :: after ∧
        Parses parse read before items ∧
        LineResult parse line (read + before.length + 1) (.error failure) := by
  induction lines generalizing read with
  | nil => exact Or.inl ⟨[], .nil read⟩
  | cons line lines ih =>
      obtain ⟨result, worth⟩ := lineResult_total parse line (read + 1)
      cases result with
      | error failure => exact Or.inr ⟨[], line, lines, [], failure, rfl, .nil read, worth⟩
      | ok item =>
          rcases ih (read + 1) with ⟨items, parsed⟩ | ⟨before, bad, after, items, failure, cut,
            parsed, worth'⟩
          · exact Or.inl ⟨item :: items, .cons worth parsed⟩
          · refine Or.inr ⟨line :: before, bad, after, item :: items, failure, ?_,
              .cons worth parsed, ?_⟩
            · rw [cut, List.cons_append]
            · rw [List.length_cons, show read + (before.length + 1) + 1 =
                read + 1 + before.length + 1 by omega]
              exact worth'

theorem parses_or_firstFailure (parse : LineParser α) (lines : List Bytes) :
    (∃ items, Parses parse 0 lines items) ∨
      ∃ number failure, FirstFailure parse lines number failure := by
  rcases parses_or_fails parse 0 lines with all | ⟨before, line, after, items, failure, cut,
    parsed, bad⟩
  · exact Or.inl all
  · rw [Nat.zero_add] at bad
    exact Or.inr ⟨before.length + 1, failure, before, line, after, items, cut, rfl, parsed, bad⟩

/-- What follows the first line that fails has no part in its failure. -/
theorem FirstFailure.of_append {lines more : List Bytes} {number : Nat} {failure : Failure}
    (first : FirstFailure parse (lines ++ more) number failure) (within : number ≤ lines.length)
    (more' : List Bytes) : FirstFailure parse (lines ++ more') number failure := by
  obtain ⟨before, line, after, items, cut, rfl, parsed, bad⟩ := first
  -- by its number, the line that fails is one of `lines`
  rcases List.append_eq_append_iff.1 cut with ⟨between, rfl, -⟩ | ⟨between, rfl, behind⟩
  · rw [List.length_append] at within
    omega
  · cases between with
    | nil =>
        rw [List.append_nil] at within
        omega
    | cons head between =>
        cases behind
        exact ⟨before, line, between ++ more', items, by simp, rfl, parsed, bad⟩

/-- Lines are all accepted when each of them is, by its own number. -/
theorem exists_parses_iff (parse : LineParser α) (read : Nat) (lines : List Bytes) :
    (∃ items, Parses parse read lines items) ↔
      ∀ i line, lines[i]? = some line → ∃ item, LineResult parse line (read + i + 1) (.ok item) := by
  constructor
  · rintro ⟨items, parsed⟩
    induction parsed with
    | nil =>
        intro i line there
        cases there
    | cons head _ ih =>
        intro i line there
        cases i with
        | zero =>
            cases there
            exact ⟨_, head⟩
        | succ i =>
            obtain ⟨item, worth⟩ := ih i line there
            refine ⟨item, ?_⟩
            rw [show ∀ read : Nat, read + (i + 1) + 1 = read + 1 + i + 1 by omega]
            exact worth
  · intro accepted
    rcases parses_or_fails parse read lines with all | ⟨before, line, after, items, failure, cut,
      parsed, bad⟩
    · exact all
    · have there : lines[before.length]? = some line := by
        rw [cut, List.getElem?_append_right (Nat.le_refl _), Nat.sub_self]
        rfl
      obtain ⟨item, good⟩ := accepted before.length line there
      cases good.unique bad

/-! ## Items that are computed -/

/-- The items of lines, if they are all accepted. -/
def items? (parse : LineParser α) : Nat → List Bytes → Option (List α)
  | _, [] => some []
  | read, line :: lines =>
    (Stream.parseLine parse line (read + 1)).toOption.bind fun item =>
      (items? parse (read + 1) lines).map (item :: ·)

theorem parses_iff {read : Nat} {lines : List Bytes} {items : List α} :
    Parses parse read lines items ↔ items? parse read lines = some items := by
  constructor
  · intro parsed
    induction parsed with
    | nil => rfl
    | cons head _ ih =>
        rw [items?, toOption_eq_some_iff.2 (lineResult_iff.1 head), Option.bind_some, ih,
          Option.map_some]
  · induction lines generalizing read items with
    | nil =>
        intro computed
        cases computed
        exact .nil read
    | cons line lines ih =>
        intro computed
        obtain ⟨item, head, rest⟩ := Option.bind_eq_some_iff.1 computed
        obtain ⟨items', tail, rfl⟩ := Option.map_eq_some_iff.1 rest
        exact .cons (lineResult_iff.2 (toOption_eq_some_iff.1 head)) (ih tail)

instance (parse : LineParser α) (read : Nat) (lines : List Bytes) :
    Decidable (∃ items, Parses parse read lines items) :=
  decidable_of_iff ((items? parse read lines).isSome = true) <| by
    rw [Option.isSome_iff_exists]
    exact exists_congr fun _ => parses_iff.symm

instance [DecidableEq α] (parse : LineParser α) (read : Nat) (lines : List Bytes)
    (items : List α) : Decidable (Parses parse read lines items) :=
  decidable_of_iff (items? parse read lines = some items) parses_iff.symm

/-! ## One item of a stream -/

namespace Stream

/-- A stream goes on to the first line that is left. -/
theorem next_of_lines_cons {source : Source} {line : Bytes} {rest : List Bytes}
    (there : source.lines = line :: rest) (parse : LineParser α) (read : Nat) :
    ∃ behind : Source, behind.lines = rest ∧ behind.fault? = source.fault? ∧
      ∀ result, LineResult parse line (read + 1) result →
        next parse ⟨source, read, false⟩ = (some result, ⟨behind, read + 1, !result.isOk⟩) := by
  obtain ⟨behind, step, lines, fault⟩ := Source.readLine_of_lines_cons there
  refine ⟨behind, lines, fault, ?_⟩
  intro result worth
  have nonempty : line ≠ [] := Source.ne_nil_of_mem_lines (there ▸ List.mem_cons_self)
  have parsed := lineResult_iff.1 worth
  unfold next
  rw [if_neg Bool.false_ne_true, step]
  cases line with
  | nil => exact absurd rfl nonempty
  | cons b bs =>
      simp only [parsed]
      cases result <;> rfl

/-- Behind the last line a sound source has no items. -/
theorem next_of_lines_nil {source : Source} (done : source.lines = [])
    (sound : source.fault? = none) (parse : LineParser α) (read : Nat) :
    ∃ behind, next parse ⟨source, read, false⟩ = (none, ⟨behind, read, false⟩) := by
  obtain ⟨behind, step, -, -⟩ := Source.readLine_of_lines_nil done sound
  refine ⟨behind, ?_⟩
  unfold next
  rw [if_neg Bool.false_ne_true, step]

/-! ## A whole stream -/

section Fold

variable {σ : Type} {step : σ → α → σ} {s t : Stream}

theorem fold_of_next_none (ended : s.next parse = (none, t)) (value : σ) :
    fold parse step value s = .ok (value, t.linesRead) := by
  rw [fold]
  split <;> rename_i equal <;> rw [ended] at equal <;> cases equal
  rfl

theorem fold_of_next_error {failure : Failure} (failed : s.next parse = (some (.error failure), t))
    (value : σ) : fold parse step value s = .error failure := by
  rw [fold]
  split <;> rename_i equal <;> rw [failed] at equal <;> cases equal
  rfl

theorem fold_of_next_ok {item : α} (given : s.next parse = (some (.ok item), t)) (value : σ) :
    fold parse step value s = fold parse step (step value item) t := by
  rw [fold]
  split <;> rename_i equal <;> rw [given] at equal <;> cases equal
  rfl

/-- Lines that are accepted are folded, and the fold goes on behind them. -/
theorem fold_of_parses_append {source : Source} {read : Nat} {lines after : List Bytes}
    {items : List α} (parsed : Parses parse read lines items)
    (there : source.lines = lines ++ after) (step : σ → α → σ) (value : σ) :
    ∃ behind : Source, behind.lines = after ∧ behind.fault? = source.fault? ∧
      fold parse step value ⟨source, read, false⟩ =
        fold parse step (items.foldl step value) ⟨behind, read + lines.length, false⟩ := by
  -- along the derivation, each line is one item of the stream over what is left
  induction parsed generalizing source value with
  | nil read => exact ⟨source, there, rfl, rfl⟩
  | @cons read line lines item items head _ ih =>
      obtain ⟨source', lines', fault', given⟩ := next_of_lines_cons there parse read
      obtain ⟨behind, left, fault, rest⟩ := ih lines' (step value item)
      refine ⟨behind, left, fault.trans fault', ?_⟩
      rw [fold_of_next_ok (given _ head), List.foldl_cons, List.length_cons,
        show read + (lines.length + 1) = read + 1 + lines.length by omega]
      exact rest

/-- A sound source whose lines are all accepted is folded to its end. -/
theorem fold_of_parses {source : Source} {items : List α} (sound : source.fault? = none)
    (parsed : Parses parse 0 source.lines items) (value : σ) :
    fold parse step value (start source) = .ok (items.foldl step value, source.lines.length) := by
  obtain ⟨behind, done, fault, folded⟩ :=
    fold_of_parses_append parsed (List.append_nil source.lines).symm step value
  obtain ⟨last, ended⟩ := next_of_lines_nil done (fault.trans sound) parse
    (0 + source.lines.length)
  unfold start
  rw [folded, fold_of_next_none ended, Nat.zero_add]

/-- The first line that fails ends the fold, whatever was folded and whatever follows. -/
theorem fold_of_firstFailure {source : Source} {number : Nat} {failure : Failure}
    (first : FirstFailure parse source.lines number failure) (value : σ) :
    fold parse step value (start source) = .error failure := by
  obtain ⟨before, line, after, items, cut, rfl, parsed, bad⟩ := first
  -- a read that fails later is never made, so the source need not be sound
  obtain ⟨behind, left, -, folded⟩ := fold_of_parses_append parsed cut step value
  obtain ⟨last, -, -, given⟩ := next_of_lines_cons left parse (0 + before.length)
  unfold start
  rw [folded]
  refine fold_of_next_error (given _ ?_) _
  rw [Nat.zero_add]
  exact bad

/-- An item is what the parser makes of some text, and one more line is read for it. -/
theorem exists_text_of_next {item : α} (given : s.next parse = (some (.ok item), t)) :
    (∃ text, parse text (s.linesRead + 1) = .ok item) ∧ t.linesRead = s.linesRead + 1 := by
  unfold next at given
  split at given
  · cases given
  · split at given
    · cases given
    · rename_i b bs source read
      cases parsed : parseLine parse (b :: bs) (s.linesRead + 1) with
      | error failure =>
          rw [parsed] at given
          cases given
      | ok item' =>
          rw [parsed] at given
          cases given
          have worth := lineResult_iff.2 parsed
          generalize accepted : (.ok item : Except Failure α) = result at worth
          cases worth with
          | text text encoded => exact ⟨⟨text, rfl⟩, rfl⟩
          | notUtf8 none => cases accepted
    · cases given

theorem linesRead_of_next_none (ended : s.next parse = (none, t)) : t.linesRead = s.linesRead := by
  unfold next at ended
  split at ended
  · cases ended
    rfl
  · split at ended
    · cases ended
      rfl
    · split at ended <;> cases ended
    · cases ended

/-- A stream that is folded to its end has folded items of its parser, one for each line. -/
theorem exists_items_of_fold {value last : σ} {lines : Nat}
    (folded : fold parse step value s = .ok (last, lines)) :
    ∃ items : List α, last = items.foldl step value ∧ lines = s.linesRead + items.length ∧
      ∀ item ∈ items, ∃ text number, parse text number = .ok item := by
  fun_induction fold parse step value s with
  | case1 value s t ended =>
      cases folded
      exact ⟨[], rfl, linesRead_of_next_none ended, fun _ impossible => nomatch impossible⟩
  | case2 value s failure t failed => cases folded
  | case3 value s item t given _ ih =>
      obtain ⟨items, same, counted, accepted⟩ := ih folded
      obtain ⟨⟨text, parsed⟩, next⟩ := exists_text_of_next given
      refine ⟨item :: items, same, ?_, ?_⟩
      · rw [counted, next, List.length_cons]
        omega
      · intro other inside
        rcases List.mem_cons.1 inside with rfl | inside
        · exact ⟨text, _, parsed⟩
        · exact accepted other inside

end Fold

end Stream

end Timings
