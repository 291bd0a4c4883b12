import Timings.Line.Source

/-!
The stream of what a parser makes of each line.

A stream gives one item per line, in order. The first failure, of reading or of
parsing, is given once and ends the stream. `Stream.fold` takes a whole stream into
one value, which is how every report is made.
-/

namespace Timings

/-- A parser of one line, given with its number. -/
abbrev LineParser (α : Type) := String → Nat → Except Failure α

/-- A stream of parsed lines, between two items. -/
structure Stream where
  source : Source
  /-- The number of lines taken from the source. -/
  linesRead : Nat
  /-- Whether the stream has given a failure. -/
  failed : Bool

namespace Stream

/-- The stream over a source, before its first item. -/
def start (source : Source) : Stream := ⟨source, 0, false⟩

/-- An upper bound of the number of items left. -/
def size (s : Stream) : Nat := if s.failed then 0 else s.source.size

/-- What a parser makes of the bytes of a line, number `line`. -/
def parseLine {α : Type} (parse : LineParser α) (bytes : Bytes) (line : Nat) :
    Except Failure α :=
  match bytes.chopLine.toText? with
  | none => .error (.malformedLine line .notUtf8)
  | some text => parse text line

/-- The failure of a read for line number `line`. -/
def readFailure (line : Nat) (fault : SystemFault) : Failure :=
  if fault.kind = .invalidData then .malformedLine line .notUtf8 else .lineRead line fault

/-- The next item and the stream behind it; no item at the end of the input and
after a failure. -/
def next {α : Type} (parse : LineParser α) (s : Stream) : Option (Except Failure α) × Stream :=
  if s.failed then (none, s)
  else
    match s.source.readLine with
    | (.ok [], source) => (none, ⟨source, s.linesRead, false⟩)
    | (.ok (b :: bs), source) =>
      match parseLine parse (b :: bs) (s.linesRead + 1) with
      | .ok item => (some (.ok item), ⟨source, s.linesRead + 1, false⟩)
      | .error failure => (some (.error failure), ⟨source, s.linesRead + 1, true⟩)
    | (.error fault, source) =>
      (some (.error (readFailure (s.linesRead + 1) fault)), ⟨source, s.linesRead + 1, true⟩)

/-- An item takes something from the stream. -/
theorem size_next {α : Type} {parse : LineParser α} {s t : Stream} {item : Except Failure α}
    (h : s.next parse = (some item, t)) : t.size < s.size := by
  unfold next at h
  split at h
  · cases h
  · rename_i running
    have bound := Source.size_readFrom [] s.source.pending s.source.deliveries
    unfold Source.readLine at h
    simp only [size, if_neg running]
    revert h bound
    cases Source.readFrom [] s.source.pending s.source.deliveries with
    | mk answer source =>
      cases answer with
      | error fault =>
        intro h bound
        cases h
        simpa [Source.size] using Nat.lt_of_le_of_lt (Nat.zero_le _) bound
      | ok bytes =>
        cases bytes with
        | nil => intro h; cases h
        | cons b bs =>
          intro h bound
          simp only [List.length_cons, List.length_nil] at bound
          simp only at h
          split at h <;> cases h
          · simp only [Source.size, Bool.false_eq_true, if_false] at bound ⊢
            omega
          · simp only [Source.size, if_true] at bound ⊢
            omega

/-- Takes all items of a stream into a value, from the first to the last, and
gives it with the number of lines; or the failure of the stream. -/
def fold {α σ : Type} (parse : LineParser α) (step : σ → α → σ) (value : σ) (s : Stream) :
    Except Failure (σ × Nat) :=
  match h : s.next parse with
  | (none, t) => .ok (value, t.linesRead)
  | (some (.error failure), _) => .error failure
  | (some (.ok item), t) =>
    have := size_next h
    fold parse step (step value item) t
termination_by s.size

/-- The items of a stream, each with the number of lines taken when it was given,
up to the end or the failure. -/
def items {α : Type} (parse : LineParser α) (s : Stream) :
    List (Except Failure α × Nat) × Stream :=
  match h : s.next parse with
  | (none, t) => ([], t)
  | (some item, t) =>
    have := size_next h
    let (rest, last) := items parse t
    ((item, t.linesRead) :: rest, last)
termination_by s.size

end Stream

end Timings
