import Timings.Bytes
import Timings.Failure

/-!
Reading lines from bytes that arrive in pieces.

A `Source` holds the bytes that have arrived and not been used, and the answers
that reading on will get. Where the pieces are cut does not matter to the lines;
a read that fails loses the part of a line read so far.
-/

namespace Timings

/-- One answer to reading on. -/
inductive Delivery where
  /-- More bytes. No bytes at all change nothing. -/
  | bytes (content : Bytes)
  | fault (fault : SystemFault)

/-- A running count of what an answer can still give. -/
def Delivery.size : Delivery → Nat
  | bytes content => content.length + 1
  | fault _ => 1

/-- Input that is read line by line. -/
structure Source where
  pending : Bytes
  deliveries : List Delivery

namespace Source

/-- Input that arrives in one piece. -/
def ofBytes (content : Bytes) : Source := ⟨content, []⟩

/-- An upper bound of the number of lines left. -/
def size (s : Source) : Nat := s.pending.length + (s.deliveries.map Delivery.size).sum

/-- Reads up to the next line feed or the end, behind the part of the line that
was read before. Interrupted reads are tried again. -/
def readFrom (read pending : Bytes) : List Delivery → Except SystemFault Bytes × Source
  | [] =>
    match pending.cutLine? with
    | some (line, rest) => (.ok (read ++ line), ⟨rest, []⟩)
    | none => (.ok (read ++ pending), ⟨[], []⟩)
  | delivery :: deliveries =>
    match pending.cutLine? with
    | some (line, rest) => (.ok (read ++ line), ⟨rest, delivery :: deliveries⟩)
    | none =>
      match delivery with
      | .bytes content => readFrom (read ++ pending) content deliveries
      | .fault fault =>
        if fault.kind = .interrupted then readFrom (read ++ pending) [] deliveries
        else (.error fault, ⟨[], deliveries⟩)

/-- Reads one line with its line feed. No bytes say that the input has ended. -/
def readLine (s : Source) : Except SystemFault Bytes × Source :=
  readFrom [] s.pending s.deliveries

/-- Reading gives bytes that were there before, and keeps the others. -/
theorem size_readFrom (read pending : Bytes) (deliveries : List Delivery) :
    match readFrom read pending deliveries with
    | (.ok line, rest) =>
      line.length + rest.size ≤
        read.length + pending.length + (deliveries.map Delivery.size).sum
    | (.error _, rest) => rest.size < pending.length + (deliveries.map Delivery.size).sum := by
  induction deliveries generalizing read pending with
  | nil =>
    simp only [readFrom]
    cases cut : pending.cutLine? with
    | some p =>
      obtain ⟨line, after⟩ := p
      have parts := congrArg List.length (Bytes.cutLine?_append cut)
      simp only [List.length_append] at parts
      simp only [size, List.length_append, List.map_nil, List.sum_nil]
      omega
    | none => simp [size]
  | cons delivery deliveries ih =>
    simp only [readFrom]
    cases cut : pending.cutLine? with
    | some p =>
      obtain ⟨line, after⟩ := p
      have parts := congrArg List.length (Bytes.cutLine?_append cut)
      simp only [List.length_append] at parts
      simp only [size, List.length_append]
      omega
    | none =>
      cases delivery with
      | bytes content =>
        have rest := ih (read ++ pending) content
        simp only [List.map_cons, List.sum_cons, Delivery.size]
        revert rest
        split <;> intro rest
        · simp only [List.length_append] at rest
          omega
        · omega
      | fault fault =>
        simp only [List.map_cons, List.sum_cons, Delivery.size]
        by_cases again : fault.kind = .interrupted
        · simp only [if_pos again]
          have rest := ih (read ++ pending) []
          revert rest
          split <;> intro rest <;> simp only [List.length_append, List.length_nil] at rest ⊢ <;>
            omega
        · simp only [if_neg again, size, List.length_nil]
          omega

end Source

end Timings
