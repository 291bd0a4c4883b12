import Timings.SortedMap
import Timings.Stats.State

/-!
Running statistics of many groups at once.

An `Aggregate` holds one running state per key. A `NestedAggregate` holds one
aggregate per outer key, for measurements that are grouped twice.
-/

namespace Timings

/-- The running state of every group seen so far. -/
abbrev Aggregate (κ α : Type) (γ : Type := Nat) [Ord κ] := SortedMap κ (RunningState α γ)

namespace Aggregate

variable {κ α γ : Type} [Ord κ] [Std.TransOrd κ] [Scalar α] [Counter γ]

/-- Takes one value into the group of its key. -/
def observe (a : Aggregate κ α γ) (key : κ) (x : α) : Aggregate κ α γ :=
  a.alter key fun state? => (state?.getD .empty).observe x

/-- Takes in a list of values, from the first to the last. -/
def observeAll (a : Aggregate κ α γ) (values : List (κ × α)) : Aggregate κ α γ :=
  values.foldl (fun a v => a.observe v.1 v.2) a

/-- Takes the state another aggregate has for a key into this one: merged with
the state here, or as it is if the key is new. -/
def mergeState (a : Aggregate κ α γ) (key : κ) (other : RunningState α γ) : Aggregate κ α γ :=
  a.alter key fun state? =>
    match state? with
    | none => other
    | some state => state.merge other

/-- Takes in all that another aggregate has seen, key by key. -/
def merge (a b : Aggregate κ α γ) : Aggregate κ α γ :=
  b.entries.foldl (fun a e => mergeState a e.1 e.2) a

omit [Std.TransOrd κ] [Scalar α] in
/-- The number of values taken in, over all groups. -/
def observationCount (a : Aggregate κ α γ) : γ := Counter.sum (a.values.map (·.count))

omit [Std.TransOrd κ] in
/-- The summary of every group that has seen a value. -/
def finalize (a : Aggregate κ α γ) : SortedMap κ (Summary α) := a.filterMap RunningState.summarize

end Aggregate

/-- The running states of groups within groups. -/
abbrev NestedAggregate (κ ι α : Type) (γ : Type := Nat) [Ord κ] [Ord ι] :=
  SortedMap κ (Aggregate ι α γ)

namespace NestedAggregate

variable {κ ι α γ : Type} [Ord κ] [Ord ι] [Std.TransOrd κ] [Std.TransOrd ι] [Scalar α]
  [Counter γ]

/-- Takes one value into the group of its two keys. -/
def observe (a : NestedAggregate κ ι α γ) (outer : κ) (inner : ι) (x : α) :
    NestedAggregate κ ι α γ :=
  a.alter outer fun group? =>
    match group? with
    | none => Aggregate.observe .empty inner x
    | some group => group.observe inner x

/-- Takes in a list of values, from the first to the last. -/
def observeAll (a : NestedAggregate κ ι α γ) (values : List ((κ × ι) × α)) :
    NestedAggregate κ ι α γ :=
  values.foldl (fun a v => a.observe v.1.1 v.1.2 v.2) a

/-- Takes in all that another aggregate has seen, outer key by outer key. -/
def merge (a b : NestedAggregate κ ι α γ) : NestedAggregate κ ι α γ :=
  b.entries.foldl
    (fun a e => a.alter e.1 fun group? => (group?.getD .empty).merge e.2) a

omit [Std.TransOrd κ] [Std.TransOrd ι] [Scalar α] in
/-- The state of the group of two keys. -/
def find? (a : NestedAggregate κ ι α γ) (outer : κ) (inner : ι) : Option (RunningState α γ) :=
  (a.get? outer).bind fun group => group.get? inner

omit [Std.TransOrd κ] [Std.TransOrd ι] [Scalar α] in
/-- The number of pairs of keys. -/
def pairCount (a : NestedAggregate κ ι α γ) : Nat := (a.values.map SortedMap.size).sum

omit [Std.TransOrd κ] [Std.TransOrd ι] [Scalar α] in
/-- The number of values taken in, over all groups. -/
def observationCount (a : NestedAggregate κ ι α γ) : γ :=
  Counter.sum (a.values.map Aggregate.observationCount)

omit [Std.TransOrd κ] [Std.TransOrd ι] in
/-- The summaries of all groups, under each outer key those of its groups. -/
def finalize (a : NestedAggregate κ ι α γ) : SortedMap κ (SortedMap ι (Summary α)) :=
  a.map Aggregate.finalize

end NestedAggregate

end Timings
