import Reckoner.Sorting.Merge

/-!
A stable merge sort that starts from the runs that it finds. Runs are merged in the order of a
balanced tree over the whole list: two neighbours are merged the later, the earlier the binary digit
is in which their midpoints differ.
-/
namespace Reckoner.Sorting

variable {α : Type} (less : α → α → Bool)

/-- The length of the front of `a :: rest` in which every value is related to the one before it. -/
def runLength (related : α → α → Bool) (a : α) : List α → Nat
  | [] => 1
  | b :: rest => if related a b then runLength related b rest + 1 else 1

/-- The run at the front of a list: values in ascending order, or in strictly descending order and
then turned around. -/
def frontRun (a : α) (rest : List α) : List α :=
  let descending := rest.head?.any fun b => less b a
  let run := (a :: rest).take (runLength (fun x y => less y x == descending) a rest)
  if descending then run.reverse else run

/-- Puts a value into a sorted list, behind all that are not greater. -/
def insert (sorted : List α) (x : α) : List α :=
  let values := sorted.toArray
  let place := bisect (fun i => !values[i]?.any (less x)) 0 values.size
  sorted.take place ++ x :: sorted.drop place

/-- The least length of a run: between 32 and 64, so that the list is cut into slightly fewer runs
than a power of two, or the whole of a shorter list. -/
def leastRun (count : Nat) (odd : Bool) : Nat :=
  if count < 64 then count + odd.toNat else leastRun (count / 2) (odd || count % 2 = 1)
termination_by count
decreasing_by omega

/-- The runs of a list. One that is too short is filled up by insertion. -/
def runs (least : Nat) : List α → List (List α)
  | [] => []
  | a :: rest =>
    let run := frontRun less a rest
    let missing := (rest.drop (run.length - 1)).take (least - run.length)
    let filled := missing.foldl (insert less) run
    filled :: runs least (rest.drop (run.length - 1 + missing.length))
termination_by xs => xs.length
decreasing_by simp only [List.length_drop, List.length_cons]; omega

/-- How deep two neighbouring runs are merged: the first binary digit in which their midpoints
differ, as parts of the whole. Both midpoints are given in half steps. -/
def depth (count left right : Nat) : Nat :=
  ((List.range count).find? fun digit =>
    left * Nat.pow 2 digit / count != right * Nat.pow 2 digit / count).getD count + 1

/-- A run that waits to be merged with the next one, which is done at a certain depth. -/
structure Pending (α : Type) where
  run : List α
  depth : Nat

/-- Merges a run with the waiting ones that are merged deeper than `depth`. -/
def collapse (depth : Nat) (patience : Nat) (run : List α) :
    List (Pending α) → List α × Nat × List (Pending α)
  | [] => (run, patience, [])
  | top :: waiting =>
    if depth < top.depth then
      let (merged, patience) := merge less patience top.run run
      collapse depth patience merged waiting
    else (run, patience, top :: waiting)

/-- Merges all that wait, each with its shorter neighbour. -/
def finish (patience : Nat) (run : List α) : List (Pending α) → List α
  | [] => run
  | [top] => (merge less patience top.run run).1
  | top :: next :: waiting =>
    if next.run.length < run.length then
      let (merged, patience) := merge less patience next.run top.run
      finish patience run (⟨merged, next.depth⟩ :: waiting)
    else
      let (merged, patience) := merge less patience top.run run
      finish patience merged (next :: waiting)
termination_by waiting => waiting.length

/-- Merges runs as they come. `start` is where the last one starts in the list of `count` values. -/
def mergeRuns (count start patience : Nat) (run : List α) (waiting : List (Pending α)) :
    List (List α) → List α
  | [] => finish less patience run waiting
  | next :: rest =>
    let middle := 2 * start + run.length
    let depth := depth count middle (middle + run.length + next.length)
    let behind := start + run.length
    let (run, patience, waiting) := collapse less depth patience run waiting
    mergeRuns count behind patience next (⟨run, depth⟩ :: waiting) rest

/-- The values in ascending order, equal ones in the order in which they were. -/
def sort (xs : List α) : List α :=
  match runs less (leastRun xs.length false) xs with
  | [] => []
  | run :: rest => mergeRuns less xs.length 0 worthSkipping run [] rest

end Reckoner.Sorting
