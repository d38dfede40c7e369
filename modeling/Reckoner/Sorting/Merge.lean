/-!
Merging two sorted lists into one. Of equal values those of the left list come first. Values are
compared one by one until one list has given many in a row; from then on the place of each value in
the other list is searched for, as long as that skips enough at a time.

For an order in which all values can be compared the merged list does not depend on any of this. It
does for values such as undefined numbers, which are neither less nor greater than anything.
-/
namespace Reckoner.Sorting

/-- The first place from `low` on, below `high`, that lacks the property, found by halving. It is
`high` if all have it. -/
def bisect (holds : Nat → Bool) (low high : Nat) : Nat :=
  if low < high then
    let middle := low + (high - low) / 2
    if holds middle then bisect holds (middle + 1) high else bisect holds low middle
  else low
termination_by high - low
decreasing_by all_goals omega

/-- Strides on from `next` while the property holds, each distance twice the one before and one
more, but not beyond the limit. The answer is the last distance where it held, and the one after. -/
def stride (holds : Nat → Bool) (limit last next : Nat) : Nat × Nat :=
  if next < limit ∧ holds next then stride holds limit next (2 * next + 1)
  else (last, min next limit)
termination_by limit - next
decreasing_by omega

/-- How many of `count` places have the property, if those that have it come first. The search
strides away from `hint`, and halves what the last stride has passed over. -/
def search (holds : Nat → Bool) (count hint : Nat) : Nat :=
  if holds hint then
    let (last, next) := stride (fun d => holds (hint + d)) (count - hint) 0 1
    bisect holds (hint + last + 1) (hint + next)
  else
    let (last, next) := stride (fun d => !holds (hint - d)) (hint + 1) 0 1
    bisect holds (hint + 1 - next) (hint - last)

/-- The end from which lists are merged. -/
inductive Side where
  | front
  | back
deriving DecidableEq

inductive Mode where
  /-- Values are compared one by one. Either list counts how many it has given in a row. -/
  | comparing (fromLeft fromRight : Nat)
  | skipping
deriving DecidableEq

/-- A merge under way. All lists are in the order in which values are taken, except that what has
been taken is there with the last first. -/
structure Merging (α : Type) where
  left : List α
  right : List α
  taken : List α
  /-- How many values in a row end the comparing one by one. -/
  patience : Nat
  mode : Mode

/-- The least number of values that have to be skipped at a time for skipping to go on. -/
def worthSkipping : Nat := 7

namespace Merging

variable {α : Type}

def takeLeft (s : Merging α) : Merging α :=
  match s.left with
  | [] => s
  | x :: rest => { s with left := rest, taken := x :: s.taken }

def takeRight (s : Merging α) : Merging α :=
  match s.right with
  | [] => s
  | y :: rest => { s with right := rest, taken := y :: s.taken }

/-- Nothing is left to compare. The outer list, which is the right one if the merge starts in
front, is used up, or the inner one is down to the value that is known to come last. -/
def isSettled (side : Side) (s : Merging α) : Bool :=
  match side with
  | .front => s.right.isEmpty || s.left.tail.isEmpty
  | .back => s.left.isEmpty || s.right.tail.isEmpty

/-- What is left over when nothing is left to compare is put behind, or in front. -/
def result (side : Side) (s : Merging α) : List α :=
  match side with
  | .front => s.taken.reverse ++ s.right ++ s.left
  | .back => s.right.reverse ++ s.left.reverse ++ s.taken

variable (less : α → α → Bool)

/-- Whether the left list gives the next value. It does if the right one's is less when merging
from the back, and if it is not when merging from the front. -/
def leftIsNext (side : Side) (s : Merging α) : Bool :=
  match s.left, s.right with
  | x :: _, y :: _ => less y x == (side == .back)
  | _, _ => false

/-- One comparison. -/
def compareOne (side : Side) (fromLeft fromRight : Nat) (s : Merging α) : Merging α :=
  let leftGives := s.leftIsNext less side
  let streak := if leftGives then fromLeft + 1 else fromRight + 1
  let s := if leftGives then s.takeLeft else s.takeRight
  if s.isSettled side then s
  else if s.patience ≤ streak then { s with patience := s.patience + 1, mode := .skipping }
  else { s with mode := if leftGives then .comparing streak 0 else .comparing 0 streak }

/-- How many values at the end from which they are taken can be taken at once, if those with the
property come first in the sorted list. -/
def ahead (side : Side) (comesFirst : α → Bool) (xs : List α) : Nat :=
  let values := xs.toArray
  let count := values.size
  match side with
  | .front => search (fun i => values[i]?.any comesFirst) count 0
  | .back => count - search (fun i => values[count - 1 - i]?.any comesFirst) count (count - 1)

/-- Takes from the left list what comes before the next value of the right one, and says how much
that is. -/
def skipLeft (side : Side) (s : Merging α) : Merging α × Nat :=
  match s.right with
  | [] => (s, 0)
  | y :: _ =>
    let count := ahead side (fun x => !less y x) s.left
    ({ s with left := s.left.drop count, taken := (s.left.take count).reverse ++ s.taken }, count)

/-- Takes from the right list what comes before the next value of the left one, and says how much
that is. -/
def skipRight (side : Side) (s : Merging α) : Merging α × Nat :=
  match s.left with
  | [] => (s, 0)
  | x :: _ =>
    let count := ahead side (fun y => less y x) s.right
    ({ s with right := s.right.drop count, taken := (s.right.take count).reverse ++ s.taken },
      count)

/-- Skips in the left list and then in the right one, taking after each skip the value that was
searched for. Patience shrinks while skipping goes on, and grows when it ends. -/
def skipBoth (side : Side) (s : Merging α) : Merging α :=
  let s := { s with patience := max 1 (s.patience - 1) }
  let (s, skippedLeft) := s.skipLeft less side
  if s.isSettled side then s else
  let s := s.takeRight
  if s.isSettled side then s else
  let (s, skippedRight) := s.skipRight less side
  if s.isSettled side then s else
  let s := s.takeLeft
  if s.isSettled side then s
  else if worthSkipping ≤ skippedLeft || worthSkipping ≤ skippedRight then s
  else { s with patience := s.patience + 1, mode := .comparing 0 0 }

/-- Takes at least one value, unless nothing is left to compare. -/
def advance (side : Side) (s : Merging α) : Merging α :=
  if s.isSettled side then s
  else
    match s.mode with
    | .comparing fromLeft fromRight => s.compareOne less side fromLeft fromRight
    | .skipping => s.skipBoth less side

/-- Merges to the end. As every step takes a value, there are no more steps than values. -/
def finish (side : Side) (s : Merging α) : Merging α :=
  (s.left.length + s.right.length).repeat (advance less side) s

end Merging

variable {α : Type} (less : α → α → Bool)

/-- Merges two lists of which the left one does not wholly come before the right one. The shorter
one is the outer one: its first value is known to come first, or its last to come last. -/
def mergeOverlapping (patience : Nat) (left right : List α) : List α × Nat :=
  if left.length ≤ right.length then
    let start : Merging α := ⟨left, right, [], patience, .comparing 0 0⟩
    let s := start.takeRight.finish less .front
    (s.result .front, s.patience)
  else
    let start : Merging α := ⟨left.reverse, right.reverse, [], patience, .comparing 0 0⟩
    let s := start.takeLeft.finish less .back
    (s.result .back, s.patience)

/-- Merges two sorted lists, and says how much patience is left. What comes before all of the right
list or behind all of the left one stays where it is. -/
def merge (patience : Nat) (left right : List α) : List α × Nat :=
  match right with
  | [] => (left, patience)
  | y :: _ =>
    let before := Merging.ahead .front (fun x => !less y x) left
    match (left.drop before).getLast? with
    | none => (left ++ right, patience)
    | some x =>
      let values := right.toArray
      let count := search (fun i => values[i]?.any fun y => less y x) values.size (values.size - 1)
      if count = 0 then (left ++ right, patience)
      else
        let (merged, patience) :=
          mergeOverlapping less patience (left.drop before) (right.take count)
        (left.take before ++ merged ++ right.drop count, patience)

end Reckoner.Sorting
