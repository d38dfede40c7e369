import Reckoner.Elementary.Real
import Reckoner.Marked
import Reckoner.Sorting.Runs

namespace Reckoner.Statistics

/-- The sum from left to right, rounded at every step. -/
def sum (xs : List Float) : Float :=
  xs.foldl (· + ·) 0.0

/-- The arithmetic mean. -/
def mean (xs : List Float) : Except Trap Float :=
  if xs.isEmpty then .error .integerDivision else .ok (sum xs / Float.ofNat xs.length)

/-- The sample variance, with one degree of freedom less than values. -/
def variance (xs : List Float) : Except Trap Float := do
  let center ← mean xs
  let squares ← xs.mapM fun x => Elementary.square (x - center)
  if xs.length = 1 then throw .floatDivision
  return sum squares / Float.ofNat (xs.length - 1)

/-- The middle value, or the mean of the two middle values. -/
def median (xs : List (Marked Float)) : Except Trap (Marked Float) :=
  let sorted := Sorting.sort (fun x y => decide (x.content < y.content)) xs
  match sorted.drop ((sorted.length - 1) / 2) with
  | [] => .error .listIndex
  | [x] => .ok x
  | x :: y :: _ =>
    if sorted.length % 2 = 1 then .ok x else .ok (.plain ((x.content + y.content) / 2.0))

/-- Two numbers that count as one: an integer and a double that are equal do, and an undefined
number only with itself. -/
def isOne (x y : Marked Scalar) : Bool :=
  x.content.eq y.content || x.isSame y

/-- One more occurrence of a number. -/
def count (x : Marked Scalar) : List (Marked Scalar × Nat) → List (Marked Scalar × Nat)
  | [] => [(x, 1)]
  | (y, n) :: rest => if isOne y x then (y, n + 1) :: rest else (y, n) :: count x rest

/-- How often each number occurs, in the order of first occurrence. -/
def tally (xs : List (Marked Scalar)) : List (Marked Scalar × Nat) :=
  xs.foldl (fun counts x => count x counts) []

/-- The entry with the greatest count; of several the first. -/
def mostFrequent (best : Marked Scalar × Nat) : List (Marked Scalar × Nat) → Marked Scalar × Nat
  | [] => best
  | entry :: rest => mostFrequent (if best.2 < entry.2 then entry else best) rest

/-- The most frequent number; of several the one that occurs first. -/
def mode (xs : List (Marked Scalar)) : Except Trap (Marked Scalar) :=
  match tally xs with
  | [] => .error .listIndex
  | entry :: rest => .ok (mostFrequent entry rest).1

end Reckoner.Statistics
