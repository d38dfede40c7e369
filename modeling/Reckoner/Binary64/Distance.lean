import Reckoner.Binary64.Nearest

/-!
The distance of a point from the origin, reckoned in doubles throughout. The squares are added with
what rounding cuts off, and the root is corrected by what is missing from its square, so that the
last place is wrong only where the distance is very close to halfway between two doubles, or below
the doubles that have a full significand.
-/
namespace Reckoner.Binary64

/-- A sum above one, and what rounding has cut off from it, apart for terms of three sizes. -/
structure PreciseSum where
  total : Float
  fromHigh : Float
  fromMiddle : Float
  fromLow : Float

namespace PreciseSum

def one : PreciseSum :=
  ⟨1.0, 0.0, 0.0, 0.0⟩

/-- What rounding cuts off when a term is added to the total. -/
def cutOff (s : PreciseSum) (x : Float) : Float :=
  (s.total - (s.total + x)) + x

def addHigh (s : PreciseSum) (x : Float) : PreciseSum :=
  { s with total := s.total + x, fromHigh := s.fromHigh + s.cutOff x }

def addMiddle (s : PreciseSum) (x : Float) : PreciseSum :=
  { s with total := s.total + x, fromMiddle := s.fromMiddle + s.cutOff x }

def addLow (s : PreciseSum) (x : Float) : PreciseSum :=
  { s with total := s.total + x, fromLow := s.fromLow + s.cutOff x }

/-- The sum without the one. -/
def beyondOne (s : PreciseSum) : Float :=
  s.total - 1.0 + (s.fromHigh + s.fromMiddle + s.fromLow)

end PreciseSum

/-- A double as the sum of two with half as many digits, so that their products are exact. -/
def halves (x : Float) : Float × Float :=
  let y := x * 134217729.0
  let high := y - (y - x)
  (high, x - high)

/-- Adds a square, or takes it away if the sign is minus one. -/
def PreciseSum.addSquare (s : PreciseSum) (sign x : Float) : PreciseSum :=
  let (high, low) := halves x
  let s := s.addHigh (sign * (high * high))
  let s := s.addMiddle (sign * (2.0 * high * low))
  s.addLow (sign * (low * low))

/-- The distance of a point of which the greater coordinate lies between a half and one. -/
def distanceNearOne (x y : Float) : Float :=
  let squares := (PreciseSum.one.addSquare 1.0 x).addSquare 1.0 y
  let root := Float.sqrt squares.beyondOne
  root + (squares.addSquare (-1.0) root).beyondOne / (2.0 * root)

/-- Coordinates below this cannot be scaled up to one by a power of two. -/
def leastScalable : Float := 5.562684646268003e-309

/-- The power of two that brings a positive double between a half and one. -/
def scaleOf (x : Float) : Float :=
  let s := size x
  (nearest? ((2 : Rat) ^ (-(s.exponent + s.significand.log2 + 1)))).getD infinity

/-- The distance of a point from the origin. -/
def distance (x y : Float) : Float :=
  if x.isInf || y.isInf then infinity
  else if x.isNaN || y.isNaN then nan
  else
    let x := x.abs
    let y := y.abs
    let greater := if x < y then y else x
    if greater == 0.0 then 0.0
    else if greater < leastScalable then
      let a := x / greater
      let b := y / greater
      greater * Float.sqrt ((PreciseSum.one.addHigh (a * a)).addHigh (b * b)).beyondOne
    else
      let scale := scaleOf greater
      distanceNearOne (x * scale) (y * scale) / scale

end Reckoner.Binary64
