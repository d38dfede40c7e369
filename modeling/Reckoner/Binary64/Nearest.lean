import Reckoner.Binary64.Basic

/-!
The double nearest to an exact value, with ties to the even significand. Conversion of integers,
quotients of integers, remainders, lengths and decimal literals all round once, here.
-/
namespace Reckoner

/-- The integer nearest to `num / den`; of two equally near the even one. -/
def roundHalfEven (num den : Nat) : Nat :=
  let low := num / den
  match compare (2 * (num % den)) den with
  | .lt => low
  | .gt => low + 1
  | .eq => low + low % 2

namespace Binary64

/-- The exponent of the last place of a double near `num / den`: the one that leaves fifty-three
bits in front of the point, but none below that of the subnormal doubles. -/
def placeOf (num den : Nat) : Int :=
  let low := max ((num.log2 : Int) - den.log2 - 53) (-1074)
  if Nat.pow 2 53 * den * Nat.pow 2 low.toNat ≤ num * Nat.pow 2 (-low).toNat then low + 1 else low

/-- The double nearest to `num / den`, or none if that lies beyond the finite doubles. The bits of
a positive double count the doubles below it, so a significand that rounds up to the next power of
two carries into the exponent by itself. -/
def nearestSize? (num den : Nat) : Option Float :=
  if num = 0 then some 0.0 else
  let place := placeOf num den
  let significand := roundHalfEven (num * Nat.pow 2 (-place).toNat) (den * Nat.pow 2 place.toNat)
  let bits := (place + 1074).toNat * Nat.pow 2 52 + significand
  if bits < 2047 * Nat.pow 2 52 then some (Float.ofBits (UInt64.ofNat bits)) else none

/-- The double nearest to `q`, or none if that lies beyond the finite doubles. -/
def nearest? (q : Rat) : Option Float :=
  (nearestSize? q.num.natAbs q.den).map fun size => if q < 0 then -size else size

/-- The double nearest to an integer. -/
def ofInt? (n : Int) : Option Float :=
  nearest? n

/-- The double nearest to a quotient of integers. A zero quotient takes the sign that the rule of
signs gives it. -/
def quotient? (a b : Int) : Option Float :=
  (nearestSize? a.natAbs b.natAbs).map fun size =>
    if decide (a < 0) != decide (b < 0) then -size else size

/-- The double nearest to `digits * 10 ^ exponent`, infinite beyond the finite doubles. -/
def ofDecimal (digits : Nat) (exponent : Int) : Float :=
  (nearest? ((digits : Rat) * (10 : Rat) ^ exponent)).getD infinity

/-- The remainder of `x` by `y` with the sign of `x`. It is always a double, so nothing is rounded.
-/
def remainder (x y : Float) : Float :=
  if x.isNaN || y.isNaN || x.isInf || y == 0.0 then nan
  else if y.isInf then x
  else
    let a := (value x).abs
    let b := (value y).abs
    copySign ((nearest? (a - b * (a / b).floor)).getD nan) x

/-- The remainder of `x` by `y` moved into the range from zero to `y`, with the sign of `y`. -/
def modulus (x y : Float) : Float :=
  let r := remainder x y
  if r == 0.0 then copySign 0.0 y
  else if decide (y < 0.0) != decide (r < 0.0) then r + y
  else r

/-- The integer part of a square root, two bits at a time. -/
def integerRoot (n : Nat) : Nat :=
  if n = 0 then 0
  else
    let low := 2 * integerRoot (n / 4)
    if (low + 1) * (low + 1) ≤ n then low + 1 else low
termination_by n
decreasing_by omega

/-- The distance of a point from the origin, as the nearest double. Sixty extra bits of the root,
and half a unit more where it is not exact, settle every rounding. -/
def hypotenuse (x y : Float) : Float :=
  if x.isInf || y.isInf then infinity
  else if x.isNaN || y.isNaN then nan
  else
    let a := size x
    let b := size y
    let place := min a.exponent b.exponent
    let p := a.significand * Nat.pow 2 (a.exponent - place).toNat
    let q := b.significand * Nat.pow 2 (b.exponent - place).toNat
    let square := (p * p + q * q) * Nat.pow 2 120
    let root := integerRoot square
    let doubled := 2 * root + (if root * root = square then 0 else 1)
    (nearest? ((doubled : Rat) * (2 : Rat) ^ (place - 61))).getD infinity

end Binary64

end Reckoner
