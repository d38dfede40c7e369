import Reckoner.Trap
import Reckoner.Value.Basic

/-!
Elementary functions of a real argument. A function of the machine returns NaN where it has no
value and an infinity where it has a pole or outgrows the doubles; here those results are failures
unless the argument already was of that kind.
-/
namespace Reckoner

/-- A real number as the nearest double. -/
def Scalar.toDouble : Scalar → Except Trap Float
  | .double x => .ok x
  | .integer n =>
    match Binary64.ofInt? n with
    | some x => .ok x
    | none => .error .wideInteger

namespace Elementary

/-- What an infinite result of a finite argument means. -/
inductive Growth where
  /-- The function grows beyond every bound, so the result is out of range. -/
  | unbounded
  /-- The function has no value there. -/
  | bounded

/-- The result of a machine function, with the special results told apart. -/
def checked (growth : Growth) (f : Float → Float) (x : Float) : Except Trap Float :=
  let y := f x
  if y.isNaN && !x.isNaN then .error .domain
  else if y.isInf && x.isFinite then
    match growth with
    | .unbounded => .error .range
    | .bounded => .error .domain
  else .ok y

def exp : Float → Except Trap Float := checked .unbounded Float.exp
def sinh : Float → Except Trap Float := checked .unbounded Float.sinh
def cosh : Float → Except Trap Float := checked .unbounded Float.cosh
def sqrt : Float → Except Trap Float := checked .bounded Float.sqrt
def sin : Float → Except Trap Float := checked .bounded Float.sin
def cos : Float → Except Trap Float := checked .bounded Float.cos
def tan : Float → Except Trap Float := checked .bounded Float.tan
def atan : Float → Except Trap Float := checked .bounded Float.atan
def tanh : Float → Except Trap Float := checked .bounded Float.tanh
def asinh : Float → Except Trap Float := checked .bounded Float.asinh
def acosh : Float → Except Trap Float := checked .bounded Float.acosh

/-- The logarithm of `1 + x`, exact also where `1 + x` rounds `x` away: the error of the rounded
sum is divided out again. -/
def log1p (x : Float) : Float :=
  let u := 1.0 + x
  if u == 1.0 then x
  else if u.isInf then u
  else Float.log u * (x / (u - 1.0))

/-- The natural logarithm of a positive real number. An integer beyond the doubles is scaled by a
power of two first. -/
def log : Scalar → Float
  | .double x => Float.log x
  | .integer n =>
    match Binary64.ofInt? n with
    | some x => Float.log x
    | none =>
      let length := n.natAbs.log2 + 1
      let head := (Binary64.nearestSize? n.natAbs (Nat.pow 2 length)).getD 1.0
      let (head, length) := if head == 1.0 then (0.5, length + 1) else (head, length)
      Float.log head + Float.log 2.0 * Float.ofNat length

/-- A double to the power of a double. Only finite arguments can fail: a negative base has no
fractional power, zero has no negative power, and the result can be out of range. -/
def pow (x y : Float) : Except Trap Float :=
  let r := Float.pow x y
  if x.isFinite && y.isFinite then
    if r.isNaN then .error .domain
    else if r.isInf then if x == 0.0 then .error .domain else .error .range
    else .ok r
  else .ok r

/-- The square of a double. -/
def square (x : Float) : Except Trap Float :=
  if x.isFinite && (x * x).isInf then .error .square else .ok (Float.pow x 2.0)

/-- The quotient of two doubles. -/
def div (x y : Float) : Except Trap Float :=
  if y == 0.0 then .error .floatDivision else .ok (x / y)

/-- A real number rounded to an integer by `f`, which is given the exact value of a double. -/
def toInteger (f : Rat → Int) : Scalar → Except Trap Int
  | .integer n => .ok n
  | .double x =>
    if x.isNaN then .error .integerOfNaN
    else if x.isInf then .error .integerOfInfinity
    else .ok (f (Binary64.value x))

def floor : Scalar → Except Trap Int := toInteger Rat.floor

def ceil : Scalar → Except Trap Int := toInteger Rat.ceil

/-- Toward zero. -/
def truncate (q : Rat) : Int :=
  if q < 0 then q.ceil else q.floor

/-- To the nearest integer, a half going away from zero. -/
def roundHalfAway (q : Rat) : Int :=
  if q < 0 then (q - 1 / 2).ceil else (q + 1 / 2).floor

def trunc : Scalar → Except Trap Int := toInteger truncate

def round : Scalar → Except Trap Int := toInteger roundHalfAway

end Elementary

end Reckoner
