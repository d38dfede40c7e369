import Reckoner.Complex.Basic
import Reckoner.Elementary.Real

/-!
Elementary functions of a complex argument. Each has a formula for moderate arguments, a second one
where the first would overflow or underflow on the way, and limits at infinite and undefined
arguments that keep the sign of zero and say nothing where the direction is not known.
-/
namespace Reckoner.Complex

open Binary64 Elementary

/-- Parts beyond this are halved before their squares are added. -/
def large : Float := Binary64.greatest / 4.0

/-- The exponent up to which `e ^ x` is safe in products. -/
def largeExponent : Float := Float.log large

def halfPi : Float := pi / 2.0

/-- Euler's number, as the nearest double. -/
def euler : Float := 2.718281828459045

/-- The angle to the positive real axis. -/
def argument (z : Complex) : Float :=
  Float.atan2 z.im z.re

def abs (z : Complex) : Float :=
  hypotenuse z.re z.im

/-- A finite result stands; an infinite one of a finite argument is out of range. -/
def inRange (z : Complex) : Except Trap Complex :=
  if z.isInfinite then .error .range else .ok z

/-- The square root with non-negative real part at infinite and undefined arguments. -/
def sqrtAtLimit (z : Complex) : Complex :=
  if z.im.isInf then ⟨infinity, z.im⟩
  else if z.re.isInf then
    if isNegative z.re then ⟨if z.im.isNaN then nan else 0.0, copySign infinity z.im⟩
    else ⟨infinity, if z.im.isNaN then nan else copySign 0.0 z.im⟩
  else ⟨nan, nan⟩

/-- The square root with non-negative real part. -/
def sqrt (z : Complex) : Complex :=
  if !z.isFinite then sqrtAtLimit z
  else if z.re == 0.0 && z.im == 0.0 then ⟨0.0, z.im⟩
  else
    let x := z.re.abs
    let y := z.im.abs
    let s :=
      if x < leastNormal && y < leastNormal then
        let up := 9007199254740992.0
        let x := x * up
        Float.sqrt (x + hypotenuse x (y * up)) * 7.450580596923828e-09
      else
        let x := x / 8.0
        2.0 * Float.sqrt (x + hypotenuse x (y / 8.0))
    let d := y / (2.0 * s)
    if 0.0 ≤ z.re then ⟨s, copySign d z.im⟩ else ⟨d, copySign s z.im⟩

/-- The natural logarithm of a size that is near one is found from how far it is off. -/
def logAbs (z : Complex) : Float :=
  let x := z.re.abs
  let y := z.im.abs
  if large < x || large < y then Float.log (hypotenuse (x / 2.0) (y / 2.0)) + ln2
  else if x < leastNormal && y < leastNormal then
    let up := 9007199254740992.0
    Float.log (hypotenuse (x * up) (y * up)) - 53.0 * ln2
  else
    let h := hypotenuse x y
    if 0.71 ≤ h && h ≤ 1.73 then
      let greater := if y < x then x else y
      let smaller := if y < x then y else x
      log1p ((greater - 1.0) * (greater + 1.0) + smaller * smaller) / 2.0
    else Float.log h

/-- The natural logarithm of a number other than zero, with its argument as the imaginary part. -/
def log (z : Complex) : Complex :=
  if z.isFinite then ⟨z.logAbs, z.argument⟩
  else ⟨if z.isInfinite then infinity else nan, z.argument⟩

/-- The exponential function at infinite and undefined arguments. -/
def expAtLimit (z : Complex) : Except Trap Complex :=
  if z.re.isInf && z.im.isFinite && z.im != 0.0 then
    let size := if isNegative z.re then 0.0 else infinity
    .ok ⟨copySign size (Float.cos z.im), copySign size (Float.sin z.im)⟩
  else if z.re.isInf && isNegative z.re then
    .ok ⟨0.0, if z.im == 0.0 then z.im else 0.0⟩
  else if z.im.isInf && !z.re.isNaN then .error .domain
  else if z.im == 0.0 then .ok z
  else .ok ⟨if z.re.isInf then infinity else nan, nan⟩

def exp (z : Complex) : Except Trap Complex :=
  if !z.isFinite then expAtLimit z
  else if largeExponent < z.re then
    let size := Float.exp (z.re - 1.0)
    inRange ⟨size * Float.cos z.im * euler, size * Float.sin z.im * euler⟩
  else
    let size := Float.exp z.re
    inRange ⟨size * Float.cos z.im, size * Float.sin z.im⟩

/-- The hyperbolic cosine at infinite and undefined arguments. -/
def coshAtLimit (z : Complex) : Except Trap Complex :=
  if z.re.isInf && z.im.isFinite && z.im != 0.0 then
    let im := copySign infinity (Float.sin z.im)
    .ok ⟨copySign infinity (Float.cos z.im), if isNegative z.re then -im else im⟩
  else if z.im.isInf && !z.re.isNaN then .error .domain
  else if z.re.isInf then
    .ok ⟨infinity, if z.im == 0.0 then (if isNegative z.re then -z.im else z.im) else nan⟩
  else .ok ⟨nan, if z.re == 0.0 || z.im == 0.0 then 0.0 else nan⟩

def cosh (z : Complex) : Except Trap Complex :=
  if !z.isFinite then coshAtLimit z
  else if largeExponent < z.re.abs then
    let x := z.re - copySign 1.0 z.re
    inRange ⟨Float.cos z.im * Float.cosh x * euler, Float.sin z.im * Float.sinh x * euler⟩
  else inRange ⟨Float.cos z.im * Float.cosh z.re, Float.sin z.im * Float.sinh z.re⟩

/-- The hyperbolic sine at infinite and undefined arguments. -/
def sinhAtLimit (z : Complex) : Except Trap Complex :=
  if z.re.isInf && z.im.isFinite && z.im != 0.0 then
    let re := copySign infinity (Float.cos z.im)
    .ok ⟨if isNegative z.re then -re else re, copySign infinity (Float.sin z.im)⟩
  else if z.im.isInf && !z.re.isNaN then .error .domain
  else if z.im == 0.0 then .ok z
  else if z.re.isInf then .ok ⟨infinity, nan⟩
  else .ok ⟨if z.re == 0.0 then 0.0 else nan, nan⟩

def sinh (z : Complex) : Except Trap Complex :=
  if !z.isFinite then sinhAtLimit z
  else if largeExponent < z.re.abs then
    let x := z.re - copySign 1.0 z.re
    inRange ⟨Float.cos z.im * Float.sinh x * euler, Float.sin z.im * Float.cosh x * euler⟩
  else inRange ⟨Float.cos z.im * Float.sinh z.re, Float.sin z.im * Float.cosh z.re⟩

/-- The hyperbolic tangent at infinite and undefined arguments. -/
def tanhAtLimit (z : Complex) : Except Trap Complex :=
  if z.re.isInf then
    let im :=
      if z.im == 0.0 then z.im
      else if z.im.isFinite then copySign 0.0 (2.0 * Float.sin z.im * Float.cos z.im)
      else 0.0
    .ok ⟨copySign 1.0 z.re, im⟩
  else if z.im.isInf && z.re.isFinite then .error .domain
  else if z.im == 0.0 then .ok z
  else .ok ⟨nan, nan⟩

def tanh (z : Complex) : Except Trap Complex :=
  if !z.isFinite then tanhAtLimit z
  else if largeExponent < z.re.abs then
    .ok ⟨copySign 1.0 z.re,
      4.0 * Float.sin z.im * Float.cos z.im * Float.exp (-2.0 * z.re.abs)⟩
  else
    let x := Float.tanh z.re
    let y := Float.tan z.im
    let c := 1.0 / Float.cosh z.re
    let xy := x * y
    let denominator := 1.0 + xy * xy
    .ok ⟨x * (1.0 + y * y) / denominator, ((y / denominator) * c) * c⟩

/-- The circular functions are the hyperbolic ones a quarter turn away. -/
def sin (z : Complex) : Except Trap Complex :=
  (sinh z.turn).map turnBack

def cos (z : Complex) : Except Trap Complex :=
  cosh z.turn

def tan (z : Complex) : Except Trap Complex :=
  (tanh z.turn).map turnBack

/-- The inverse hyperbolic sine at infinite and undefined arguments. -/
def asinhAtLimit (z : Complex) : Complex :=
  if z.isInfinite then
    ⟨if z.re.isNaN then infinity else copySign infinity z.re, Float.atan2 z.im z.re.abs⟩
  else ⟨nan, if z.re.isNaN && z.im == 0.0 then z.im else nan⟩

def asinh (z : Complex) : Except Trap Complex :=
  if !z.isFinite then .ok (asinhAtLimit z)
  else if large < z.re.abs || large < z.im.abs then
    let size := Float.log (hypotenuse (z.re / 2.0) (z.im / 2.0)) + ln2 * 2.0
    .ok ⟨copySign size z.re, Float.atan2 z.im z.re.abs⟩
  else
    let s := sqrt ⟨1.0 + z.im, -z.re⟩
    let t := sqrt ⟨1.0 - z.im, z.re⟩
    .ok ⟨Float.asinh (s.re * t.im - t.re * s.im), Float.atan2 z.im (s.re * t.re - s.im * t.im)⟩

/-- The inverse hyperbolic tangent at infinite and undefined arguments. -/
def atanhAtLimit (z : Complex) : Complex :=
  let re := if z.re.isNaN then 0.0 else copySign 0.0 z.re
  if z.im.isInf then ⟨re, copySign halfPi z.im⟩
  else if z.re.isInf then ⟨re, if z.im.isNaN then nan else copySign halfPi z.im⟩
  else ⟨if z.re == 0.0 then re else nan, nan⟩

/-- The inverse hyperbolic tangent of a finite number that does not lie left of the imaginary axis.
It has a pole at one. -/
def atanhRight (z : Complex) : Except Trap Complex :=
  let y := z.im.abs
  let far := Float.sqrt large
  if far < z.re || far < y then
    let h := hypotenuse (z.re / 2.0) (z.im / 2.0)
    .ok ⟨z.re / 4.0 / h / h, -(copySign halfPi (-z.im))⟩
  else if z.re == 1.0 && y < Float.sqrt leastNormal then
    if y == 0.0 then .error .domain
    else
      .ok ⟨-(Float.log (Float.sqrt y / Float.sqrt (hypotenuse y 2.0))),
        copySign (Float.atan2 2.0 (-y) / 2.0) z.im⟩
  else
    let beyond := (1.0 - z.re) * (1.0 - z.re) + y * y
    .ok ⟨log1p (4.0 * z.re / beyond) / 4.0,
      -(Float.atan2 (-2.0 * z.im) ((1.0 - z.re) * (1.0 + z.re) - y * y)) / 2.0⟩

/-- The inverse hyperbolic tangent, an odd function. -/
def atanh (z : Complex) : Except Trap Complex :=
  if !z.isFinite then .ok (atanhAtLimit z)
  else if isNegative z.re then (atanhRight z.neg).map neg
  else atanhRight z

def atan (z : Complex) : Except Trap Complex :=
  (atanh z.turn).map turnBack

end Reckoner.Complex
