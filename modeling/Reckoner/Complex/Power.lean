import Reckoner.Complex.Elementary

namespace Reckoner.Complex

open Binary64

/-- The quotient with the divisor scaled by its greater part, which keeps moderate quotients of
great or small numbers. -/
def scaledDiv? (z w : Complex) : Option Complex :=
  let x := w.re.abs
  let y := w.im.abs
  if y ≤ x then
    if x == 0.0 then none
    else
      let ratio := w.im / w.re
      let size := w.re + w.im * ratio
      some ⟨(z.re + z.im * ratio) / size, (z.im - z.re * ratio) / size⟩
  else if x ≤ y then
    let ratio := w.re / w.im
    let size := w.re * ratio + w.im
    some ⟨(z.re * ratio + z.im) / size, (z.im * ratio - z.re) / size⟩
  else some ⟨nan, nan⟩

/-- A natural power by repeated squaring: `result * square ^ n`, with the squares taken from the
low bit of the exponent up. -/
def powNatFrom (result square : Complex) (n : Nat) : Complex :=
  if n = 0 then result
  else powNatFrom (if n % 2 = 1 then result.mul square else result) (square.mul square) (n / 2)
termination_by n
decreasing_by omega

def powNat (z : Complex) (n : Nat) : Complex :=
  powNatFrom one z n

/-- A power with a whole exponent. A negative one divides, and zero cannot be divided by. -/
def powInt (z : Complex) (n : Int) : Except Trap Complex :=
  if 0 < n then .ok (z.powNat n.toNat)
  else
    match scaledDiv? one (z.powNat n.natAbs) with
    | some w => .ok w
    | none => .error .powerOfZero

/-- The power in polar form. Zero has a power only for exponents on the positive real axis, and a
direction that turns without end is no direction. -/
def powPolar (z w : Complex) : Except Trap Complex :=
  if w.re == 0.0 && w.im == 0.0 then .ok one
  else if z.re == 0.0 && z.im == 0.0 then
    if w.im != 0.0 || w.re < 0.0 then .error .powerOfZero else .ok zero
  else
    let size := z.abs
    let angle := z.argument
    let length := Float.pow size w.re
    let phase := angle * w.re
    let length := if w.im != 0.0 then length / Float.exp (angle * w.im) else length
    let phase := if w.im != 0.0 then phase + w.im * Float.log size else phase
    if phase.isInf then .error .powerOfZero
    else .ok ⟨length * Float.cos phase, length * Float.sin phase⟩

/-- A real exponent of at most this size goes by multiplication if it is whole. -/
def multiplicationLimit : Float := 100.0

/-- The power of a complex number, out of range if a part is infinite. -/
def pow (z w : Complex) : Except Trap Complex := do
  let whole := w.im == 0.0 && isWhole w.re && w.re.abs ≤ multiplicationLimit
  let power ← if whole then z.powInt (value w.re).num else powPolar z w
  if power.isInfinite then .error .complexPower else .ok power

end Reckoner.Complex
