import Reckoner.Elementary.Real
import Reckoner.Trap

namespace Reckoner.Elementary

/-- The least natural number that does not fit into a word with a sign. -/
def wordBound : Nat := 9223372036854775808

/-- The product of the numbers from one to `n`. -/
def productUpTo : Nat → Nat
  | 0 => 1
  | n + 1 => (n + 1) * productUpTo n

/-- The factorial is reckoned by a primitive that takes its argument in a word. -/
def factorial (n : Nat) : Except Trap Nat :=
  if n < wordBound then .ok (productUpTo n) else .error .wideFactorial

/-- The product of `n`, `n - 2`, `n - 4` and so on, as long as they are positive. -/
def doubleFactorial (n : Int) : Int :=
  if n ≤ 0 then 1 else n * doubleFactorial (n - 2)
termination_by n.toNat

theorem doubleFactorial_of_nonpos {n : Int} (h : n ≤ 0) : doubleFactorial n = 1 := by
  rw [doubleFactorial, if_pos h]

theorem doubleFactorial_of_pos {n : Int} (h : 0 < n) :
    doubleFactorial n = n * doubleFactorial (n - 2) := by
  rw [doubleFactorial, if_neg (by omega)]

/-- The approximation of Lanczos with nine coefficients: the one of the constant term. -/
def lanczosConstant : Float := 0.99999999999980993

/-- The coefficients of `1 / (z + 1)`, `1 / (z + 2)`, and so on. -/
def lanczosCoefficients : List Float :=
  [676.5203681218851, -1259.1392167224028, 771.32342877765313, -176.61502916214059,
    12.507343278686905, -0.13857109526572012, 9.9843695780195716e-6, 1.5056327351493116e-7]

/-- The shift of the approximation. -/
def lanczosShift : Float := 7.0

/-- The gamma function from one half on. -/
def gammaUpper (x : Float) : Except Trap Float := do
  let z := x - 1.0
  let series := (lanczosCoefficients.zipIdx).foldl
    (fun sum (c, i) => sum + c / (z + Float.ofNat (i + 1))) lanczosConstant
  let t := z + lanczosShift + 0.5
  let power ← pow t (z + 0.5)
  let decay ← exp (-t)
  return Float.sqrt (2.0 * Binary64.pi) * power * decay * series

/-- The gamma function. Below one half it is found from its value on the other side of one half and
the sine of `pi * x`. -/
def gamma (x : Float) : Except Trap Float := do
  if x < 0.5 then
    let sine ← sin (Binary64.pi * x)
    let mirrored ← gammaUpper (1.0 - x)
    div Binary64.pi (sine * mirrored)
  else gammaUpper x

end Reckoner.Elementary
