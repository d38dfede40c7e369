import Reckoner.Binary64.Distance
import Reckoner.Complex.Elementary
import Reckoner.Datum
import Reckoner.Elementary.Gamma

namespace Reckoner

/-- The argument of a function that is defined on real numbers only. -/
def Value.real (function : String) (v : Value) : Except DomainFault Scalar :=
  match v.scalar? with
  | some a => .ok a
  | none => .error (.notReal function v)

/-- The integer that a real number equals, if it equals one. -/
def Scalar.whole? : Scalar → Option Int
  | integer n => some n
  | double x => if Binary64.isWhole x then some (Binary64.value x).num else none

/-- The argument of a function that is defined on whole real numbers only. -/
def Value.whole (function : String) (v : Value) : Except DomainFault Int := do
  let a ← v.real function
  match a.whole? with
  | some n => return n
  | none => throw (.notWhole function v)

/-- The number at a place among arguments. -/
def Datum.argument (arguments : List Datum) (place : Nat) : Except Fault Value :=
  match arguments[place]? with
  | some d => d.withPart "value"
  | none => .error (.uncaught .listIndex)

/-- An argument of a function that may choose it as its value, and is defined on real numbers only.
-/
def Marked.real (function : String) (x : Operand) : Except Fault (Marked Scalar) := do
  return ⟨← ((← x.content.withPart "value").real function).mapError .domain, x.mark⟩

/-- A real argument as the nearest double. -/
def Marked.nearest (function : String) (x : Operand) : Except Fault (Marked Float) := do
  let a ← x.real function
  return ⟨← a.content.nearest.mapError .domain, a.mark⟩

namespace Unary

/-- The result of a primitive. Its trap, if any, is reported together with the arguments. -/
def attempt {α : Type} (function : String) (arguments : List Value) (result : Except Trap α) :
    Except DomainFault α :=
  result.mapError (.failedCall function arguments)

/-- A function of its own kind on the real line and in the complex plane. -/
def complexAware (f : Unary) (onReals : Float → Except Trap Float)
    (onComplexes : Complex → Except Trap Complex) (v : Value) : Except DomainFault Value :=
  match v with
  | .complex z => do return .complex (← attempt f.name [v] (onComplexes z))
  | .integer n => do
    return .double (← attempt f.name [v] (do onReals (← (Scalar.integer n).toDouble)))
  | .double x => do return .double (← attempt f.name [v] (onReals x))

/-- The square root of a negative real number lies on the imaginary axis. -/
def realRoot (a : Scalar) : Except DomainFault Value :=
  let root (a : Scalar) : Except DomainFault Float :=
    attempt "sqrt" [a.toValue] (do Elementary.sqrt (← a.toDouble))
  if a.lt (.integer 0) then do return .complex ⟨0.0, ← root a.neg⟩
  else do return .double (← root a)

def sqrtValue : Value → Except DomainFault Value
  | .complex z => .ok (.complex z.sqrt)
  | .integer n => realRoot (.integer n)
  | .double x => realRoot (.double x)

def lnValue (v : Value) : Except DomainFault Value :=
  match v with
  | .complex z =>
    if z.re == 0.0 && z.im == 0.0 then .error (.logarithmOfZero v) else .ok (.complex z.log)
  | .integer n =>
    if n ≤ 0 then .error (.logarithmOfNonPositive v)
    else .ok (.double (Elementary.log (.integer n)))
  | .double x =>
    if x ≤ 0.0 then .error (.logarithmOfNonPositive v)
    else .ok (.double (Elementary.log (.double x)))

def asinValue (v : Value) : Except DomainFault Value := do
  let a ← v.real "asin"
  if a.lt (.integer (-1)) || Scalar.lt (.integer 1) a then throw (.arcsineDomain v)
  return .double (Float.asin (← a.nearest))

def acosValue (v : Value) : Except DomainFault Value := do
  let a ← v.real "acos"
  if a.lt (.integer (-1)) || Scalar.lt (.integer 1) a then throw (.arccosineDomain v)
  return .double (Float.acos (← a.nearest))

def acoshValue (v : Value) : Except DomainFault Value := do
  let a ← v.real "acosh"
  if a.lt (.integer 1) then throw (.acoshDomain v)
  return .double (← attempt "acosh" [v] (do Elementary.acosh (← a.toDouble)))

def atanhValue (v : Value) : Except DomainFault Value := do
  let a ← v.real "atanh"
  if a.le (.integer (-1)) || Scalar.le (.integer 1) a then throw (.atanhDomain v)
  return .double (Float.atanh (← a.nearest))

def absValue : Value → Value
  | .integer n => .integer n.natAbs
  | .double x => .double x.abs
  | .complex z => .double (Binary64.distance z.re z.im)

/-- A function that rounds to an integer. -/
def rounding (f : Unary) (round : Scalar → Except Trap Int) (v : Value) :
    Except DomainFault Value := do
  let a ← v.real f.name
  return .integer (← attempt f.name [v] (round a))

/-- Rounding goes by the size, which is what a failure shows. -/
def roundValue (v : Value) : Except DomainFault Value := do
  let a ← v.real "round"
  return .integer (← attempt "round" [a.abs.toValue] (Elementary.round a))

/-- The argument of a factorial: a natural number up to the limit. -/
def factorialArgument (label : String) (f : Unary) (limit : Int) (v : Value) :
    Except DomainFault Nat := do
  let a ← v.real f.name
  match a.whole? with
  | none => throw (.notNatural label f.name v)
  | some n =>
    if n < 0 then throw (.notNatural label f.name v)
    if limit < n then throw (.beyondLimit label f.name v limit)
    return n.toNat

def gammaValue (v : Value) : Except DomainFault Value := do
  let x ← (← v.real "gamma").nearest
  if x ≤ 0.0 && Binary64.isWhole x then throw (.gammaPole v)
  return .double (← attempt "gamma" [.double x] (Elementary.gamma x))

/-- NaN has no sign and gives zero. -/
def signValue (v : Value) : Except DomainFault Value := do
  let a ← v.real "sign"
  if Scalar.lt (.integer 0) a then return .integer 1
  if a.lt (.integer 0) then return .integer (-1)
  return .integer 0

/-- The one primitive that is called without an attempt: its trap gets through. -/
def factValue (limit : Int) (v : Value) : Except Fault Value := do
  let n ← (factorialArgument "Factorial" fact limit v).mapError .domain
  return .integer (← (Elementary.factorial n).mapError .uncaught)

def factorial2Value (limit : Int) (v : Value) : Except DomainFault Value := do
  return .integer
    (Elementary.doubleFactorial (← factorialArgument "Double factorial" factorial2 limit v))

/-- What a function reports is a fault of the domain. -/
def reported : Except DomainFault Value → Except Fault Value :=
  Except.mapError .domain

/-- The value of a function at an argument. The limit is the greatest argument of the factorials. -/
def apply (limit : Int) (f : Unary) (v : Value) : Except Fault Value :=
  match f with
  | fact => factValue limit v
  | sqrt => reported (sqrtValue v)
  | ln => reported (lnValue v)
  | exp => reported (complexAware exp Elementary.exp Complex.exp v)
  | sin => reported (complexAware sin Elementary.sin Complex.sin v)
  | cos => reported (complexAware cos Elementary.cos Complex.cos v)
  | tan => reported (complexAware tan Elementary.tan Complex.tan v)
  | atan => reported (complexAware atan Elementary.atan Complex.atan v)
  | sinh => reported (complexAware sinh Elementary.sinh Complex.sinh v)
  | cosh => reported (complexAware cosh Elementary.cosh Complex.cosh v)
  | tanh => reported (complexAware tanh Elementary.tanh Complex.tanh v)
  | asinh => reported (complexAware asinh Elementary.asinh Complex.asinh v)
  | asin => reported (asinValue v)
  | acos => reported (acosValue v)
  | acosh => reported (acoshValue v)
  | atanh => reported (atanhValue v)
  | abs => reported (.ok (absValue v))
  | floor => reported (rounding floor Elementary.floor v)
  | ceil => reported (rounding ceil Elementary.ceil v)
  | trunc => reported (rounding trunc Elementary.trunc v)
  | round => reported (roundValue v)
  | factorial2 => reported (factorial2Value limit v)
  | gamma => reported (gammaValue v)
  | sign => reported (signValue v)

/-- All functions but one report whatever they do not have a value for. -/
theorem exists_apply_eq_reported (limit : Int) {f : Unary} (h : f ≠ fact) (v : Value) :
    ∃ result, f.apply limit v = reported result := by
  cases f with
  | fact => exact absurd rfl h
  | _ => exact ⟨_, rfl⟩

/-- The value of a call. All arguments but the first are left alone. -/
def call (limit : Int) (f : Unary) (arguments : List Datum) : Except Fault Value := do
  f.apply limit (← Datum.argument arguments 0)

theorem call_number (limit : Int) (f : Unary) (v : Value) (others : List Datum) :
    f.call limit (.number v :: others) = f.apply limit v := rfl

end Unary

end Reckoner
