import Reckoner.Marked
import Reckoner.Value.Arithmetic

/-!
What operations are handed: numbers, or what stands where a number should stand. Each operation
refuses all but numbers when it comes to use them, in its own words.
-/
namespace Reckoner

inductive Datum where
  | number (v : Value)
  | foreign (stranger : Foreign)
deriving DecidableEq

/-- A datum that an operation may choose to hand on as it is. -/
abbrev Operand := Marked Datum

namespace Datum

/-- The number that is needed. What stands there instead is the reason of the failure. -/
def need (trap : Foreign → Trap) : Datum → Except Fault Value
  | number v => .ok v
  | foreign stranger => .error (.uncaught (trap stranger))

/-- The number that is asked for a part. -/
def withPart (part : String) : Datum → Except Fault Value :=
  need (.noPart · part)

def rank (d : Datum) : Except Fault Nat := do
  return (← d.need .notNumber).variant.rank

def neg (d : Datum) : Except Fault Value := do
  return (← d.need .notNumber).neg

/-- The part that a remainder asks for beside a number: the text of the other operand for a report
if this one is complex, and its value else. -/
def partBeside (v : Value) : String :=
  if v.variant = .complex then "describe" else "value"

/-- A remainder. The divisor is looked at first. -/
def mod : Datum → Datum → Except Fault Value
  | number v, number w => (v.mod w).mapError .domain
  | number v, foreign b => .error (.uncaught (.noPart b (partBeside v)))
  | foreign a, number w =>
    if w.isZero then .error (.domain (.moduloByZero w))
    else .error (.uncaught (.noPart a (partBeside w)))
  | foreign _, foreign b => .error (.uncaught (.noPart b "value"))

/-- A power. A complex base is refused before the exponent is looked at. -/
def pow (l r : Datum) : Except Fault Value := do
  let base ← l.withPart "value"
  if base.variant = .complex then throw (.domain (.complexBase base))
  (base.pow (← r.withPart "value")).mapError .domain

/-- A binary operation. -/
def apply (op : Operator) (l r : Datum) : Except Fault Value :=
  match op with
  | .mod => l.mod r
  | .pow => l.pow r
  | op => do (op.apply (← l.need .notNumber) (← r.need .notNumber)).mapError .domain

def lift (d : Datum) : Except Fault Value := do
  return .complex (← (← d.need .notLiftable).toComplex.mapError .domain)

/-- A bare number as a number of the calculator. -/
def wrap (d : Datum) : Except Fault Value :=
  d.need .notWrappable

/-- Equality of numbers as values, and of anything else as it is. -/
def agrees : Datum → Datum → Bool
  | number v, number w => v.agrees w
  | foreign a, foreign b => a == b
  | _, _ => false

theorem pow_number (v w : Value) :
    (Datum.number v).pow (.number w) = (v.pow w).mapError .domain := by
  cases v <;> rfl

/-- On numbers a binary operation is that of the numbers. -/
theorem apply_number (op : Operator) (v w : Value) :
    Datum.apply op (.number v) (.number w) = (op.apply v w).mapError .domain := by
  cases op with
  | pow => exact pow_number v w
  | _ => rfl

end Datum

end Reckoner
