import Reckoner.Complex.Basic
import Reckoner.Decimal.Integer
import Reckoner.Decimal.Layout

/-!
The numbers of the calculator. There are three variants, in the order of promotion: integers of
any size, doubles, and complex numbers. A complex number stays complex when its imaginary part is
zero; only its text drops the zero part.
-/
namespace Reckoner

/-- A number on the real line. -/
inductive Scalar where
  | integer (n : Int)
  | double (x : Float)
deriving DecidableEq

inductive Value where
  | integer (n : Int)
  | double (x : Float)
  | complex (z : Complex)
deriving DecidableEq

inductive Variant where
  | integer
  | double
  | complex
deriving DecidableEq

namespace Variant

/-- The place in the order of promotion. -/
def rank : Variant → Nat
  | integer => 0
  | double => 1
  | complex => 2

def name : Variant → String
  | integer => "integer"
  | double => "double"
  | complex => "complex"

end Variant

namespace Complex

/-- A zero part is left out, of two zero parts the imaginary one. -/
def describe (z : Complex) : String :=
  let re := Decimal.ofFloat z.re
  if z.im == 0.0 then re
  else if z.re == 0.0 then Decimal.ofFloat z.im ++ "i"
  else if z.im < 0.0 then re ++ " - " ++ Decimal.ofFloat (-z.im) ++ "i"
  else re ++ " + " ++ Decimal.ofFloat z.im ++ "i"

end Complex

namespace Scalar

def isInteger : Scalar → Bool
  | integer _ => true
  | double _ => false

def toValue : Scalar → Value
  | integer n => .integer n
  | double x => .double x

def describe : Scalar → String
  | integer n => Decimal.ofInt n
  | double x => Decimal.ofFloat x

/-- Exact comparison; none with NaN. -/
def compare? : Scalar → Scalar → Option Ordering
  | integer m, integer n => some (compare m n)
  | integer m, double y => Binary64.compareInt m y
  | double x, integer n => (Binary64.compareInt n x).map Ordering.swap
  | double x, double y =>
    if x < y then some .lt
    else if y < x then some .gt
    else if x == y then some .eq
    else none

def lt (a b : Scalar) : Bool :=
  a.compare? b == some .lt

def le (a b : Scalar) : Bool :=
  a.compare? b == some .lt || a.compare? b == some .eq

def eq (a b : Scalar) : Bool :=
  a.compare? b == some .eq

def neg : Scalar → Scalar
  | integer n => integer (-n)
  | double x => double (-x)

def abs : Scalar → Scalar
  | integer n => integer n.natAbs
  | double x => double x.abs

end Scalar

namespace Value

def variant : Value → Variant
  | integer _ => .integer
  | double _ => .double
  | complex _ => .complex

/-- The number on the real line, if the value is one by its variant. -/
def scalar? : Value → Option Scalar
  | integer n => some (.integer n)
  | double x => some (.double x)
  | complex _ => none

/-- A double that is no number, and so differs from itself. -/
def isUndefined : Value → Bool
  | double x => x.isNaN
  | _ => false

/-- The canonical text. -/
def describe : Value → String
  | integer n => Decimal.ofInt n
  | double x => Decimal.ofFloat x
  | complex z => z.describe

/-- Equality of the variant first and then of the parts, doubles by IEEE comparison. -/
def agrees : Value → Value → Bool
  | integer m, integer n => m == n
  | double x, double y => x == y
  | complex z, complex w => z.agrees w
  | _, _ => false

theorem scalar?_toValue (a : Scalar) : a.toValue.scalar? = some a := by
  cases a <;> rfl

theorem scalar?_eq_none_iff {v : Value} : v.scalar? = none ↔ v.variant = .complex := by
  cases v <;> simp [scalar?, variant]

end Value

end Reckoner
