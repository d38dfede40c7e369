import Reckoner.Complex.Power
import Reckoner.Elementary.Real
import Reckoner.Fault.Basic

/-!
Arithmetic on numbers of any two variants. The result has the greater variant of the operands, in
the order integer, double, complex, except that division and powers leave the integers where the
exact result is no integer. Every failure is a fault of the domain.
-/
namespace Reckoner

namespace Scalar

/-- The nearest double, for an operation on doubles. -/
def nearest : Scalar → Except DomainFault Float
  | double x => .ok x
  | integer n =>
    match Binary64.ofInt? n with
    | some x => .ok x
    | none => .error (.wideInteger n)

def isZero : Scalar → Bool
  | integer n => n == 0
  | double x => x == 0.0

/-- A real power of a real base, as a double. -/
def pow (base exponent : Scalar) : Except DomainFault Float :=
  match (do Elementary.pow (← base.toDouble) (← exponent.toDouble) : Except Trap Float) with
  | .ok x => .ok x
  | .error trap =>
    if trap.kind = .overflow then .error (.widePower base exponent)
    else if base.isZero then .error (.zeroToNegative base exponent)
    else .error (.fractionalPowerOfNegative base exponent)

end Scalar

namespace Value

/-- The number in the complex plane. -/
def toComplex : Value → Except DomainFault Complex
  | complex z => .ok z
  | double x => .ok ⟨x, 0.0⟩
  | integer n => do return ⟨← (Scalar.integer n).nearest, 0.0⟩

/-- A real number that is zero. -/
def isZero (v : Value) : Bool :=
  v.scalar?.any Scalar.isZero

def neg : Value → Value
  | integer n => integer (-n)
  | double x => double (-x)
  | complex z => complex z.neg

/-- An operation given on each variant, with the operands promoted to the greater of theirs. -/
def promoting (onIntegers : Int → Int → Int) (onDoubles : Float → Float → Float)
    (onComplexes : Complex → Complex → Complex) (l r : Value) : Except DomainFault Value :=
  match l, r with
  | integer m, integer n => .ok (integer (onIntegers m n))
  | l, r =>
    match l.scalar?, r.scalar? with
    | some a, some b => do return double (onDoubles (← a.nearest) (← b.nearest))
    | _, _ => do return complex (onComplexes (← l.toComplex) (← r.toComplex))

def add : Value → Value → Except DomainFault Value :=
  promoting (· + ·) (· + ·) Complex.add

def sub : Value → Value → Except DomainFault Value :=
  promoting (· - ·) (· - ·) Complex.sub

def mul : Value → Value → Except DomainFault Value :=
  promoting (· * ·) (· * ·) Complex.mul

/-- A quotient of integers is an integer if the divisor divides, and the nearest double else. -/
def divInt (m n : Int) : Except DomainFault Value :=
  if n = 0 then .error (.divisionByZero (integer n))
  else if m % n = 0 then .ok (integer (m / n))
  else
    match Binary64.quotient? m n with
    | some x => .ok (double x)
    | none => .error .wideQuotient

def div (l r : Value) : Except DomainFault Value :=
  match l, r with
  | integer m, integer n => divInt m n
  | l, r =>
    match l.scalar?, r.scalar? with
    | some a, some b =>
      if b.isZero then .error (.divisionByZero r)
      else do return double ((← a.nearest) / (← b.nearest))
    | _, _ => do
      match (← l.toComplex).div? (← r.toComplex) with
      | some z => return complex z
      | none => .error (.complexDivisionByZero r)

/-- The remainder by the size of the divisor, so it is never negative. -/
def mod (l r : Value) : Except DomainFault Value :=
  match l.scalar?, r.scalar? with
  | some a, some b =>
    if b.isZero then .error (.moduloByZero r)
    else
      match a, b with
      | .integer m, .integer n => .ok (integer (m % n))
      | a, b => do return double (Binary64.modulus (← a.nearest) (← b.nearest).abs)
  | _, _ => .error (.complexModulo l r)

/-- The greatest number of binary digits that an integer power is given. It is reckoned from the
digits of the base before the power is taken. -/
def powerBits : Nat := 65536

/-- A natural power of an integer. Powers of zero and of the units are read off, so that their
exponent may be of any size. -/
def powNat (base : Int) (n : Nat) : Int :=
  if n = 0 then 1
  else
    let size := if base.natAbs ≤ 1 then base.natAbs else Nat.pow base.natAbs n
    if base < 0 && n % 2 = 1 then -size else size

/-- An integer power of an integer: exact while it is an integer, and the nearest double else. -/
def powInt (base exponent : Int) : Except DomainFault Value :=
  if 0 ≤ exponent then
    if 1 < base.natAbs && powerBits < exponent.toNat * bitLength base then
      .error (.wideIntegerPower base exponent)
    else .ok (integer (powNat base exponent.toNat))
  else if base = 0 then .error (.zeroToNegative (.integer base) (.integer exponent))
  else if base = 1 then .ok (integer 1)
  else if base = -1 then .ok (integer (if exponent % 2 = 0 then 1 else -1))
  else do return double (← Scalar.pow (.integer base) (.integer exponent))

def pow (l r : Value) : Except DomainFault Value :=
  match l.scalar? with
  | none => .error (.complexBase l)
  | some base =>
    match base, r with
    | .integer m, integer n => powInt m n
    | base, integer n => do return double (← base.pow (.integer n))
    | base, double y => do return double (← base.pow (.double y))
    | base, complex w => do
      match Complex.pow ⟨← base.nearest, 0.0⟩ w with
      | .ok z => return complex z
      | .error trap => .error (.complexPower l r trap)

end Value

/-- The binary operators. -/
inductive Operator where
  | add | sub | mul | div | mod | pow
deriving DecidableEq

namespace Operator

def symbol : Operator → String
  | add => "+"
  | sub => "-"
  | mul => "*"
  | div => "/"
  | mod => "%"
  | pow => "^"

def all : List Operator := [add, sub, mul, div, mod, pow]

def ofSymbol? (s : String) : Option Operator :=
  all.find? fun op => op.symbol == s

def apply : Operator → Value → Value → Except DomainFault Value
  | add => Value.add
  | sub => Value.sub
  | mul => Value.mul
  | div => Value.div
  | mod => Value.mod
  | pow => Value.pow

theorem ofSymbol?_symbol (op : Operator) : ofSymbol? op.symbol = some op := by
  cases op <;> rfl

theorem symbol_of_ofSymbol? {s : String} {op : Operator} (h : ofSymbol? s = some op) :
    op.symbol = s := by
  simpa using List.find?_some h

end Operator

end Reckoner
