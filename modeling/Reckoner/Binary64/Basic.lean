/-!
A double as the number it stands for. A finite double is a whole number of powers of two, so it
has an exact rational value, and whatever is decided about doubles by comparing, rounding or
printing is decided on that value.
-/
namespace Reckoner.Binary64

def nan : Float := 0.0 / 0.0

def infinity : Float := 1.0 / 0.0

/-- The ratio of a circle's circumference to its diameter, as the nearest double. -/
def pi : Float := 3.141592653589793

/-- The natural logarithm of two, as the nearest double. -/
def ln2 : Float := 0.6931471805599453

/-- The least positive double that has a full significand. -/
def leastNormal : Float := 2.2250738585072014e-308

/-- The greatest finite double. -/
def greatest : Float := 1.7976931348623157e308

/-- The size of a finite double: `significand * 2 ^ exponent`. Below a power of two the doubles
lie twice as close as above it, which `atPowerOfTwo` records. -/
structure Size where
  significand : Nat
  exponent : Int
  atPowerOfTwo : Bool
deriving DecidableEq

/-- Reads the size out of the bits of a finite double: eleven bits of biased exponent, then
fifty-two of fraction. -/
def size (x : Float) : Size :=
  let bits := x.toBits.toNat
  let biased := bits / Nat.pow 2 52 % 2048
  let fraction := bits % Nat.pow 2 52
  if biased = 0 then ⟨fraction, -1074, false⟩
  else ⟨Nat.pow 2 52 + fraction, (biased : Int) - 1075, fraction = 0 && 1 < biased⟩

def Size.value (s : Size) : Rat :=
  (s.significand : Rat) * (2 : Rat) ^ s.exponent

/-- The sign bit, which negative zero carries too. -/
def isNegative (x : Float) : Bool :=
  Nat.pow 2 63 ≤ x.toBits.toNat

/-- The exact value of a finite double. -/
def value (x : Float) : Rat :=
  let magnitude := (size x).value
  if isNegative x then -magnitude else magnitude

/-- The size of `x` with the sign of `y`. -/
def copySign (x y : Float) : Float :=
  if isNegative y then -x.abs else x.abs

/-- A double is whole if it is finite and has no fraction. -/
def isWhole (x : Float) : Bool :=
  x.isFinite && (value x).isInt

/-- An integer compared with a double. Every double but NaN has a place among the integers. -/
def compareInt (n : Int) (x : Float) : Option Ordering :=
  if x.isNaN then none
  else if x.isInf then some (if isNegative x then .gt else .lt)
  else if (n : Rat) < value x then some .lt
  else if value x < (n : Rat) then some .gt
  else some .eq

end Reckoner.Binary64
