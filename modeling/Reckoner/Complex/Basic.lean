namespace Reckoner

structure Complex where
  re : Float
  im : Float
deriving DecidableEq

namespace Complex

def zero : Complex := ⟨0.0, 0.0⟩

def one : Complex := ⟨1.0, 0.0⟩

def add (z w : Complex) : Complex :=
  ⟨z.re + w.re, z.im + w.im⟩

def sub (z w : Complex) : Complex :=
  ⟨z.re - w.re, z.im - w.im⟩

def mul (z w : Complex) : Complex :=
  ⟨z.re * w.re - z.im * w.im, z.re * w.im + z.im * w.re⟩

def neg (z : Complex) : Complex :=
  ⟨-z.re, -z.im⟩

/-- The square of the distance from the origin, without any guard against overflow or underflow. -/
def normSq (z : Complex) : Float :=
  z.re * z.re + z.im * z.im

/-- The quotient by the textbook formula. It has no value where the square of the divisor's size
is zero, be it by underflow. -/
def div? (z w : Complex) : Option Complex :=
  let size := w.normSq
  if size == 0.0 then none
  else some ⟨(z.re * w.re + z.im * w.im) / size, (z.im * w.re - z.re * w.im) / size⟩

/-- Equal parts, in the sense of IEEE comparison. -/
def agrees (z w : Complex) : Bool :=
  z.re == w.re && z.im == w.im

def isFinite (z : Complex) : Bool :=
  z.re.isFinite && z.im.isFinite

def isInfinite (z : Complex) : Bool :=
  z.re.isInf || z.im.isInf

/-- The product by the imaginary unit, a quarter turn. -/
def turn (z : Complex) : Complex :=
  ⟨-z.im, z.re⟩

/-- The quarter turn back. -/
def turnBack (z : Complex) : Complex :=
  ⟨z.im, -z.re⟩

end Complex

end Reckoner
