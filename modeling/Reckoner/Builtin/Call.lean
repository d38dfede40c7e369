import Reckoner.Builtin.Unary
import Reckoner.Builtin.Basic
import Reckoner.RandomSource
import Reckoner.Statistics

namespace Reckoner

namespace Binary

def complexValue (v w : Value) : Except DomainFault Value := do
  let re ← v.real "complex"
  let im ← w.real "complex"
  return .complex ⟨← re.nearest, ← im.nearest⟩

/-- The quotient as a double. -/
def fractionValue (v w : Value) : Except DomainFault Value := do
  let a ← v.real "fraction"
  let b ← w.real "fraction"
  if b.isZero then throw (.fractionByZero v w)
  match a, b with
  | .integer m, .integer n =>
    match Binary64.quotient? m n with
    | some x => return .double x
    | none => throw (.wideFraction v w)
  | a, b =>
    match a.toDouble, b.toDouble with
    | .ok x, .ok y => return .double (x / y)
    | _, _ => throw (.wideFraction v w)

def logValue (v w : Value) : Except DomainFault Value := do
  let a ← v.real "log"
  let base ← w.real "log"
  if a.le (.integer 0) then throw (.logOfNonPositive v w)
  if base.le (.integer 0) || base.eq (.integer 1) then throw (.logBase w)
  return .double (Elementary.log a / Elementary.log base)

def powValue (v w : Value) : Except DomainFault Value := do
  let base ← v.real "pow"
  let exponent ← w.real "pow"
  return .double (← base.pow exponent)

def gcdValue (v w : Value) : Except DomainFault Value := do
  let m ← v.whole "gcd"
  let n ← w.whole "gcd"
  return .integer (Int.gcd m n)

/-- The product of the sizes without the divisor that they share. Two zeros share all divisors, so
zero is looked at first. -/
def lcmValue (v w : Value) : Except DomainFault Value := do
  let m ← v.whole "lcm"
  let n ← w.whole "lcm"
  if m = 0 || n = 0 then return .integer 0
  return .integer (m.natAbs * n.natAbs / Int.gcd m n : Nat)

def apply (f : Binary) (v w : Value) : Except DomainFault Value :=
  match f with
  | complex => complexValue v w
  | fraction => fractionValue v w
  | gcd => gcdValue v w
  | lcm => lcmValue v w
  | log => logValue v w
  | pow => powValue v w

/-- What an argument has to be on its own: a whole number for divisors and multiples, and a real
number for all others. -/
def check (f : Binary) (v : Value) : Except DomainFault Unit :=
  match f with
  | gcd | lcm => discard (v.whole f.name)
  | complex | fraction | log | pow => discard (v.real f.name)

/-- The value of a call. The first argument is checked before the second is looked at, and all
arguments but these two are left alone. -/
def call (f : Binary) (arguments : List Datum) : Except Fault Value := do
  let v ← Datum.argument arguments 0
  (f.check v).mapError .domain
  let w ← Datum.argument arguments 1
  (f.apply v w).mapError .domain

/-- On two numbers a call is the function of the numbers, which checks them both again. -/
theorem call_numbers (f : Binary) (v w : Value) :
    f.call [.number v, .number w] = (f.apply v w).mapError .domain := by
  have again {α : Type} (check : Except DomainFault α) (rest : α → Except DomainFault Value) :
      ((discard check).mapError Fault.domain >>= fun _ => (check >>= rest).mapError .domain) =
        (check >>= rest).mapError .domain := by
    cases check <;> rfl
  cases f <;> exact again _ _

end Binary

/-- The first of two real numbers, unless the second is less. -/
def Marked.least (a b : Marked Scalar) : Marked Scalar :=
  if b.content.lt a.content then b else a

/-- The first of two real numbers, unless the second is greater. -/
def Marked.greatest (a b : Marked Scalar) : Marked Scalar :=
  if a.content.lt b.content then b else a

/-- A chosen real number, as an integer if it was chosen among integers, and as a double else. -/
def Marked.among (arguments : List (Marked Scalar)) (chosen : Marked Scalar) :
    Except DomainFault (Marked Value) :=
  match chosen.content with
  | .double x => .ok ⟨.double x, chosen.mark⟩
  | .integer n =>
    if arguments.all fun x => x.content.isInteger then .ok (.plain (.integer n))
    else do return .plain (.double (← chosen.content.nearest))

namespace Builtin

/-- The number in the interval from `low` to `high` that is nearest to the first argument. -/
def clampValue (x low high : Marked Scalar) : Except DomainFault (Marked Value) := do
  if high.content.lt low.content then
    throw (.clampBounds low.content.toValue high.content.toValue)
  ((x.greatest low).least high).among [x, low, high]

/-- The value of a call. Of too many arguments the first surplus one is still checked. -/
def clampCall (arguments : List Operand) : Except Fault (Marked Value) := do
  match ← (arguments.take 4).mapM (Marked.real "clamp") with
  | [x, low, high] => (clampValue x low high).mapError .domain
  | xs => throw (.uncaught (if xs.length < 3 then .tooFewValues 3 xs.length else .tooManyValues 3))

end Builtin

namespace Variadic

/-- The number that a comparison prefers among the arguments; the first of equal ones. -/
def choice (f : Variadic) (prefer : Marked Scalar → Marked Scalar → Marked Scalar)
    (arguments : List Operand) : Except Fault (Marked Value) := do
  match ← arguments.mapM (Marked.real f.name) with
  | [] => throw (.uncaught (.noChoice f.name))
  | x :: rest => ((rest.foldl prefer x).among (x :: rest)).mapError .domain

/-- A statistic of the arguments as doubles. Its traps are not caught. -/
def statistic (f : Variadic) (measure : List (Marked Float) → Except Trap (Marked Float))
    (arguments : List Operand) : Except Fault (Marked Value) := do
  let xs ← arguments.mapM (Marked.nearest f.name)
  return (← (measure xs).mapError .uncaught).map .double

/-- A statistic that is reckoned anew. -/
def reckoned (f : Variadic) (measure : List Float → Except Trap Float) :
    List Operand → Except Fault (Marked Value) :=
  f.statistic fun xs => Marked.plain <$> measure (xs.map Marked.content)

/-- The most frequent argument, as an integer if it equals one. -/
def modeCall (arguments : List Operand) : Except Fault (Marked Value) := do
  let xs ← arguments.mapM (Marked.real mode.name)
  let x ← (Statistics.mode xs).mapError .uncaught
  match x.content.whole? with
  | some n => return .plain (.integer n)
  | none => return x.map Scalar.toValue

def call (f : Variadic) (arguments : List Operand) : Except Fault (Marked Value) :=
  match f with
  | average => average.reckoned Statistics.mean arguments
  | max => max.choice Marked.greatest arguments
  | median => median.statistic Statistics.median arguments
  | min => min.choice Marked.least arguments
  | mode => modeCall arguments
  | stdev => stdev.reckoned (fun xs => Float.sqrt <$> Statistics.variance xs) arguments
  | variance => variance.reckoned Statistics.variance arguments

end Variadic

end Reckoner

namespace Reckoner.Builtin

/-- The value of a call. The limit is the greatest argument of the factorials. -/
def call (limit : Int) (f : Builtin) (arguments : List Operand) : Evaluation (Marked Value) :=
  match f with
  | unary f => do
    return .plain (← Evaluation.ofExcept (f.call limit (arguments.map Marked.content)))
  | binary f => do
    return .plain (← Evaluation.ofExcept (f.call (arguments.map Marked.content)))
  | variadic f => Evaluation.ofExcept (f.call arguments)
  | clamp => Evaluation.ofExcept (clampCall arguments)
  | random => RandomSource.draw

end Reckoner.Builtin
