namespace Reckoner

/-- Functions of one argument. -/
inductive Unary where
  | abs | acos | acosh | asin | asinh | atan | atanh | ceil | cos | cosh | exp | fact | factorial2
  | floor | gamma | ln | round | sign | sin | sinh | sqrt | tan | tanh | trunc
deriving DecidableEq

/-- Functions of two arguments. -/
inductive Binary where
  | complex | fraction | gcd | lcm | log | pow
deriving DecidableEq

/-- Functions of as many arguments as they are called with. -/
inductive Variadic where
  | average | max | median | min | mode | stdev | variance
deriving DecidableEq

inductive Builtin where
  | unary (f : Unary)
  | binary (f : Binary)
  | variadic (f : Variadic)
  | clamp
  | random
deriving DecidableEq

/-- How many arguments a function takes. -/
inductive Arity where
  | exactly (n : Nat)
  | atLeast (n : Nat)
deriving DecidableEq

namespace Arity

/-- The least number of arguments. -/
def least : Arity → Nat
  | exactly n => n
  | atLeast n => n

/-- The numbers of arguments that a call can be written with. A call with too few for a function
that takes any number of them fails when it is evaluated. -/
def Admits : Arity → Nat → Prop
  | exactly n, count => count = n
  | atLeast _, _ => True

end Arity

def Unary.name : Unary → String
  | abs => "abs"
  | acos => "acos"
  | acosh => "acosh"
  | asin => "asin"
  | asinh => "asinh"
  | atan => "atan"
  | atanh => "atanh"
  | ceil => "ceil"
  | cos => "cos"
  | cosh => "cosh"
  | exp => "exp"
  | fact => "fact"
  | factorial2 => "factorial2"
  | floor => "floor"
  | gamma => "gamma"
  | ln => "ln"
  | round => "round"
  | sign => "sign"
  | sin => "sin"
  | sinh => "sinh"
  | sqrt => "sqrt"
  | tan => "tan"
  | tanh => "tanh"
  | trunc => "trunc"

def Binary.name : Binary → String
  | complex => "complex"
  | fraction => "fraction"
  | gcd => "gcd"
  | lcm => "lcm"
  | log => "log"
  | pow => "pow"

namespace Variadic

def name : Variadic → String
  | average => "average"
  | max => "max"
  | median => "median"
  | min => "min"
  | mode => "mode"
  | stdev => "stdev"
  | variance => "variance"

/-- A sample of one has no spread. -/
def least : Variadic → Nat
  | stdev | variance => 2
  | _ => 1

end Variadic

namespace Builtin

def name : Builtin → String
  | unary f => f.name
  | binary f => f.name
  | variadic f => f.name
  | clamp => "clamp"
  | random => "random"

def arity : Builtin → Arity
  | unary _ => .exactly 1
  | binary _ => .exactly 2
  | variadic f => .atLeast f.least
  | clamp => .exactly 3
  | random => .exactly 0

/-- All functions, in the order of their names. -/
def all : List Builtin :=
  [unary .abs, unary .acos, unary .acosh, unary .asin, unary .asinh, unary .atan, unary .atanh,
    variadic .average, unary .ceil, clamp, binary .complex, unary .cos, unary .cosh, unary .exp,
    unary .fact, unary .factorial2, unary .floor, binary .fraction, unary .gamma, binary .gcd,
    binary .lcm, unary .ln, binary .log, variadic .max, variadic .median, variadic .min,
    variadic .mode, binary .pow, random, unary .round, unary .sign, unary .sin, unary .sinh,
    unary .sqrt, variadic .stdev, unary .tan, unary .tanh, unary .trunc, variadic .variance]

def names : List String :=
  all.map name

def ofName? (s : String) : Option Builtin :=
  all.find? fun f => f.name == s

theorem mem_all (f : Builtin) : f ∈ all := by
  cases f with
  | unary f => cases f <;> decide
  | binary f => cases f <;> decide
  | variadic f => cases f <;> decide
  | clamp => decide
  | random => decide

theorem ofName?_name (f : Builtin) : ofName? f.name = some f := by
  cases f with
  | unary f => cases f <;> rfl
  | binary f => cases f <;> rfl
  | variadic f => cases f <;> rfl
  | clamp => rfl
  | random => rfl

theorem name_of_ofName? {s : String} {f : Builtin} (h : ofName? s = some f) : f.name = s := by
  simpa using List.find?_some h

theorem ofName?_eq_none_iff {s : String} : ofName? s = none ↔ s ∉ names := by
  simp only [ofName?, names, List.find?_eq_none, List.mem_map, beq_iff_eq, not_exists, not_and]

end Builtin

end Reckoner
