/-!
Failures of a primitive: of a numeric function, of a look-up, or because something is no number.
Most of the numeric ones are caught where the primitive is called and reported as a failure of the
operation at hand. That calls run out of room is no failure of a primitive, and never caught.
-/
namespace Reckoner

inductive Foreign where
  | text (s : String)
  | nothing
deriving DecidableEq

namespace Foreign

/-- The type in the messages. -/
def typeName : Foreign → String
  | text _ => "str"
  | nothing => "NoneType"

end Foreign

inductive Trap where
  /-- The function has no value at its argument. -/
  | domain
  /-- The result lies beyond the finite doubles. -/
  | range
  /-- An integer lies beyond the finite doubles. -/
  | wideInteger
  | integerOfInfinity
  | integerOfNaN
  /-- A double is divided by zero. -/
  | floatDivision
  /-- An integer is divided by zero. -/
  | integerDivision
  /-- Zero is raised to an exponent for which it has no power. -/
  | powerOfZero
  /-- A complex power lies beyond the finite doubles. -/
  | complexPower
  /-- A square lies beyond the finite doubles. -/
  | square
  /-- The argument of a factorial does not fit into a word. -/
  | wideFactorial
  /-- Calls are open inside one another for which there is no room. -/
  | tooDeep
  /-- The function chooses among its arguments and has none. -/
  | noChoice (function : String)
  /-- A list has no item at a place. -/
  | listIndex
  /-- A text has no character at a place. -/
  | textIndex
  | tooFewValues (expected count : Nat)
  | tooManyValues (expected : Nat)
  /-- At most so many results are asked for. -/
  | noResults (limit : Int)
  /-- A part that every number has is asked for. -/
  | noPart (stranger : Foreign) (part : String)
  | notNumber (stranger : Foreign)
  /-- A number in the complex plane is asked for. -/
  | notLiftable (stranger : Foreign)
  /-- A bare number is asked for. -/
  | notWrappable (stranger : Foreign)
deriving DecidableEq

namespace Trap

inductive Kind where
  | value
  | overflow
  | zeroDivision
  | index
  | type
  | attribute
  | recursion
deriving DecidableEq

def kind : Trap → Kind
  | domain | integerOfNaN | noChoice _ | tooFewValues _ _ | tooManyValues _ | noResults _ => .value
  | range | wideInteger | integerOfInfinity | complexPower | square | wideFactorial => .overflow
  | floatDivision | integerDivision | powerOfZero => .zeroDivision
  | listIndex | textIndex => .index
  | notNumber _ | notLiftable _ | notWrappable _ => .type
  | noPart _ _ => .attribute
  | tooDeep => .recursion

def message : Trap → String
  | domain => "math domain error"
  | range => "math range error"
  | wideInteger => "int too large to convert to float"
  | integerOfInfinity => "cannot convert float infinity to integer"
  | integerOfNaN => "cannot convert float NaN to integer"
  | floatDivision => "float division by zero"
  | integerDivision => "division by zero"
  | powerOfZero => "0.0 to a negative or complex power"
  | complexPower => "complex exponentiation"
  | square => "(34, 'Numerical result out of range')"
  | wideFactorial => "factorial() argument should not exceed 9223372036854775807"
  | tooDeep => "maximum recursion depth exceeded"
  | noChoice function => function ++ "() arg is an empty sequence"
  | listIndex => "list index out of range"
  | textIndex => "string index out of range"
  | tooFewValues expected count =>
    "not enough values to unpack (expected " ++ toString expected ++ ", got " ++ toString count ++
      ")"
  | tooManyValues expected => "too many values to unpack (expected " ++ toString expected ++ ")"
  | noResults limit => "n must be > 0: " ++ toString limit
  | noPart stranger part => "'" ++ stranger.typeName ++ "' object has no attribute '" ++ part ++ "'"
  | notNumber stranger => "Not an fnexpr number: " ++ stranger.typeName
  | notLiftable stranger => "Cannot convert " ++ stranger.typeName ++ " to FnExprComplex"
  | notWrappable stranger => "Unexpected numeric type: " ++ stranger.typeName

end Trap

end Reckoner
