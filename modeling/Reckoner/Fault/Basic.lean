import Reckoner.Builtin.Basic
import Reckoner.Fault.Report
import Reckoner.Text.Display
import Reckoner.Trap
import Reckoner.Value.Basic

namespace Reckoner

/-- Faults of the text: characters that belong to no token, and parentheses and commas that do not
match. -/
inductive SyntaxFault where
  | invalidCharacter (text : List Char) (position : Nat) (c : Char)
  | strayComma (position : Int)
  | unmatchedClose (position : Int)
  | unclosedOpen (position : Int)
deriving DecidableEq

/-- Faults of names. An undefined variable comes with the names that it might be mistaken for. -/
inductive NameFault where
  | undefinedVariable (name : String) (known : List String)
  | unknownConstant (name : String)
  | unknownFunction (name : String) (position : Int)
deriving DecidableEq

/-- Faults of an expression that does not reduce to one value. -/
inductive StructureFault where
  | missingNegand (position : Int)
  | missingOperand (symbol : String) (position : Int)
  | unknownOperator (symbol : String) (position : Int)
  | missingArgument (function : String) (position : Int)
  | missingArguments (function : String) (position : Int) (available : Nat) (needed : Int)
  | unexpectedToken (lexeme : String) (position : Int)
  | notOneValue (count : Nat)
deriving DecidableEq

/-- Faults of numbers: an operation meets operands for which it has no value. -/
inductive DomainFault where
  | wideInteger (n : Int)
  | divisionByZero (divisor : Value)
  | complexDivisionByZero (divisor : Value)
  | wideQuotient
  | complexModulo (left right : Value)
  | moduloByZero (divisor : Value)
  | complexBase (base : Value)
  | complexPower (base exponent : Value) (trap : Trap)
  | wideIntegerPower (base exponent : Int)
  | zeroToNegative (base exponent : Scalar)
  | widePower (base exponent : Scalar)
  | fractionalPowerOfNegative (base exponent : Scalar)
  | notReal (function : String) (argument : Value)
  | notWhole (function : String) (argument : Value)
  | failedCall (function : String) (arguments : List Value) (trap : Trap)
  | logarithmOfZero (argument : Value)
  | logarithmOfNonPositive (argument : Value)
  | arcsineDomain (argument : Value)
  | arccosineDomain (argument : Value)
  | acoshDomain (argument : Value)
  | atanhDomain (argument : Value)
  | notNatural (label function : String) (argument : Value)
  | beyondLimit (label function : String) (argument : Value) (limit : Int)
  | gammaPole (argument : Value)
  | fractionByZero (numerator denominator : Value)
  | wideFraction (numerator denominator : Value)
  | logOfNonPositive (argument base : Value)
  | logBase (base : Value)
  | clampBounds (low high : Value)
  | tooFewArguments (function : String) (least : Nat) (count position : Int)
deriving DecidableEq

inductive Fault where
  | syntactic (fault : SyntaxFault)
  | naming (fault : NameFault)
  | structural (fault : StructureFault)
  | domain (fault : DomainFault)
  /-- A primitive fails where no operation catches it. -/
  | uncaught (trap : Trap)
deriving DecidableEq

def SyntaxFault.report : SyntaxFault → Report
  | invalidCharacter text position c =>
    { message := "Invalid character: " ++ c.toString ++ " at position " ++ toString position
      position := some position
      received := some ("Character: " ++ Text.quoted c.toString ++
        " (code " ++ toString c.toNat ++ ")")
      expected := some "Digits, letters, operators + - * / ^ %, parentheses or commas"
      usage := some "Valid: 2x + sin(pi/4)\nInvalid: 2 # 3, x = [1]"
      context := some (Text.excerpt text position 10) }
  | strayComma position =>
    { message := "Mismatched comma or parentheses"
      position := some position
      received := some "',' outside of a function's argument list"
      expected := some "Commas only between function arguments"
      usage := some "Correct: max(1, 2)\nIncorrect: 1, 2" }
  | unmatchedClose position =>
    { message := "Mismatched parentheses"
      position := some position
      received := some "')' without a matching '('"
      suggestion := some "Remove the extra ')' or add the missing '('" }
  | unclosedOpen position =>
    { message := "Mismatched parentheses"
      position := some position
      received := some "'(' that is never closed"
      suggestion := some "Add the missing ')'" }

def NameFault.report : NameFault → Report
  | undefinedVariable name known =>
    { message := "Undefined variable: " ++ name
      received := some ("Name: " ++ name)
      suggestion := some ((Suggestion.hint? name known).getD
        ("Assign a value first, e.g. " ++ name ++ " = 1"))
      context := some "Variables must be assigned before they are used" }
  | unknownConstant name => { message := "Unknown constant: " ++ name }
  | unknownFunction name position =>
    { message := "Unknown function: " ++ name
      position := some position
      suggestion := Suggestion.hint? name Builtin.names }

def StructureFault.report : StructureFault → Report
  | missingNegand position =>
    { message := "Invalid expression for unary minus"
      position := some position
      expected := some "An operand after '-'" }
  | missingOperand symbol position =>
    { message := "Invalid expression for operator " ++ symbol
      position := some position
      expected := some ("Two operands around '" ++ symbol ++ "'") }
  | unknownOperator symbol position =>
    { message := "Unknown operator: " ++ symbol
      position := some position }
  | missingArgument function position =>
    { message := "Not enough arguments for function " ++ function
      position := some position
      expected := some "1 argument" }
  | missingArguments function position available needed =>
    { message := "Not enough arguments for function " ++ function
      position := some position
      received := some (toString available ++ " available")
      expected := some (toString needed ++ " argument(s)")
      usage := some (Usage.ofFunction function) }
  | unexpectedToken lexeme position =>
    { message := "Unexpected token in postfix expression: " ++ lexeme
      position := some position }
  | notOneValue count =>
    { message := "The expression is malformed"
      received := some (toString count ++ " values left after evaluation")
      expected := some "Exactly one value"
      suggestion := some "Check for missing operators or operands, e.g. '5 + * 2' or '(1, 2)'" }

/-- The number of binary digits of an integer's size. -/
def bitLength (n : Int) : Nat :=
  if n = 0 then 0 else n.natAbs.log2 + 1

namespace DomainFault

def powerText (base exponent : Scalar) : String :=
  base.describe ++ " ^ " ++ exponent.describe

def callText (function : String) (arguments : List Value) : String :=
  function ++ "(" ++ ", ".intercalate (arguments.map Value.describe) ++ ")"

def zeroPowerContext : String :=
  "A zero base with a negative exponent has no value"

/-- Like the report itself, it writes whole numbers out however many digits they have. -/
def report : DomainFault → Report
  | wideInteger n =>
    { message := "Integer is too large to represent as a double"
      received := some ("An integer of " ++ toString (bitLength n) ++ " bits")
      expected := some "An integer within the double range (about 1.8e308)" }
  | divisionByZero divisor =>
    { message := "Division by zero"
      received := some ("Divisor: " ++ divisor.describe)
      expected := some "A non-zero divisor" }
  | complexDivisionByZero divisor =>
    { message := "Division by zero (complex)"
      received := some ("Divisor: " ++ divisor.describe)
      expected := some "A divisor with non-zero magnitude" }
  | wideQuotient => { message := "Division result is too large to represent" }
  | complexModulo left right =>
    { message := "Modulo operation is not supported for complex numbers"
      received := some ("Operands: " ++ left.describe ++ ", " ++ right.describe)
      expected := some "Integer or double operands" }
  | moduloByZero divisor =>
    { message := "Modulo by zero"
      received := some ("Divisor: " ++ divisor.describe)
      expected := some "A non-zero divisor" }
  | complexBase base =>
    { message := "Exponentiation with a complex base is not supported"
      received := some ("Base: " ++ base.describe)
      expected := some "An integer or double base" }
  | complexPower base exponent trap =>
    { message := "Complex exponentiation failed"
      received := some (base.describe ++ " ^ " ++ exponent.describe)
      context := some trap.message }
  | wideIntegerPower base exponent =>
    { message := "Integer exponentiation result is too large"
      received := some (powerText (.integer base) (.integer exponent))
      suggestion := some "Use a double base, e.g. 2.0^100, for an approximate result" }
  | zeroToNegative base exponent =>
    { message := "Division by zero"
      received := some (powerText base exponent)
      context := some zeroPowerContext }
  | widePower base exponent =>
    { message := "Exponentiation overflow"
      received := some (powerText base exponent)
      expected := some "A result within the double range" }
  | fractionalPowerOfNegative base exponent =>
    { message := "Negative base with a fractional exponent"
      received := some (powerText base exponent)
      suggestion := some "Use complex(...) arithmetic or sqrt for roots of negative numbers" }
  | notReal function argument =>
    { message := "Function '" ++ function ++ "' does not support complex numbers"
      received := some ("Argument: " ++ argument.describe)
      expected := some "Integer or double arguments" }
  | notWhole function argument =>
    { message := "Function '" ++ function ++ "' requires integer arguments"
      received := some ("Argument: " ++ argument.describe) }
  | failedCall function arguments trap =>
    { message := "Function '" ++ function ++ "' failed: " ++ trap.message
      received := some ("Arguments: " ++ ", ".intercalate (arguments.map Value.describe)) }
  | logarithmOfZero argument =>
    { message := "Natural logarithm undefined for zero"
      received := some (callText "ln" [argument]) }
  | logarithmOfNonPositive argument =>
    { message := "Natural logarithm undefined for non-positive numbers"
      received := some (callText "ln" [argument])
      expected := some "A positive argument" }
  | arcsineDomain argument =>
    { message := "Arcsine domain error: input must be between -1 and 1"
      received := some (callText "asin" [argument]) }
  | arccosineDomain argument =>
    { message := "Arccosine domain error: input must be between -1 and 1"
      received := some (callText "acos" [argument]) }
  | acoshDomain argument =>
    { message := "Inverse hyperbolic cosine domain error: input must be >= 1"
      received := some (callText "acosh" [argument]) }
  | atanhDomain argument =>
    { message := "Inverse hyperbolic tangent domain error: input must be in (-1, 1)"
      received := some (callText "atanh" [argument]) }
  | notNatural label function argument =>
    { message := label ++ " only defined for non-negative integers"
      received := some (callText function [argument]) }
  | beyondLimit label function argument limit =>
    { message := label ++ " input too large (overflow)"
      received := some (callText function [argument])
      expected := some ("An argument no greater than " ++ toString limit) }
  | gammaPole argument =>
    { message := "Gamma function undefined for zero and negative integers"
      received := some (callText "gamma" [argument]) }
  | fractionByZero numerator denominator =>
    { message := "Division by zero"
      received := some (callText "fraction" [numerator, denominator])
      expected := some "A non-zero denominator" }
  | wideFraction numerator denominator =>
    { message := "Fraction result is too large to represent"
      received := some
        ("fraction(" ++ numerator.variant.name ++ ", " ++ denominator.variant.name ++ ")") }
  | logOfNonPositive argument base =>
    { message := "Logarithm undefined for non-positive numbers"
      received := some (callText "log" [argument, base])
      expected := some "A positive value" }
  | logBase base =>
    { message := "Invalid logarithm base"
      received := some ("Base: " ++ base.describe)
      expected := some "A positive base other than 1" }
  | clampBounds low high =>
    { message := "Minimum value cannot be greater than maximum value"
      received := some ("clamp bounds: " ++ low.describe ++ " > " ++ high.describe) }
  | tooFewArguments function least count position =>
    { message := "Function '" ++ function ++ "' requires at least " ++ toString least ++
        " argument" ++ (if least = 1 then "" else "s") ++ ", got " ++ toString count
      position := some position
      usage := some (Usage.ofFunction function) }

end DomainFault

namespace Fault

/-- What goes wrong, without the particulars. -/
inductive Kind where
  | syntactic
  | naming
  | structural
  | domain
  | uncaught (kind : Trap.Kind)
deriving DecidableEq

def kind : Fault → Kind
  | .syntactic _ => .syntactic
  | .naming _ => .naming
  | .structural _ => .structural
  | .domain _ => .domain
  | .uncaught trap => .uncaught trap.kind

/-- The report of a fault. A trap that nothing catches has its message only. -/
def report : Fault → Report
  | .syntactic fault => fault.report
  | .naming fault => fault.report
  | .structural fault => fault.report
  | .domain fault => fault.report
  | .uncaught trap => { message := trap.message }

def text (fault : Fault) : String :=
  match fault with
  | .uncaught trap => trap.message
  | fault => fault.report.text

/-- Two faults are alike if they are of one kind and have one message, whatever the details. -/
def Alike (f g : Fault) : Prop :=
  f.kind = g.kind ∧ f.report.message = g.report.message

end Fault

end Reckoner
