import Reckoner.Builtin.Basic
import Reckoner.Constant
import Reckoner.Text.Display

namespace Reckoner

inductive Token.Kind where
  | number
  | operator
  | unaryMinus
  | function
  | variableName
  | constant
  | leftParen
  | rightParen
  | comma
deriving DecidableEq

/-- A number also carries its value, and a function the number of arguments at its call, once that
is known. -/
structure Token where
  kind : Token.Kind
  lexeme : String
  position : Int
  number : Option Value := none
  argCount : Option Int := none
deriving DecidableEq

namespace Token.Kind

def label : Kind → String
  | number => "NUMBER"
  | operator => "OPERATOR"
  | unaryMinus => "UNARY_MINUS"
  | function => "FUNCTION"
  | variableName => "VARIABLE"
  | constant => "CONSTANT"
  | leftParen => "LPAREN"
  | rightParen => "RPAREN"
  | comma => "COMMA"

def all : List Kind :=
  [number, operator, unaryMinus, function, variableName, constant, leftParen, rightParen, comma]

def ofLabel? (s : String) : Option Kind :=
  all.find? fun k => k.label == s

theorem ofLabel?_label (k : Kind) : ofLabel? k.label = some k := by
  cases k <;> rfl

/-- An operand can end with this token. -/
def endsOperand : Kind → Bool
  | number | variableName | constant | rightParen => true
  | _ => false

/-- After an operand, this token starts a factor without a sign in between. -/
def startsFactor : Kind → Bool
  | variableName | constant | function | leftParen => true
  | _ => false

/-- After this token a minus is a sign. -/
def opensOperand : Kind → Bool
  | operator | unaryMinus | leftParen | comma => true
  | _ => false

/-- Binary operators and the sign. -/
def isOperator : Kind → Bool
  | operator | unaryMinus => true
  | _ => false

end Token.Kind

namespace Token

/-- The lexeme of a minus that is a sign. -/
def negation : String := "u-"

/-- How tightly an operator symbol binds its operands. -/
def strength (symbol : String) : Nat :=
  if symbol = negation then 5
  else if symbol = "^" then 4
  else if symbol = "*" || symbol = "/" || symbol = "%" then 3
  else if symbol = "+" || symbol = "-" then 2
  else 0

def isOperator (t : Token) : Bool :=
  t.kind.isOperator

def precedence (t : Token) : Nat :=
  if t.isOperator then strength t.lexeme else 0

/-- Powers and signs group from the right, all else from the left. -/
def isLeftAssociative (t : Token) : Bool :=
  t.lexeme != negation && t.lexeme != "^"

/-- The waiting operator `top` is applied before `t`: it binds tighter, or as tight and `t` groups
from the left. -/
def appliedBefore (t top : Token) : Bool :=
  top.isOperator &&
    (t.precedence < top.precedence || (top.precedence == t.precedence && t.isLeftAssociative))

/-- The text that shows a token. -/
def describe (t : Token) : String :=
  "FnExprToken(" ++ t.kind.label ++ ", " ++ Text.quoted t.lexeme ++ ", pos=" ++
    toString t.position ++ ")"

end Token

/-- The names that are functions and the names that are constants. -/
structure Lexicon where
  functions : List String
  constants : List String

namespace Lexicon

def builtin : Lexicon := ⟨Builtin.names, Constant.names⟩

/-- What an identifier denotes. A name that is neither a function nor a constant is a variable. -/
def kindOf (lexicon : Lexicon) (name : String) : Token.Kind :=
  if lexicon.functions.contains name then .function
  else if lexicon.constants.contains name then .constant
  else .variableName

end Lexicon

end Reckoner
