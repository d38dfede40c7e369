import Reckoner.Bindings
import Reckoner.Builtin.Call
import Reckoner.Token.Basic

/-!
Evaluation of tokens in post-order. Operands go on a stack; operators and functions take their
operands off its top and put their result there. In the end exactly one value must be left.
-/
namespace Reckoner

/-- What an expression is evaluated in. -/
structure Environment where
  factorialLimit : Int
  bindings : Bindings

namespace Evaluation

/-- Operands that wait for their operator, the last first. -/
abbrev Stack := List Operand

/-- A number as an operand. -/
def operand (v : Marked Value) : Operand :=
  v.map .number

/-- What is reckoned anew from operands. -/
def reckoned (result : Except Fault Value) : Evaluation Operand := do
  return .plain (.number (← ofExcept result))

/-- The names that an undefined variable might be mistaken for. -/
def knownNames (env : Environment) : List String :=
  env.bindings.names ++ Constant.names

def variableNamed (env : Environment) (name : String) : Evaluation Operand :=
  match env.bindings.get? name with
  | some v => pure (operand v)
  | none => throw (.naming (.undefinedVariable name (knownNames env)))

def constantNamed (name : String) : Evaluation Operand :=
  match Constant.ofName? name with
  | some c => pure (operand (.plain c.value))
  | none => throw (.naming (.unknownConstant name))

/-- The operand that a number token stands for. It is nothing if the token has no value. -/
def numberOf (t : Token) : Operand :=
  match t.number with
  | some v => operand (.plain v)
  | none => .plain (.foreign .nothing)

def applySign (t : Token) : Stack → Evaluation Stack
  | x :: stack => do return (← reckoned x.content.neg) :: stack
  | [] => throw (.structural (.missingNegand t.position))

def applyOperator (t : Token) : Stack → Evaluation Stack
  | r :: l :: stack =>
    match Operator.ofSymbol? t.lexeme with
    | some op => do return (← reckoned (Datum.apply op l.content r.content)) :: stack
    | none => throw (.structural (.unknownOperator t.lexeme t.position))
  | _ => throw (.structural (.missingOperand t.lexeme t.position))

/-- How many values a call takes: as many as the function has arguments, or as the call was written
with. -/
def argumentCount (f : Builtin) (t : Token) : Int :=
  match f.arity with
  | .exactly n => n
  | .atLeast _ => t.argCount.getD 0

/-- The fault of a function that finds fewer values on the stack than it takes. -/
def missingArguments (f : Builtin) (t : Token) (available : Nat) (needed : Int) : StructureFault :=
  match f with
  | .unary _ => .missingArgument t.lexeme t.position
  | _ => .missingArguments t.lexeme t.position available needed

/-- A function takes its arguments off the stack, if there are enough for it. -/
def applyBuiltin (env : Environment) (t : Token) (f : Builtin) (stack : Stack) :
    Evaluation Stack := do
  let count := argumentCount f t
  if stack.length < count then throw (.structural (missingArguments f t stack.length count))
  if count < f.arity.least then
    throw (.domain (.tooFewArguments t.lexeme f.arity.least count t.position))
  let v ← f.call env.factorialLimit (stack.take count.toNat).reverse
  return operand v :: stack.drop count.toNat

def applyFunction (env : Environment) (t : Token) (stack : Stack) : Evaluation Stack :=
  match Builtin.ofName? t.lexeme with
  | some f => applyBuiltin env t f stack
  | none => throw (.naming (.unknownFunction t.lexeme t.position))

/-- What one token does to the stack. -/
def step (env : Environment) (stack : Stack) (t : Token) : Evaluation Stack :=
  match t.kind with
  | .number => pure (numberOf t :: stack)
  | .constant => do return (← constantNamed t.lexeme) :: stack
  | .variableName => do return (← variableNamed env t.lexeme) :: stack
  | .unaryMinus => applySign t stack
  | .operator => applyOperator t stack
  | .function => applyFunction env t stack
  | .leftParen | .rightParen | .comma =>
    throw (.structural (.unexpectedToken t.lexeme t.position))

/-- What tokens do to the stack, one after the other. -/
def execute (env : Environment) (stack : Stack) (tokens : List Token) : Evaluation Stack :=
  tokens.foldlM (step env) stack

/-- The number that is left at the end. -/
def result (x : Operand) : Evaluation (Marked Value) := do
  return ⟨← ofExcept (x.content.withPart "describe"), x.mark⟩

/-- The value that tokens in post-order reduce to. -/
def value (env : Environment) (tokens : List Token) : Evaluation (Marked Value) := do
  match ← execute env [] tokens with
  | [x] => result x
  | stack => throw (.structural (.notOneValue stack.length))

end Evaluation

end Reckoner
