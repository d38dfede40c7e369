import Reckoner.Evaluation
import Reckoner.Token.Scan
import Reckoner.Token.Tree

/-!
Expressions and their values. The value of an expression is found from the values of its parts,
from left to right, without any stack.
-/
namespace Reckoner

inductive Expression where
  | numeral (digits : List Char)
  | variableNamed (name : String)
  | constant (c : Constant)
  | negation (e : Expression)
  | operation (op : Operator) (l r : Expression)
  | call (f : Builtin) (arguments : List Expression)

namespace Expression

/-- A function of any number of arguments looks at how many they are when it has got them. -/
def applyBuiltin (env : Environment) (f : Builtin) (values : List Operand) :
    Evaluation Operand := do
  if values.length < f.arity.least then
    throw (.domain (.tooFewArguments f.name f.arity.least values.length 0))
  return Evaluation.operand (← f.call env.factorialLimit values)

mutual

/-- The value of an expression. Operands are evaluated from left to right before what is applied to
them. -/
def operand (env : Environment) : Expression → Evaluation Operand
  | numeral digits => pure (Evaluation.operand (.plain (Token.literal digits)))
  | variableNamed name => Evaluation.variableNamed env name
  | constant c => pure (Evaluation.operand (.plain c.value))
  | negation e => do
    let x ← e.operand env
    Evaluation.reckoned x.content.neg
  | operation op l r => do
    let x ← l.operand env
    let y ← r.operand env
    Evaluation.reckoned (Datum.apply op x.content y.content)
  | call f arguments => do
    let values ← operandList env arguments
    applyBuiltin env f values

/-- The values of several expressions. -/
def operandList (env : Environment) : List Expression → Evaluation (List Operand)
  | [] => pure []
  | e :: es => do
    let x ← e.operand env
    let xs ← operandList env es
    return x :: xs

end

/-- The value of an expression, as a number. -/
def value (env : Environment) (e : Expression) : Evaluation (Marked Value) := do
  Evaluation.result (← e.operand env)

/-- A token that stands anywhere. -/
def token (kind : Token.Kind) (lexeme : String) : Token :=
  ⟨kind, lexeme, 0, none, none⟩

/-- The token of a function. -/
def functionToken (f : Builtin) : Token :=
  token .function f.name

mutual

/-- The tokens of an expression, as a tree. -/
def tree : Expression → Token.Tree
  | numeral digits =>
    .operand { token .number (String.ofList digits) with number := some (Token.literal digits) }
  | variableNamed name => .operand (token .variableName name)
  | constant c => .operand (token .constant c.name)
  | negation e => .negation (token .unaryMinus Token.negation) e.tree
  | operation op l r => .operation (token .operator op.symbol) l.tree r.tree
  | call f arguments => .call (functionToken f) (treeList arguments)

/-- The trees of several expressions. -/
def treeList : List Expression → List Token.Tree
  | [] => []
  | e :: es => e.tree :: treeList es

end

/-- Digits with at most one point among them, which has a digit beside it. -/
def IsNumeral (cs : List Char) : Prop :=
  cs ≠ [] ∧ cs.all Char.isDigit ∨
    ∃ whole fraction, cs = whole ++ '.' :: fraction ∧ (whole ++ fraction) ≠ [] ∧
      (whole ++ fraction).all Char.isDigit

/-- A letter and then letters and digits, but no name of a function or a constant. -/
def IsVariableName (name : String) : Prop :=
  (∃ c rest, name.toList = c :: rest ∧ Text.isLetter c ∧ rest.all Token.isNameChar) ∧
    Lexicon.builtin.kindOf name = .variableName

mutual

/-- An expression that can be written down: numerals are numerals, variables can have their names,
and functions have as many arguments as they take. -/
def IsWritable : Expression → Prop
  | numeral digits => IsNumeral digits
  | variableNamed name => IsVariableName name
  | constant _ => True
  | negation e => e.IsWritable
  | operation _ l r => l.IsWritable ∧ r.IsWritable
  | call f arguments => f.arity.Admits arguments.length ∧ AreWritable arguments

/-- Several expressions that can be written down. -/
def AreWritable : List Expression → Prop
  | [] => True
  | e :: es => e.IsWritable ∧ AreWritable es

end

/-- The parentheses and the comma that expressions are written with. -/
def marks : List Token :=
  [token .leftParen "(", token .rightParen ")", token .comma ","]

/-- The text writes the expression down: with parentheses where they are needed and anywhere else,
with white space between all tokens, and with or without the signs of products whose right factor
starts with a name, a call or a parenthesis. -/
def WrittenAs (e : Expression) (text : List Char) : Prop :=
  ∃ full short, Token.Written 0 e.tree full ∧ (∀ t ∈ full, t.IsMark → t ∈ marks) ∧
    Token.Condensed full short ∧ Token.Spelled short text

end Expression

end Reckoner
