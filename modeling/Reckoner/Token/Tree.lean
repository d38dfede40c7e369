import Reckoner.Text.Class
import Reckoner.Token.Basic
import Reckoner.Value.Arithmetic

namespace Reckoner.Token

/-- The characters that a token is written with. -/
def spelling (t : Token) : List Char :=
  match t.kind with
  | .unaryMinus => ['-']
  | _ => t.lexeme.toList

/-- The text is the tokens in their order, with white space in between, and with any white space
around them all. -/
inductive Spelled : List Token → List Char → Prop where
  | blank {space : List Char} (space_blank : ∀ c ∈ space, Text.isBlank c) : Spelled [] space
  | last {t : Token} {before behind : List Char} (before_blank : ∀ c ∈ before, Text.isBlank c)
      (behind_blank : ∀ c ∈ behind, Text.isBlank c) :
      Spelled [t] (before ++ (t.spelling ++ behind))
  | more {t next : Token} {rest : List Token} {before text : List Char} {separator : Char}
      (before_blank : ∀ c ∈ before, Text.isBlank c) (separator_blank : Text.isBlank separator)
      (spelled : Spelled (next :: rest) text) :
      Spelled (t :: next :: rest) (before ++ (t.spelling ++ separator :: text))

/-- The second list is the first without some signs of products, each in front of a token that
starts a factor. -/
inductive Condensed : List Token → List Token → Prop where
  | nil : Condensed [] []
  | keep {t : Token} {full short : List Token} (rest : Condensed full short) :
      Condensed (t :: full) (t :: short)
  | leaveOut {sign factor : Token} {full short : List Token} (sign_kind : sign.kind = .operator)
      (sign_lexeme : sign.lexeme = Operator.mul.symbol) (starts : factor.kind.startsFactor)
      (rest : Condensed (factor :: full) (factor :: short)) :
      Condensed (sign :: factor :: full) (factor :: short)

/-- An expression, each part with the token that stands for it. Parentheses and commas only serve
to write it down. -/
inductive Tree where
  | operand (t : Token)
  | negation (sign : Token) (operand : Tree)
  | operation (operator : Token) (left right : Tree)
  | call (function : Token) (arguments : List Tree)

/-- The tokens that stand for a value by themselves. -/
def isOperand (t : Token) : Bool :=
  match t.kind with
  | .number | .constant | .variableName => true
  | _ => false

/-- A sign in front of an operand. -/
def isSign (t : Token) : Bool :=
  t.kind == .unaryMinus && t.lexeme == negation

/-- One of the binary operators. -/
def isBinary (t : Token) : Bool :=
  t.kind == .operator && (Operator.ofSymbol? t.lexeme).isSome

/-- Parentheses and commas only serve to write an expression down. -/
def IsMark (t : Token) : Prop :=
  t.kind = .leftParen ∨ t.kind = .rightParen ∨ t.kind = .comma

instance (t : Token) : Decidable t.IsMark :=
  inferInstanceAs (Decidable (_ ∨ _))

/-- How tightly the left operand of an operator has to hold together. -/
def leftStrength (t : Token) : Nat :=
  if t.isLeftAssociative then t.precedence else t.precedence + 1

/-- How tightly the right operand of an operator has to hold together. -/
def rightStrength (t : Token) : Nat :=
  if t.isLeftAssociative then t.precedence + 1 else t.precedence

mutual

/-- `Written strength tree tokens`: the tokens write the tree down where nothing that binds weaker
than `strength` may stand without parentheses. Parentheses may stand around everything. -/
inductive Written : Nat → Tree → List Token → Prop where
  | operand {strength : Nat} {t : Token} (operand : t.isOperand) :
      Written strength (.operand t) [t]
  | negation {strength : Nat} {sign : Token} {tree : Tree} {tokens : List Token}
      (sign_isSign : sign.isSign) (binds : strength ≤ sign.precedence)
      (written : Written sign.precedence tree tokens) :
      Written strength (.negation sign tree) (sign :: tokens)
  | operation {strength : Nat} {operator : Token} {left right : Tree} {before behind : List Token}
      (operator_isBinary : operator.isBinary) (binds : strength ≤ operator.precedence)
      (left_written : Written operator.leftStrength left before)
      (right_written : Written operator.rightStrength right behind) :
      Written strength (.operation operator left right) (before ++ operator :: behind)
  | call {strength : Nat} {function left right : Token} {trees : List Tree} {tokens : List Token}
      (function_kind : function.kind = .function)
      (left_kind : left.kind = .leftParen) (right_kind : right.kind = .rightParen)
      (written : WrittenList trees tokens) :
      Written strength (.call function trees) (function :: left :: (tokens ++ [right]))
  | group {strength : Nat} {left right : Token} {tree : Tree} {tokens : List Token}
      (left_kind : left.kind = .leftParen) (right_kind : right.kind = .rightParen)
      (written : Written 0 tree tokens) :
      Written strength tree (left :: (tokens ++ [right]))

/-- The arguments of a call, with commas in between. -/
inductive WrittenList : List Tree → List Token → Prop where
  | none : WrittenList [] []
  | one {tree : Tree} {tokens : List Token} (written : Written 0 tree tokens) :
      WrittenList [tree] tokens
  | more {tree next : Tree} {trees : List Tree} {comma : Token} {tokens behind : List Token}
      (written : Written 0 tree tokens) (comma_kind : comma.kind = .comma)
      (rest : WrittenList (next :: trees) behind) :
      WrittenList (tree :: next :: trees) (tokens ++ comma :: behind)

end

namespace Tree

mutual

/-- Operands in the order in which they are written, and whatever is applied to them right behind
them. A function knows how many arguments it has. -/
def postOrder : Tree → List Token
  | operand t => [t]
  | negation sign tree => tree.postOrder ++ [sign]
  | operation operator left right => left.postOrder ++ (right.postOrder ++ [operator])
  | call function arguments =>
    postOrderList arguments ++ [{ function with argCount := some (arguments.length : Int) }]

/-- Several trees, one after the other. -/
def postOrderList : List Tree → List Token
  | [] => []
  | tree :: trees => tree.postOrder ++ postOrderList trees

end

end Tree

end Reckoner.Token
