import Reckoner.Fault.Basic
import Reckoner.Token.Basic

/-!
From the order in which an expression is written to the order in which it is evaluated: operands
first, then the operator or function that is applied to them. Operators, functions and open
parentheses wait on a stack until their operands are complete; what is complete is given out.
-/
namespace Reckoner.PostOrder

/-- An open parenthesis: whether it opens the arguments of a function, how many commas it directly
holds, and whether it holds anything else. -/
structure Paren where
  isCall : Bool
  commas : Nat
  hasContent : Bool
deriving DecidableEq

namespace Paren

/-- The number of arguments between the parentheses of a call. -/
def argCount (p : Paren) : Nat :=
  if p.hasContent then p.commas + 1 else 0

def addComma (p : Paren) : Paren :=
  { p with commas := p.commas + 1 }

def fill (p : Paren) : Paren :=
  { p with hasContent := true }

end Paren

/-- What waits, last come first, and the open parentheses, innermost first. -/
structure State where
  waiting : List Token
  parens : List Paren
deriving DecidableEq

namespace State

def empty : State := ⟨[], []⟩

/-- The tokens that wait above the innermost open parenthesis. -/
def above (s : State) : List Token :=
  s.waiting.takeWhile fun t => t.kind != .leftParen

/-- The innermost open parenthesis and what waits below it. -/
def fromParen (s : State) : List Token :=
  s.waiting.dropWhile fun t => t.kind != .leftParen

/-- Everything but commas and closing parentheses is content of the parenthesis it stands in. -/
def noteContent (s : State) (t : Token) : State :=
  if t.kind = .comma ∨ t.kind = .rightParen then s
  else { s with parens := s.parens.modifyHead Paren.fill }

def wait (s : State) (t : Token) : State :=
  { s with waiting := t :: s.waiting }

/-- An operator sends out those that are applied before it, and waits. -/
def feedOperator (s : State) (t : Token) : List Token × State :=
  (s.waiting.takeWhile t.appliedBefore,
    { s with waiting := t :: s.waiting.dropWhile t.appliedBefore })

/-- A parenthesis opens the arguments of the function that waits on top, if one does. -/
def feedOpen (s : State) (t : Token) : State :=
  let isCall := s.waiting.head?.any fun f => f.kind = .function
  ⟨t :: s.waiting, ⟨isCall, 0, false⟩ :: s.parens⟩

/-- A comma completes the argument before it. -/
def feedComma (s : State) (t : Token) : Except SyntaxFault (List Token × State) :=
  match s.fromParen with
  | [] => .error (.strayComma t.position)
  | rest => .ok (s.above, ⟨rest, s.parens.modifyHead Paren.addComma⟩)

/-- The function in front of closed parentheses, with the number of arguments if they opened its
call, and what waits below it. -/
def takeFunction (paren : Option Paren) : List Token → List Token × List Token
  | [] => ([], [])
  | f :: rest =>
    if f.kind = .function then
      match paren with
      | some p =>
        ([if p.isCall then { f with argCount := some (p.argCount : Int) } else f], rest)
      | none => ([f], rest)
    else ([], f :: rest)

/-- A closing parenthesis completes what stands between it and its partner, and with it the call of
a function in front. -/
def feedClose (s : State) (t : Token) : Except SyntaxFault (List Token × State) :=
  match s.fromParen with
  | [] => .error (.unmatchedClose t.position)
  | _ :: below =>
    let (applied, waiting) := takeFunction s.parens.head? below
    .ok (s.above ++ applied, ⟨waiting, s.parens.tail⟩)

/-- Takes the next token, and gives out what is complete with it. -/
def feed (s : State) (t : Token) : Except SyntaxFault (List Token × State) :=
  let s := s.noteContent t
  match t.kind with
  | .number | .variableName | .constant => .ok ([t], s)
  | .function => .ok ([], s.wait t)
  | .operator | .unaryMinus => .ok (s.feedOperator t)
  | .leftParen => .ok ([], s.feedOpen t)
  | .comma => s.feedComma t
  | .rightParen => s.feedClose t

/-- Takes tokens one after the other. -/
def feedAll (s : State) : List Token → Except SyntaxFault (List Token × State)
  | [] => .ok ([], s)
  | t :: ts => do
    let (first, s) ← s.feed t
    let (rest, s) ← s.feedAll ts
    return (first ++ rest, s)

/-- At the end of the tokens everything that waits is complete, unless a parenthesis is open. -/
def finish (s : State) : Except SyntaxFault (List Token) :=
  match s.waiting.find? fun t => t.kind = .leftParen with
  | some p => .error (.unclosedOpen p.position)
  | none => .ok s.waiting

end State

/-- The tokens of an expression in the order of evaluation. -/
def ofTokens (tokens : List Token) : Except SyntaxFault (List Token) := do
  let (first, s) ← State.empty.feedAll tokens
  return first ++ (← s.finish)

end Reckoner.PostOrder
