import Reckoner.Token.Tree

namespace Reckoner.Token

/-- How many parentheses are open behind a token if `depth` are open in front of it. There is no
answer if it closes one that is not open. -/
def Kind.depthBehind? (depth : Nat) : Kind → Option Nat
  | leftParen => some (depth + 1)
  | rightParen =>
    match depth with
    | 0 => none
    | depth + 1 => some depth
  | _ => some depth

/-- How many parentheses are open behind tokens if `depth` are open in front of them. -/
def depthBehind? (depth : Nat) (ts : List Token) : Option Nat :=
  ts.foldlM (fun depth t => t.kind.depthBehind? depth) depth

/-- The parentheses among the tokens belong together in pairs. -/
def Balanced (ts : List Token) : Prop :=
  depthBehind? 0 ts = some 0

/-- What stands in front of the parenthesis that closes one more than the `depth` that are open. -/
def enclosed (depth : Nat) : List Token → List Token
  | [] => []
  | t :: ts =>
    match t.kind.depthBehind? depth with
    | some depth => t :: enclosed depth ts
    | none => []

/-- The number of commas that stand in no parentheses, if `depth` are open in front. -/
def directCommas (depth : Nat) : List Token → Nat
  | [] => 0
  | t :: ts =>
    (if t.kind = .comma ∧ depth = 0 then 1 else 0) +
      directCommas ((t.kind.depthBehind? depth).getD 0) ts

/-- How many arguments stand between the parentheses of a call: none if there is nothing but commas,
else one more than there are commas directly between them. -/
def argumentsBetween (inner : List Token) : Nat :=
  if ∀ t ∈ inner, t.kind = .comma then 0 else directCommas 0 inner + 1

/-- The number of arguments of a function with the tokens behind it, if they start with the
parentheses of a call. -/
def writtenCount : List Token → Option Int
  | left :: rest =>
    if left.kind = .leftParen then some (argumentsBetween (enclosed 0 rest)) else none
  | [] => none

/-- The functions among the tokens that stand at a position. -/
def functionsAt (position : Int) (ts : List Token) : List Token :=
  ts.filter fun t => t.kind = .function ∧ t.position = position

/-- The tokens without parentheses and commas, each function with the number of arguments that its
call is written with. -/
def counted : List Token → List Token
  | [] => []
  | t :: ts =>
    if t.IsMark then counted ts
    else if t.kind = .function then { t with argCount := writtenCount ts } :: counted ts
    else t :: counted ts

end Reckoner.Token
