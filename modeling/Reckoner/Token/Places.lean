import Reckoner.Token.Basic

/-!
The places between the tokens of an expression: in front of the first one, between neighbours, and
behind the last one. Wherever no operand has ended one has to come, and wherever one has ended none
may follow at once.
-/
namespace Reckoner.Token

/-- An operand can start with this token. -/
def Kind.startsOperand : Kind → Bool
  | number | variableName | constant | function | leftParen | unaryMinus => true
  | operator | rightParen | comma => false

/-- What stands on both sides of a place. -/
abbrev Place := Option Kind × Option Kind

namespace Place

/-- One operand ends and the next one starts. -/
def isCrowded (p : Place) : Bool :=
  p.1.any Kind.endsOperand && p.2.any Kind.startsOperand

/-- Nothing stands between parentheses. -/
def isHollow (p : Place) : Bool :=
  p.1 == some .leftParen && p.2 == some .rightParen

/-- No operand starts where one has to come. -/
def isGap (p : Place) : Bool :=
  !p.1.any Kind.endsOperand && !p.2.any Kind.startsOperand && !p.isHollow

end Place

/-- All places from the one behind `previous` on. -/
def places (previous : Option Kind) : List Token → List Place
  | [] => [(previous, none)]
  | t :: ts => (previous, some t.kind) :: places (some t.kind) ts

/-- The number of places of a sort. -/
def countPlaces (p : Place → Bool) (ts : List Token) : Nat :=
  (places none ts).countP p

/-- How many places for arguments are opened: one by every function, one by every comma. -/
def openedPlaces (ts : List Token) : Nat :=
  ts.countP fun t => t.kind = .function ∨ t.kind = .comma

/-- No number stands right behind an operand. -/
def NumbersApart (ts : List Token) : Prop :=
  ∀ before p t behind, ts = before ++ p :: t :: behind → p.kind.endsOperand → t.kind ≠ .number

/-- Every binary operator stands right behind the end of an operand and right in front of the start
of one. -/
def OperatorsBetween (ts : List Token) : Prop :=
  ∀ before t behind, ts = before ++ t :: behind → t.kind = .operator →
    (∃ p ∈ before.getLast?, p.kind.endsOperand) ∧ ∃ n ∈ behind.head?, n.kind.startsOperand

end Reckoner.Token
