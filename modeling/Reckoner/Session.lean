import Reckoner.Assignment
import Reckoner.Evaluation
import Reckoner.PostOrder
import Reckoner.Token.Scan

namespace Reckoner

structure Session where
  factorialLimit : Int
  bindings : Bindings
  random : RandomSource

namespace Session

/-- The greatest number whose factorial is still a double. -/
def defaultFactorialLimit : Int := 170

def fresh (factorialLimit : Int) (random : RandomSource) : Session :=
  ⟨factorialLimit, .empty, random⟩

def environment (s : Session) : Environment :=
  ⟨s.factorialLimit, s.bindings⟩

/-- The tokens of an expression in the order of evaluation. -/
def compile (expression : List Char) : Except SyntaxFault (List Token) := do
  PostOrder.ofTokens (← Token.scan Lexicon.builtin expression)

/-- The value of an expression. -/
def expressionValue (env : Environment) (expression : List Char) : Evaluation (Marked Value) := do
  Evaluation.value env (← Evaluation.ofExcept ((compile expression).mapError .syntactic))

/-- The value of an expression or an assignment. An assignment evaluates its right side first, which
may be an assignment again, and binds its name only if there is a value. -/
def calculate (s : Session) (cs : List Char) : Except Fault (Marked Value) × Session :=
  match _h : Assignment.split? cs with
  | none =>
    let (outcome, random) := (expressionValue s.environment cs).outcome s.random
    (outcome, { s with random := random })
  | some (name, right) =>
    match s.calculate right with
    | (.ok v, s) => (.ok (s.bindings.kept v), { s with bindings := s.bindings.put name v })
    | (.error fault, s) => (.error fault, s)
termination_by cs.length
decreasing_by exact Assignment.length_lt_of_split? ‹_›

/-- What a text comes to where there is room for all its assignments. -/
def evaluate (s : Session) (text : String) : Except Fault Value × Session :=
  let (outcome, s) := s.calculate text.toList
  (outcome.map Marked.content, s)

/-- The canonical text of the value. -/
def evaluateText (s : Session) (text : String) : Except Fault String × Session :=
  let (outcome, s) := s.evaluate text
  (outcome.map Value.describe, s)

/-- Evaluates a text where only so many assignments can be open inside one another. Each stays open
until its right side has a value, so with more names in a row the room runs out before anything is
evaluated. -/
def within {α : Type} (room : Nat) (evaluated : Session → String → Except Fault α × Session)
    (s : Session) (text : String) : Except Fault α × Session :=
  if (Assignment.chain text.toList).1.length ≤ room then evaluated s text
  else (.error (.uncaught .tooDeep), s)

def evaluateWithin (room : Nat) (s : Session) (text : String) : Except Fault Value × Session :=
  s.within room evaluate text

def evaluateTextWithin (room : Nat) (s : Session) (text : String) : Except Fault String × Session :=
  s.within room evaluateText text

/-- A thousand calls can be open in all. Some of them are open before an evaluation starts, and the
expression at the end needs some more. -/
def defaultRoom : Nat := 990

def set (s : Session) (name : String) (v : Value) : Session :=
  { s with bindings := s.bindings.bind name v }

def get? (s : Session) (name : String) : Option Value :=
  (s.bindings.get? name).map Marked.content

/-- Whether the variable was defined, and the session without it. -/
def delete (s : Session) (name : String) : Bool × Session :=
  (s.bindings.contains name, { s with bindings := s.bindings.erase name })

def clear (s : Session) : Session :=
  { s with bindings := s.bindings.clear }

/-- Names in quotes, as a list in brackets. -/
def nameList (names : List String) : String :=
  "[" ++ ", ".intercalate (names.map Text.quoted) ++ "]"

/-- The text that shows what is defined. -/
def describe (s : Session) : String :=
  "FnExprEnvironment(variables=" ++ nameList s.bindings.names ++ ", constants=" ++
    nameList Constant.names ++ ", functions=" ++ toString Builtin.names.length ++ ")"

end Session

end Reckoner
