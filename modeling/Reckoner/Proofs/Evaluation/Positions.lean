import Reckoner.Proofs.Evaluation.Outcome
import Reckoner.Proofs.PostOrder.Positions

namespace Reckoner

/-- The fault without the place where it is found. -/
def StructureFault.unplaced : StructureFault → StructureFault
  | missingNegand _ => .missingNegand 0
  | missingOperand symbol _ => .missingOperand symbol 0
  | unknownOperator symbol _ => .unknownOperator symbol 0
  | missingArgument function _ => .missingArgument function 0
  | missingArguments function _ available needed => .missingArguments function 0 available needed
  | unexpectedToken lexeme _ => .unexpectedToken lexeme 0
  | notOneValue count => .notOneValue count

namespace Fault

/-- The fault of an evaluation without the place where it is found. -/
def unplaced : Fault → Fault
  | .naming (.unknownFunction name _) => .naming (.unknownFunction name 0)
  | .structural fault => .structural fault.unplaced
  | .domain (.tooFewArguments function least count _) =>
    .domain (.tooFewArguments function least count 0)
  | fault => fault

theorem kind_unplaced (fault : Fault) : fault.unplaced.kind = fault.kind := by
  cases fault with
  | syntactic fault => rfl
  | naming fault => cases fault <;> rfl
  | structural fault => rfl
  | domain fault => cases fault <;> rfl
  | uncaught trap => rfl

theorem message_unplaced (fault : Fault) :
    fault.unplaced.report.message = fault.report.message := by
  cases fault with
  | syntactic fault => rfl
  | naming fault => cases fault <;> rfl
  | structural fault => cases fault <;> rfl
  | domain fault => cases fault <;> rfl
  | uncaught trap => rfl

theorem alike_of_unplaced {f g : Fault} (h : f.unplaced = g.unplaced) : f.Alike g :=
  ⟨by rw [← kind_unplaced f, h, kind_unplaced], by rw [← message_unplaced f, h, message_unplaced]⟩

end Fault

namespace Evaluation

section Unplaced

variable {α β : Type}

/-- The computation with faults in no place. -/
def unplaced (m : Evaluation α) : Evaluation α :=
  ExceptT.mk (Except.mapError Fault.unplaced <$> m.run)

theorem outcome_unplaced (m : Evaluation α) (random : RandomSource) :
    outcome (unplaced m) random =
      ((outcome m random).1.mapError Fault.unplaced, (outcome m random).2) := rfl

theorem unplaced_bind (m : Evaluation α) (f : α → Evaluation β) :
    unplaced (m >>= f) = unplaced m >>= fun a => unplaced (f a) := by
  refine eq_of_outcome fun random => ?_
  cases hm : outcome m random with
  | mk result later =>
    cases result with
    | error fault =>
      have hu : outcome (unplaced m) random = (.error fault.unplaced, later) := by
        rw [outcome_unplaced, hm]
        rfl
      rw [outcome_unplaced, outcome_bind_of_error hm, outcome_bind_of_error hu]
      rfl
    | ok a =>
      have hu : outcome (unplaced m) random = (.ok a, later) := by
        rw [outcome_unplaced, hm]
        rfl
      rw [outcome_unplaced, outcome_bind_of_ok hm, outcome_bind_of_ok hu, outcome_unplaced]

theorem unplaced_throw (fault : Fault) :
    unplaced (throw fault : Evaluation α) = throw fault.unplaced := rfl

end Unplaced

variable (env : Environment)

theorem applySign_unplaced (t : Token) (stack : Stack) :
    unplaced (applySign t.unplaced stack) = unplaced (applySign t stack) := by
  cases stack <;> rfl

theorem applyOperator_unplaced (t : Token) (stack : Stack) :
    unplaced (applyOperator t.unplaced stack) = unplaced (applyOperator t stack) := by
  match stack with
  | [] => rfl
  | [_] => rfl
  | r :: l :: stack =>
    simp only [applyOperator, Token.lexeme_unplaced]
    cases Operator.ofSymbol? t.lexeme <;> rfl

theorem missingArguments_unplaced (f : Builtin) (t : Token) (available : Nat) (needed : Int) :
    (missingArguments f t.unplaced available needed).unplaced =
      (missingArguments f t available needed).unplaced := by
  cases f <;> rfl

theorem applyFunction_unplaced (t : Token) (stack : Stack) :
    unplaced (applyFunction env t.unplaced stack) = unplaced (applyFunction env t stack) := by
  simp only [applyFunction, Token.lexeme_unplaced]
  cases Builtin.ofName? t.lexeme with
  | none => rfl
  | some f =>
    dsimp only
    by_cases missing : stack.length < argumentCount f t
    · rw [applyBuiltin_of_missing env t.unplaced f missing, applyBuiltin_of_missing env t f missing,
        unplaced_throw, unplaced_throw]
      exact congrArg (fun fault => throw (Fault.structural fault))
        (missingArguments_unplaced f t _ _)
    by_cases few : argumentCount f t < f.arity.least
    · rw [applyBuiltin_of_tooFew env t.unplaced f missing few,
        applyBuiltin_of_tooFew env t f missing few]
      rfl
    · rw [applyBuiltin_of_enough env t.unplaced f missing few,
        applyBuiltin_of_enough env t f missing few]
      rfl

theorem step_unplaced (stack : Stack) (t : Token) :
    unplaced (step env stack t.unplaced) = unplaced (step env stack t) := by
  simp only [step, Token.kind_unplaced]
  cases t.kind with
  | number => rfl
  | constant => rfl
  | variableName => rfl
  | unaryMinus => exact applySign_unplaced t stack
  | operator => exact applyOperator_unplaced t stack
  | function => exact applyFunction_unplaced env t stack
  | leftParen | rightParen | comma => rfl

theorem execute_unplaced (stack : Stack) (ts : List Token) :
    unplaced (execute env stack (ts.map Token.unplaced)) = unplaced (execute env stack ts) := by
  induction ts generalizing stack with
  | nil => rfl
  | cons t ts ih =>
    rw [List.map_cons, execute_cons, execute_cons, unplaced_bind, unplaced_bind, step_unplaced]
    exact congrArg _ (funext ih)

/-- **Positions do not matter to a value.** -/
theorem value_unplaced (ts : List Token) :
    unplaced (value env (ts.map Token.unplaced)) = unplaced (value env ts) := by
  simp only [value, unplaced_bind, execute_unplaced]

/-- Tokens that differ only in their positions have one value. -/
theorem value_congr_unplaced {ts us : List Token}
    (same : ts.map Token.unplaced = us.map Token.unplaced) :
    unplaced (value env ts) = unplaced (value env us) := by
  rw [← value_unplaced, same, value_unplaced]

end Evaluation

end Reckoner
