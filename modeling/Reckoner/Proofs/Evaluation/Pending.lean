import Reckoner.Proofs.Evaluation.Outcome

/-!
Operands that wait below. No token looks at more of the stack than it takes off its top, so a run
above pending operands does what it does without them, and leaves them as they are
(`execute_above`). The one thing they can change is that a token finds enough operands where it
would have found too few.
-/
namespace Reckoner

/-- A token finds fewer operands on the stack than it needs. -/
def StructureFault.IsShortage : StructureFault → Prop
  | missingNegand _ | missingOperand _ _ | missingArgument _ _ | missingArguments _ _ _ _ => True
  | unknownOperator _ _ | unexpectedToken _ _ | notOneValue _ => False

def Fault.IsShortage : Fault → Prop
  | .structural fault => fault.IsShortage
  | .syntactic _ | .naming _ | .domain _ | .uncaught _ => False

namespace Evaluation

/-- What comes of a run above pending operands, beside what comes of it without them: the same with
the operands below, or the same fault. Of a run that is short of operands nothing is said. -/
inductive LeavesBelow (pending : Stack) :
    Except Fault Stack × RandomSource → Except Fault Stack × RandomSource → Prop where
  | ok (stack : Stack) (later : RandomSource) :
      LeavesBelow pending (.ok stack, later) (.ok (stack ++ pending), later)
  | error (fault : Fault) (later : RandomSource) :
      LeavesBelow pending (.error fault, later) (.error fault, later)
  | shortage (fault : Fault) (short : fault.IsShortage) (later : RandomSource)
      (above : Except Fault Stack × RandomSource) :
      LeavesBelow pending (.error fault, later) above

/-- The second computation is the first one above pending operands. -/
def Above (pending : Stack) (m m' : Evaluation Stack) : Prop :=
  ∀ random, LeavesBelow pending (outcome m random) (outcome m' random)

section Above

variable {α : Type} {pending : Stack}

theorem above_pure (stack : Stack) : Above pending (pure stack) (pure (stack ++ pending)) :=
  fun random => .ok stack random

theorem above_throw (fault : Fault) : Above pending (throw fault) (throw fault) :=
  fun random => .error fault random

theorem above_shortage (fault : StructureFault) (short : fault.IsShortage)
    (m : Evaluation Stack) : Above pending (throw (.structural fault)) m :=
  fun random => .shortage (.structural fault) short random _

/-- What comes first and has no stack does the same in both. -/
theorem above_bind_same (m : Evaluation α) {f g : α → Evaluation Stack}
    (h : ∀ a, Above pending (f a) (g a)) : Above pending (m >>= f) (m >>= g) := by
  intro random
  cases hm : outcome m random with
  | mk result later =>
    cases result with
    | ok a =>
      rw [outcome_bind_of_ok hm, outcome_bind_of_ok hm]
      exact h a later
    | error fault =>
      rw [outcome_bind_of_error hm, outcome_bind_of_error hm]
      exact .error fault later

theorem Above.bind {m m' : Evaluation Stack} {f g : Stack → Evaluation Stack}
    (h : Above pending m m') (hfg : ∀ stack, Above pending (f stack) (g (stack ++ pending))) :
    Above pending (m >>= f) (m' >>= g) := by
  intro random
  have first := h random
  cases hm : outcome m random with
  | mk result later =>
    cases hm' : outcome m' random with
    | mk result' later' =>
      rw [hm, hm'] at first
      cases first with
      | ok stack =>
        rw [outcome_bind_of_ok hm, outcome_bind_of_ok hm']
        exact hfg stack later
      | error fault =>
        rw [outcome_bind_of_error hm, outcome_bind_of_error hm']
        exact .error fault later
      | shortage fault short =>
        rw [outcome_bind_of_error hm]
        exact .shortage fault short later _

variable {m m' : Evaluation Stack} {stack : Stack} {fault : Fault} {random later : RandomSource}

theorem Above.outcome_of_ok (h : Above pending m m') (ran : outcome m random = (.ok stack, later)) :
    outcome m' random = (.ok (stack ++ pending), later) := by
  have both := h random
  rw [ran] at both
  generalize outcome m' random = result at both ⊢
  cases both
  rfl

theorem Above.outcome_of_error (h : Above pending m m')
    (failed : outcome m random = (.error fault, later)) (other : ¬ fault.IsShortage) :
    outcome m' random = (.error fault, later) := by
  have both := h random
  rw [failed] at both
  generalize outcome m' random = result at both ⊢
  cases both with
  | error => rfl
  | shortage _ short => exact absurd short other

end Above

variable (env : Environment) (t : Token) (stack pending : Stack)

/-- An operand that is put on the stack is put above what waits there. -/
theorem above_push (m : Evaluation Operand) :
    Above pending (m >>= fun x => pure (x :: stack))
      (m >>= fun x => pure (x :: (stack ++ pending))) :=
  above_bind_same m fun x => above_pure (x :: stack)

theorem applySign_above : Above pending (applySign t stack) (applySign t (stack ++ pending)) := by
  cases stack with
  | nil => exact above_shortage (.missingNegand t.position) trivial _
  | cons x stack => exact above_push stack pending (reckoned x.content.neg)

theorem applyOperator_above :
    Above pending (applyOperator t stack) (applyOperator t (stack ++ pending)) := by
  match stack with
  | [] | [_] => exact above_shortage (.missingOperand t.lexeme t.position) trivial _
  | r :: l :: stack =>
    rw [List.cons_append, List.cons_append, applyOperator, applyOperator]
    cases Operator.ofSymbol? t.lexeme with
    | none => exact above_throw _
    | some op => exact above_push stack pending _

theorem isShortage_missingArguments (f : Builtin) (available : Nat) (needed : Int) :
    (missingArguments f t available needed).IsShortage := by
  cases f <;> trivial

/-- A call that has enough arguments takes them from above what waits below. A count may be
negative, but then it is refused before anything is taken. -/
theorem applyBuiltin_above (f : Builtin) :
    Above pending (applyBuiltin env t f stack) (applyBuiltin env t f (stack ++ pending)) := by
  by_cases missing : stack.length < argumentCount f t
  · rw [applyBuiltin_of_missing env t f missing]
    exact above_shortage _ (isShortage_missingArguments t f _ _) _
  have missing' : ¬ (stack ++ pending).length < argumentCount f t := by
    rw [List.length_append]
    omega
  by_cases few : argumentCount f t < f.arity.least
  · rw [applyBuiltin_of_tooFew env t f missing few, applyBuiltin_of_tooFew env t f missing' few]
    exact above_throw _
  have within : (argumentCount f t).toNat ≤ stack.length := by omega
  rw [applyBuiltin_of_enough env t f missing few, applyBuiltin_of_enough env t f missing' few,
    List.take_append_of_le_length within, List.drop_append_of_le_length within]
  exact above_bind_same _ fun v => above_pure (operand v :: stack.drop (argumentCount f t).toNat)

/-- **One step above pending operands.** -/
theorem step_above : Above pending (step env stack t) (step env (stack ++ pending) t) := by
  unfold step
  cases t.kind with
  | number => exact above_pure (numberOf t :: stack)
  | constant => exact above_push stack pending (constantNamed t.lexeme)
  | variableName => exact above_push stack pending (variableNamed env t.lexeme)
  | unaryMinus => exact applySign_above t stack pending
  | operator => exact applyOperator_above t stack pending
  | function =>
    dsimp only
    unfold applyFunction
    cases Builtin.ofName? t.lexeme with
    | none => exact above_throw _
    | some f => exact applyBuiltin_above env t stack pending f
  | leftParen | rightParen | comma => exact above_throw _

theorem execute_above (tokens : List Token) :
    Above pending (execute env stack tokens) (execute env (stack ++ pending) tokens) := by
  induction tokens generalizing stack with
  | nil => exact above_pure stack
  | cons t tokens ih =>
    rw [execute_cons, execute_cons]
    exact (step_above env t stack pending).bind ih

/-- **A run only touches the top of the stack.** If it comes to an end, it does so above any pending
operands, with the same random numbers, and leaves them below what it ends with. If it fails, and
not for a shortage of operands, it fails above them with the same fault. So the tokens of a part
that has a value put this value on top of whatever waits, and all behind them goes on from there. -/
theorem execute_append_pending (tokens : List Token) (random : RandomSource) :
    (∀ last later, outcome (execute env stack tokens) random = (.ok last, later) →
      outcome (execute env (stack ++ pending) tokens) random = (.ok (last ++ pending), later)) ∧
    (∀ fault later, outcome (execute env stack tokens) random = (.error fault, later) →
      ¬ fault.IsShortage →
      outcome (execute env (stack ++ pending) tokens) random = (.error fault, later)) ∧
    ∀ x later behind, outcome (execute env [] tokens) random = (.ok [x], later) →
      outcome (execute env pending (tokens ++ behind)) random =
        outcome (execute env (x :: pending) behind) later := by
  have above (stack : Stack) := execute_above env stack pending tokens
  refine ⟨fun last later ran => ?_, fun fault later failed other => ?_,
    fun x later behind ran => ?_⟩
  · exact (above stack).outcome_of_ok ran
  · exact (above stack).outcome_of_error failed other
  · rw [execute_append]
    exact outcome_bind_of_ok ((above []).outcome_of_ok ran) _

/-- A call in the right operand of a difference has as many arguments as it is written with, and a
quotient there fails as it does alone, although with what waits there would be operands for more. -/
theorem execute_append_pending_difference :
    outcome (execute ⟨170, .empty⟩ [.plain (.number (.integer 10))]
        ([⟨.number, "2", 7, some (.integer 2), none⟩, ⟨.number, "3", 10, some (.integer 3), none⟩,
          ⟨.function, "max", 3, none, some 2⟩] ++ [⟨.operator, "-", 2, none, none⟩]))
        (.cycle []) = (.ok [.plain (.number (.integer 7))], .cycle []) ∧
      outcome (execute ⟨170, .empty⟩ [.plain (.number (.integer 10))]
        [⟨.number, "2", 7, some (.integer 2), none⟩, ⟨.number, "3", 10, some (.integer 3), none⟩,
          ⟨.function, "max", 3, none, some 2⟩])
        (.cycle []) = (.ok [.plain (.number (.integer 3)), .plain (.number (.integer 10))],
          .cycle []) ∧
      outcome (execute ⟨170, .empty⟩
        [.plain (.number (.integer 0)), .plain (.number (.integer 10))]
        [⟨.number, "2", 7, some (.integer 2), none⟩, ⟨.number, "0", 10, some (.integer 0), none⟩,
          ⟨.operator, "/", 8, none, none⟩, ⟨.operator, "-", 2, none, none⟩])
        (.cycle []) = (.error (.domain (.divisionByZero (.integer 0))), .cycle []) := by
  obtain ⟨ended, _, continued⟩ := execute_append_pending ⟨170, .empty⟩ []
    [.plain (.number (.integer 10))] [⟨.number, "2", 7, some (.integer 2), none⟩,
      ⟨.number, "3", 10, some (.integer 3), none⟩, ⟨.function, "max", 3, none, some 2⟩] (.cycle [])
  obtain ⟨_, stopped, _⟩ := execute_append_pending ⟨170, .empty⟩ [.plain (.number (.integer 0))]
    [.plain (.number (.integer 10))] [⟨.number, "2", 7, some (.integer 2), none⟩,
      ⟨.number, "0", 10, some (.integer 0), none⟩, ⟨.operator, "/", 8, none, none⟩,
      ⟨.operator, "-", 2, none, none⟩] (.cycle [])
  refine ⟨(continued _ _ _ rfl).trans rfl, ended _ _ rfl, stopped _ _ rfl fun short => short⟩

end Evaluation

end Reckoner
