import Reckoner.Proofs.Builtin.Faults
import Reckoner.Proofs.Evaluation.Heights

namespace Reckoner

namespace Token

/-- The token says what to do with the stack: it is a number with its value, the name of a constant
or of a variable, the sign, the symbol of an operator, or the name of a function. -/
def isInstruction (t : Token) : Bool :=
  match t.kind with
  | .number => t.number.isSome
  | .constant | .variableName | .unaryMinus => true
  | .operator => (Operator.ofSymbol? t.lexeme).isSome
  | .function => (Builtin.ofName? t.lexeme).isSome
  | .leftParen | .rightParen | .comma => false

end Token

namespace Evaluation

theorem stopsWith_ofExcept {α : Type} {result : Except Fault α} (h : BlamesOperands result) :
    StopsWith Fault.OfOperands (ofExcept result) := by
  intro random fault later stopped
  rw [outcome_ofExcept, Prod.mk.injEq] at stopped
  exact h fault stopped.1

/-- How many operands a token needs on the stack. -/
def needed (t : Token) : Int :=
  match t.kind with
  | .unaryMinus => 1
  | .operator => 2
  | .function => taken t
  | .number | .constant | .variableName | .leftParen | .rightParen | .comma => 0

/-- The fault of a token that finds fewer operands than it needs. -/
def shortage (t : Token) (available : Nat) : StructureFault :=
  match t.kind, Builtin.ofName? t.lexeme with
  | .unaryMinus, _ => .missingNegand t.position
  | .function, some f => missingArguments f t available (argumentCount f t)
  | _, _ => .missingOperand t.lexeme t.position

/-- A shortage is reported where the token stands. -/
theorem position_shortage (t : Token) (available : Nat) :
    (shortage t available).report.position = some t.position := by
  unfold shortage
  split
  · rfl
  · rename_i f _ _
    cases f <;> rfl
  · rfl

/-- What a step on a stack can fail with. -/
inductive StepFault (env : Environment) (stack : Stack) (t : Token) : Fault → Prop where
  | shortage (low : stack.length < needed t) :
      StepFault env stack t (.structural (shortage t stack.length))
  | undefinedVariable (variable_kind : t.kind = .variableName)
      (undefined : env.bindings.get? t.lexeme = none) :
      StepFault env stack t (.naming (.undefinedVariable t.lexeme (knownNames env)))
  | unknownConstant (constant_kind : t.kind = .constant)
      (unknown : Constant.ofName? t.lexeme = none) :
      StepFault env stack t (.naming (.unknownConstant t.lexeme))
  | operands {fault : Fault} (high : needed t ≤ stack.length) (blamed : fault.OfOperands) :
      StepFault env stack t fault

variable (env : Environment) {stack : Stack} {t : Token}

theorem stopsWith_call (limit : Int) (f : Builtin) (arguments : List Operand) :
    StopsWith Fault.OfOperands (f.call limit arguments) := by
  cases f with
  | unary f =>
    exact (stopsWith_ofExcept (f.blamesOperands_call _ _)).bind fun _ => stopsWith_pure _
  | binary f => exact (stopsWith_ofExcept (f.blamesOperands_call _)).bind fun _ => stopsWith_pure _
  | variadic f => exact stopsWith_ofExcept (f.blamesOperands_call _)
  | clamp => exact stopsWith_ofExcept (Builtin.blamesOperands_clampCall _)
  | random =>
    intro random fault later stopped
    cases stopped

theorem stopsWith_result (x : Operand) : StopsWith Fault.OfOperands (result x) :=
  (stopsWith_ofExcept (Datum.blamesOperands_need _ _)).bind fun _ => stopsWith_pure _

/-- What is reckoned from operands and put on the stack can only fail because of them. -/
theorem stopsWith_reckoned {result : Except Fault Value} (h : BlamesOperands result)
    (rest : Stack) :
    StopsWith Fault.OfOperands (reckoned result >>= fun x => pure (x :: rest)) :=
  ((stopsWith_ofExcept h).bind fun _ => stopsWith_pure _).bind fun _ => stopsWith_pure _

theorem applySign_stopsWith (hk : t.kind = .unaryMinus) :
    StopsWith (StepFault env stack t) (applySign t stack) := by
  cases stack with
  | nil =>
    have low : (([] : Stack).length : Int) < needed t := by simp [needed, hk]
    have fault : shortage t 0 = .missingNegand t.position := by simp [shortage, hk]
    exact stopsWith_throw (fault ▸ .shortage low)
  | cons x rest =>
    have high : needed t ≤ ((x :: rest).length : Int) := by
      simp only [needed, hk, List.length_cons]
      omega
    exact (stopsWith_reckoned (Datum.blamesOperands_neg _) rest).mono fun _ => .operands high

theorem applyOperator_stopsWith (hk : t.kind = .operator)
    (known : (Operator.ofSymbol? t.lexeme).isSome) :
    StopsWith (StepFault env stack t) (applyOperator t stack) := by
  have fault (available : Nat) : shortage t available = .missingOperand t.lexeme t.position := by
    simp [shortage, hk]
  match stack with
  | [] | [_] =>
    refine stopsWith_throw (fault _ ▸ .shortage ?_)
    simp [needed, hk]
  | r :: l :: rest =>
    have high : needed t ≤ ((r :: l :: rest).length : Int) := by
      simp only [needed, hk, List.length_cons]
      omega
    obtain ⟨op, named⟩ := Option.isSome_iff_exists.mp known
    simp only [applyOperator, named]
    exact (stopsWith_reckoned (Datum.blamesOperands_apply op _ _) rest).mono fun _ =>
      .operands high

theorem applyBuiltin_stopsWith (hk : t.kind = .function) {f : Builtin}
    (named : Builtin.ofName? t.lexeme = some f) :
    StopsWith (StepFault env stack t) (applyBuiltin env t f stack) := by
  have need : needed t = argumentCount f t := by
    simp only [needed, hk, taken_of_ofName? hk named]
  by_cases missing : stack.length < argumentCount f t
  · have fault : shortage t stack.length =
        missingArguments f t stack.length (argumentCount f t) := by
      simp only [shortage, hk, named]
    rw [applyBuiltin_of_missing env t f missing]
    exact stopsWith_throw (fault ▸ .shortage (need ▸ missing))
  have high : needed t ≤ stack.length := need ▸ Int.not_lt.mp missing
  by_cases few : argumentCount f t < f.arity.least
  · rw [applyBuiltin_of_tooFew env t f missing few]
    exact stopsWith_throw (.operands high trivial)
  · rw [applyBuiltin_of_enough env t f missing few]
    exact ((stopsWith_call _ f _).bind fun v => stopsWith_pure _).mono fun _ => .operands high

/-- **What a step fails with** is one of four: a shortage, a variable or a constant that there is
not, or something that is wrong with the operands. -/
theorem step_stopsWith (instruction : t.isInstruction) :
    StopsWith (StepFault env stack t) (step env stack t) := by
  unfold Token.isInstruction at instruction
  unfold step
  cases hk : t.kind <;> simp only [hk, Bool.false_eq_true] at instruction ⊢
  case number => exact stopsWith_pure _
  case constant =>
    refine StopsWith.bind ?_ fun x => stopsWith_pure _
    unfold constantNamed
    cases named : Constant.ofName? t.lexeme with
    | some c => exact stopsWith_pure _
    | none => exact stopsWith_throw (.unknownConstant hk named)
  case variableName =>
    refine StopsWith.bind ?_ fun x => stopsWith_pure _
    unfold variableNamed
    cases bound : env.bindings.get? t.lexeme with
    | some v => exact stopsWith_pure _
    | none => exact stopsWith_throw (.undefinedVariable hk bound)
  case unaryMinus => exact applySign_stopsWith env hk
  case operator => exact applyOperator_stopsWith env hk instruction
  case function =>
    obtain ⟨f, named⟩ := Option.isSome_iff_exists.mp instruction
    simp only [applyFunction, named]
    exact applyBuiltin_stopsWith env hk named

/-- What every step stops with, all of them together stop with. -/
theorem execute_stopsWith {p : Fault → Prop} {ts : List Token}
    (h : ∀ t ∈ ts, ∀ stack, StopsWith p (step env stack t)) :
    StopsWith p (execute env stack ts) := by
  induction ts generalizing stack with
  | nil => exact stopsWith_pure _
  | cons t ts ih =>
    obtain ⟨first, later⟩ := List.forall_mem_cons.mp h
    rw [execute_cons]
    exact (first stack).bind fun _ => ih later

/-- What every step stops with, the whole evaluation stops with, if it may also stop because of
operands and because not one value is left. -/
theorem value_stopsWith {p : Fault → Prop} {ts : List Token}
    (steps : ∀ t ∈ ts, ∀ stack, StopsWith p (step env stack t))
    (operands : ∀ fault, fault.OfOperands → p fault)
    (count : ∀ n, p (.structural (.notOneValue n))) : StopsWith p (value env ts) := by
  apply (execute_stopsWith env steps).bind
  intro stack
  split
  · exact (stopsWith_result _).mono operands
  · exact stopsWith_throw (count _)

/-- A step for which the stack is too low fails, and with nothing but the shortage. -/
theorem step_of_low (instruction : t.isInstruction) (low : stack.length < needed t) :
    step env stack t = throw (.structural (shortage t stack.length)) := by
  have filled (n : Nat) : ¬ (n : Int) < 0 := by omega
  unfold Token.isInstruction at instruction
  cases hk : t.kind <;> simp only [hk, Bool.false_eq_true] at instruction <;>
    simp only [needed, hk] at low
  case number | constant | variableName => exact absurd low (filled _)
  case unaryMinus =>
    cases stack with
    | nil => simp [step, applySign, shortage, hk]
    | cons x rest =>
      rw [List.length_cons] at low
      omega
  case operator =>
    match stack with
    | [] | [_] => simp [step, applyOperator, shortage, hk]
    | r :: l :: rest =>
      rw [List.length_cons, List.length_cons] at low
      omega
  case function =>
    obtain ⟨f, named⟩ := Option.isSome_iff_exists.mp instruction
    rw [taken_of_ofName? hk named] at low
    simp only [step, hk, applyFunction, named, applyBuiltin_of_missing env t f low, shortage]

end Evaluation

end Reckoner
