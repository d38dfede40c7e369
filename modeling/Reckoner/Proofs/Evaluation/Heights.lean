import Mathlib.Algebra.BigOperators.Group.List.Basic
import Mathlib.Algebra.Ring.Int.Defs
import Reckoner.Proofs.Evaluation.Outcome

/-!
How high the stack is. A token lets the stack grow by a number that is known before anything is
evaluated, and in the end exactly one operand has to be left: the numbers of all tokens of an
expression that has a value add up to one.
-/
namespace Reckoner

namespace Token

/-- What tokens weigh together. -/
def total (weight : Token → Int) (ts : List Token) : Int :=
  (ts.map weight).sum

variable (weight : Token → Int)

@[simp] theorem total_nil : total weight [] = 0 := rfl

@[simp] theorem total_cons (t : Token) (ts : List Token) :
    total weight (t :: ts) = weight t + total weight ts :=
  List.sum_cons

@[simp] theorem total_append (ts us : List Token) :
    total weight (ts ++ us) = total weight ts + total weight us := by
  rw [total, List.map_append, List.sum_append_int]
  rfl

theorem total_perm {ts us : List Token} (h : ts.Perm us) : total weight ts = total weight us :=
  (h.map weight).sum_eq

end Token

namespace Evaluation

open Token

/-- How many operands a function takes off the stack. -/
def taken (t : Token) : Int :=
  match t.kind, Builtin.ofName? t.lexeme with
  | .function, some f => argumentCount f t
  | _, _ => 0

theorem taken_of_ne {t : Token} (h : t.kind ≠ .function) : taken t = 0 := by
  cases hk : t.kind <;> simp_all [taken]

theorem taken_of_ofName? {f : Token} {b : Builtin} (hf : f.kind = .function)
    (named : Builtin.ofName? f.lexeme = some b) : taken f = argumentCount b f := by
  simp only [taken, hf, named]

/-- How many operands are on the stack behind a token beyond those in front of it. -/
def growth (t : Token) : Int :=
  match t.kind with
  | .number | .constant | .variableName => 1
  | .operator => -1
  | .function => 1 - taken t
  | .unaryMinus | .leftParen | .rightParen | .comma => 0

/-- The second stack is by so many operands higher than the first. -/
def Higher (n : Int) (stack stack' : Stack) : Prop :=
  (stack'.length : Int) = stack.length + n

theorem higher_push (x : Operand) (stack : Stack) : Higher 1 stack (x :: stack) := by
  simp [Higher]

variable (env : Environment) {stack : Stack} {t : Token}

theorem ensures_push {m : Evaluation Operand} :
    Ensures (m >>= fun x => pure (x :: stack)) (Higher 1 stack) :=
  ensures_bind fun x => ensures_pure (higher_push x stack)

/-- A call that has enough arguments takes them off the stack and puts its value there. -/
theorem applyBuiltin_ensures_higher (f : Builtin) :
    Ensures (applyBuiltin env t f stack) (Higher (1 - argumentCount f t) stack) := by
  by_cases missing : stack.length < argumentCount f t
  · rw [applyBuiltin_of_missing env t f missing]
    exact ensures_throw _ _
  by_cases few : argumentCount f t < f.arity.least
  · rw [applyBuiltin_of_tooFew env t f missing few]
    exact ensures_throw _ _
  rw [applyBuiltin_of_enough env t f missing few]
  refine ensures_bind fun v => ensures_pure ?_
  simp only [Higher, List.length_cons, List.length_drop]
  omega

theorem applyOperator_ensures_higher : Ensures (applyOperator t stack) (Higher (-1) stack) := by
  match stack with
  | [] | [_] => exact ensures_throw _ _
  | r :: l :: stack =>
    unfold applyOperator
    cases Operator.ofSymbol? t.lexeme with
    | none => exact ensures_throw _ _
    | some op =>
      refine ensures_bind fun x => ensures_pure ?_
      simp only [Higher, List.length_cons]
      omega

theorem applySign_ensures_higher : Ensures (applySign t stack) (Higher 0 stack) := by
  cases stack with
  | nil => exact ensures_throw _ _
  | cons x stack =>
    refine ensures_bind fun y => ensures_pure ?_
    simp [Higher]

/-- The stack grows as the token says. -/
theorem step_ensures_higher : Ensures (step env stack t) (Higher (growth t) stack) := by
  unfold step growth
  cases hk : t.kind with
  | number => exact ensures_pure (higher_push _ _)
  | constant | variableName => exact ensures_push
  | unaryMinus => exact applySign_ensures_higher
  | operator => exact applyOperator_ensures_higher
  | leftParen | rightParen | comma => exact ensures_throw _ _
  | function =>
    unfold applyFunction
    cases named : Builtin.ofName? t.lexeme with
    | none => exact ensures_throw _ _
    | some f =>
      rw [taken_of_ofName? hk named]
      exact applyBuiltin_ensures_higher env f

/-- A whole run lets the stack grow as all its tokens say. -/
theorem execute_ensures_higher (ts : List Token) :
    Ensures (execute env stack ts) (Higher (total growth ts) stack) := by
  induction ts generalizing stack with
  | nil => exact ensures_pure (by simp [Higher])
  | cons t ts ih =>
    rw [execute_cons]
    refine (step_ensures_higher env).bind fun mid first => ?_
    intro random last later h
    have rest := ih random last later h
    simp only [Higher, total_cons] at first rest ⊢
    omega

/-- **Tokens that have a value grow by one.** -/
theorem total_growth_of_value {ts : List Token} {random later : RandomSource} {v : Marked Value}
    (h : outcome (value env ts) random = (.ok v, later)) : total growth ts = 1 := by
  obtain ⟨stack, mid, ran, left⟩ := outcome_bind_eq_ok.mp h
  have height := execute_ensures_higher env ts random stack mid ran
  match stack with
  | [x] =>
    simp only [Higher, List.length_cons, List.length_nil] at height
    omega
  | [] | _ :: _ :: _ => cases left

end Evaluation

end Reckoner
