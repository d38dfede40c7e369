import Reckoner.Expression
import Reckoner.Proofs.Evaluation.Outcome

namespace Reckoner.Expression

open Evaluation

variable (env : Environment)

theorem length_treeList (es : List Expression) : (treeList es).length = es.length := by
  induction es with
  | nil => rfl
  | cons e es ih => rw [treeList, List.length_cons, ih, List.length_cons]

/-- There are as many values as expressions. -/
theorem operandList_ensures_length (es : List Expression) :
    Ensures (operandList env es) fun xs => xs.length = es.length := by
  induction es with
  | nil =>
    rw [operandList]
    exact ensures_pure rfl
  | cons e es ih =>
    rw [operandList]
    refine ensures_bind fun x => ih.bind fun xs hxs => ensures_pure ?_
    rw [List.length_cons, hxs, List.length_cons]

/-- The token of a call that is written with so many arguments. -/
def callToken (f : Builtin) (count : Nat) : Token :=
  { functionToken f with argCount := some (count : Int) }

theorem argumentCount_callToken {f : Builtin} {count : Nat} (h : f.arity.Admits count) :
    argumentCount f (callToken f count) = count := by
  unfold argumentCount
  cases hf : f.arity with
  | exactly n =>
    rw [hf] at h
    exact congrArg Nat.cast h.symm
  | atLeast n => rfl

/-- A call finds its arguments on top of the stack, the last one uppermost. -/
theorem step_callToken {f : Builtin} {xs : List Operand} (h : f.arity.Admits xs.length)
    (stack : Stack) : step env (xs.reverse ++ stack) (callToken f xs.length) =
      applyBuiltin env f xs >>= fun v => pure (v :: stack) := by
  have found : step env (xs.reverse ++ stack) (callToken f xs.length) =
      Evaluation.applyBuiltin env (callToken f xs.length) f (xs.reverse ++ stack) := by
    change applyFunction env (callToken f xs.length) (xs.reverse ++ stack) = _
    have named : Builtin.ofName? (callToken f xs.length).lexeme = some f := Builtin.ofName?_name f
    rw [applyFunction, named]
  have count : argumentCount f (callToken f xs.length) = xs.length := argumentCount_callToken h
  have present : ¬ ((xs.reverse ++ stack).length : Int) <
      argumentCount f (callToken f xs.length) := by
    rw [count, List.length_append, List.length_reverse]
    omega
  have taken : ((xs.reverse ++ stack).take xs.length).reverse = xs := by
    rw [List.take_left' List.length_reverse, List.reverse_reverse]
  have left : (xs.reverse ++ stack).drop xs.length = stack :=
    List.drop_left' List.length_reverse
  rw [found, applyBuiltin]
  by_cases few : xs.length < f.arity.least
  · have fewer : argumentCount f (callToken f xs.length) < f.arity.least := by omega
    rw [applyBuiltin_of_tooFew env _ f present fewer, if_pos few, throw_bind, throw_bind, count]
    rfl
  · have enough : ¬ argumentCount f (callToken f xs.length) < f.arity.least := by omega
    rw [applyBuiltin_of_enough env _ f present enough, if_neg few, count, Int.toNat_natCast, taken,
      left, bind_assoc]
    simp only [pure_bind]

mutual

/-- **Executing the post-order of an expression.** Its value comes on top of the stack. -/
theorem execute_postOrder : ∀ (e : Expression), e.IsWritable → ∀ stack : Stack,
    execute env stack e.tree.postOrder = e.operand env >>= fun x => pure (x :: stack)
  | .numeral _, _, stack => execute_singleton env stack _
  | .variableNamed _, _, stack => execute_singleton env stack _
  | .constant c, _, stack => by
    refine (execute_singleton env stack _).trans ?_
    change constantNamed c.name >>= _ = _
    rw [constantNamed, Constant.ofName?_name]
    rfl
  | .negation e, h, stack => by
    rw [tree, Token.Tree.postOrder, execute_append, execute_postOrder e h, bind_assoc, operand,
      bind_assoc]
    congr 1
    funext x
    rw [pure_bind, execute_singleton]
    rfl
  | .operation op l r, ⟨hl, hr⟩, stack => by
    rw [tree, Token.Tree.postOrder, execute_append, execute_postOrder l hl, bind_assoc, operand,
      bind_assoc]
    congr 1
    funext x
    rw [pure_bind, execute_append, execute_postOrder r hr, bind_assoc, bind_assoc]
    congr 1
    funext y
    rw [pure_bind, execute_singleton]
    change applyOperator (token .operator op.symbol) (y :: x :: stack) = _
    simp only [applyOperator, token, Operator.ofSymbol?_symbol]
  | .call f es, ⟨hf, hes⟩, stack => by
    rw [tree, Token.Tree.postOrder, execute_append, execute_postOrderList es hes, bind_assoc,
      operand, bind_assoc, length_treeList]
    refine (operandList_ensures_length env es).bind_congr fun xs hxs => ?_
    rw [pure_bind, execute_singleton, ← hxs]
    exact step_callToken env (hxs ▸ hf) stack

/-- The values of several expressions come on the stack, the last one uppermost. -/
theorem execute_postOrderList : ∀ (es : List Expression), AreWritable es → ∀ stack : Stack,
    execute env stack (Token.Tree.postOrderList (treeList es)) =
      operandList env es >>= fun xs => pure (xs.reverse ++ stack)
  | [], _, stack => rfl
  | e :: es, ⟨h, hs⟩, stack => by
    rw [treeList, Token.Tree.postOrderList, execute_append, execute_postOrder e h, operandList,
      bind_assoc, bind_assoc]
    congr 1
    funext x
    rw [pure_bind, execute_postOrderList es hs, bind_assoc]
    congr 1
    funext xs
    rw [pure_bind, List.reverse_cons, List.append_assoc, List.singleton_append]

end

end Reckoner.Expression
