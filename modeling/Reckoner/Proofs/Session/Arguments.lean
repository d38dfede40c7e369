import Mathlib.Algebra.Order.BigOperators.Group.List
import Mathlib.Algebra.Order.Group.Int
import Reckoner.Proofs.Evaluation.Heights
import Reckoner.Proofs.PostOrder.Calls
import Reckoner.Proofs.PostOrder.Written
import Reckoner.Proofs.Session.Calculation

/-!
Calls with more arguments than their function takes, and calls with fewer. A function with a fixed
number of arguments takes that many operands off the stack, whatever its call is written with, so
what one call leaves there another one can take. All that has to be right in the end is the height
of the stack: in a well written expression that has a value the surplus of all calls together is
nothing.
-/
namespace Reckoner

open Evaluation Token PostOrder

namespace Token

/-- How many more arguments a call is written with than its function takes. -/
def surplus (t : Token) : Int :=
  if t.kind = .function then t.argCount.getD 0 - taken t else 0

/-- Where no call has too few arguments, or none too many, none is left over if there are none left
over altogether. -/
theorem surplus_eq_zero {ts : List Token} (nothing_left : total surplus ts = 0)
    (onesided : (∀ t ∈ ts, 0 ≤ surplus t) ∨ ∀ t ∈ ts, surplus t ≤ 0) :
    ∀ t ∈ ts, surplus t = 0 := by
  intro t ht
  obtain none_less | none_more := onesided
  · exact List.all_zero_of_le_zero_le_of_sum_eq_zero (List.forall_mem_map.mpr none_less)
      nothing_left
      (List.mem_map_of_mem ht)
  · have reversed : ((ts.map surplus).map fun n => -n).sum = 0 := by
      rw [← List.sum_neg]
      exact neg_eq_zero.mpr nothing_left
    have gains : ∀ n ∈ (ts.map surplus).map fun n => -n, (0 : Int) ≤ n := by
      simpa using none_more
    have nothing : -surplus t = 0 := List.all_zero_of_le_zero_le_of_sum_eq_zero gains reversed
      (List.mem_map_of_mem (List.mem_map_of_mem ht))
    omega

end Token

namespace Token.Tree

theorem growth_operand {t : Token} (ht : t.isOperand) : growth t = 1 ∧ surplus t = 0 := by
  cases hk : t.kind <;> simp_all [isOperand, growth, surplus]

theorem growth_sign {t : Token} (ht : t.isSign) : growth t = 0 ∧ surplus t = 0 := by
  have hk : t.kind = .unaryMinus := by
    simp only [isSign, Bool.and_eq_true, beq_iff_eq] at ht
    exact ht.1
  simp [growth, surplus, hk]

theorem growth_binary {t : Token} (ht : t.isBinary) : growth t = -1 ∧ surplus t = 0 := by
  have hk : t.kind = .operator := by
    simp only [isBinary, Bool.and_eq_true, beq_iff_eq] at ht
    exact ht.1
  simp [growth, surplus, hk]

theorem growth_call {f : Token} (hf : f.kind = .function) (count : Int) :
    growth { f with argCount := some count } =
      1 + surplus { f with argCount := some count } - count := by
  simp only [growth, surplus, hf, if_pos, Option.getD_some]
  omega

mutual

/-- The tokens of a tree that is written down grow by one and by the surplus of its calls. -/
theorem total_growth_written : ∀ {k : Nat} {tree : Tree} {tokens : List Token},
    Written k tree tokens → total growth tree.postOrder = 1 + total surplus tree.postOrder
  | _, _, _, .operand ht => by
    obtain ⟨grows, fits⟩ := growth_operand ht
    simp [postOrder, grows, fits]
  | _, _, _, .negation hs _ written => by
    obtain ⟨grows, fits⟩ := growth_sign hs
    have operand := total_growth_written written
    simp [postOrder, grows, fits, operand]
  | _, _, _, .operation hb _ left right => by
    obtain ⟨grows, fits⟩ := growth_binary hb
    have left := total_growth_written left
    have right := total_growth_written right
    simp only [postOrder, total_append, total_cons, total_nil, grows, fits, left, right]
    omega
  | _, .call function trees, _, .call hf _ _ written => by
    have grows := growth_call hf trees.length
    have arguments := total_growth_writtenList written
    simp only [postOrder, total_append, total_cons, total_nil, grows, arguments]
    omega
  | _, _, _, .group _ _ written => total_growth_written written

theorem total_growth_writtenList : ∀ {trees : List Tree} {tokens : List Token},
    WrittenList trees tokens →
      total growth (postOrderList trees) = trees.length + total surplus (postOrderList trees)
  | _, _, .none => rfl
  | _, _, .one written => by
    have first := total_growth_written written
    simp [postOrderList, first]
  | tree :: next :: trees, _, .more written _ later => by
    have first := total_growth_written written
    have later := total_growth_writtenList later
    rw [postOrderList, total_append, total_append, first, later]
    simp only [List.length_cons]
    omega

end

end Token.Tree

namespace Session

variable {s : Session} {text : String} {v : Value} {tokens : List Token} {tree : Tree}

/-- What the calls of a written expression have too many is what others have too few. -/
theorem total_surplus_of_evaluate (evaluated : (s.evaluate text).1 = .ok v)
    (scanned : scan Lexicon.builtin (Assignment.chain text.toList).2 = .ok tokens)
    (written : Written 0 tree tokens) : total surplus (counted tokens) = 0 := by
  obtain ⟨_, post, _, _, rescanned, accepted, valued, _⟩ := exists_of_evaluate_eq_ok evaluated
  cases scanned.symm.trans rescanned
  have grows := total_growth_of_value s.environment valued
  have posted : tree.postOrder = post :=
    Except.ok.inj ((ofTokens_written written).symm.trans accepted)
  have balance := Tree.total_growth_written written
  have same := total_perm surplus (perm_counted scanned accepted)
  rw [posted] at balance
  omega

/-- A call without a surplus has the number of arguments that its function takes. -/
theorem argumentsBetween_of_surplus {before inner behind : List Token} {f left right : Token}
    (fits : ∀ t ∈ counted (before ++ f :: left :: (inner ++ right :: behind)), surplus t = 0)
    (function_kind : f.kind = .function) (left_kind : left.kind = .leftParen)
    (right_kind : right.kind = .rightParen) (inside : Token.Balanced inner) {b : Builtin} {n : Nat}
    (named : Builtin.ofName? f.lexeme = some b) (arity : b.arity = .exactly n) :
    argumentsBetween inner = n := by
  have call := fits _ (mem_counted function_kind)
  rw [writtenCount_call left_kind right_kind inside] at call
  simp only [surplus, taken, argumentCount, named, arity, function_kind, if_pos,
    Option.getD_some] at call
  omega

/-- **Wrong numbers of arguments only hide behind each other.** In a well written expression that
has a value the calls have no argument too many or too few altogether: either every call of a
function with a fixed number of arguments is written with just that number, or there is both a call
with too many and one with too few. -/
theorem arguments_of_evaluate (evaluated : (s.evaluate text).1 = .ok v)
    (scanned : scan Lexicon.builtin (Assignment.chain text.toList).2 = .ok tokens)
    (written : Written 0 tree tokens) :
    total surplus (counted tokens) = 0 ∧
      (((∃ t ∈ counted tokens, 0 < surplus t) ∧ ∃ t ∈ counted tokens, surplus t < 0) ∨
        ∀ before f left inner right behind,
          tokens = before ++ f :: left :: (inner ++ right :: behind) → f.kind = .function →
          left.kind = .leftParen → right.kind = .rightParen → Token.Balanced inner →
          ∀ b n, Builtin.ofName? f.lexeme = some b → b.arity = .exactly n →
            argumentsBetween inner = n) := by
  have balance := total_surplus_of_evaluate evaluated scanned written
  refine ⟨balance, ?_⟩
  by_cases both : (∃ t ∈ counted tokens, 0 < surplus t) ∧ ∃ t ∈ counted tokens, surplus t < 0
  · exact Or.inl both
  have onesided : (∀ t ∈ counted tokens, 0 ≤ surplus t) ∨ ∀ t ∈ counted tokens, surplus t ≤ 0 := by
    obtain none_more | none_less := not_and_or.mp both
    · exact Or.inr fun t ht => Int.not_lt.mp fun more => none_more ⟨t, ht, more⟩
    · exact Or.inl fun t ht => Int.not_lt.mp fun less => none_less ⟨t, ht, less⟩
  have fits := surplus_eq_zero balance onesided
  refine Or.inr fun before f left inner right behind split hf hl hr inside b n named arity => ?_
  exact argumentsBetween_of_surplus (split ▸ fits) hf hl hr inside named arity

/-- The first call leaves an operand that the second one takes. -/
theorem evaluate_gcd_hidden :
    ((fresh defaultFactorialLimit (.cycle [])).evaluate "gcd(4, 6, 9) + gcd(12)").1 =
        .ok (.integer 7) ∧
      (scan Lexicon.builtin (Assignment.chain "gcd(4, 6, 9) + gcd(12)".toList).2).map
          (fun tokens => functionsAt 0 (counted tokens) ++ functionsAt 15 (counted tokens)) =
        .ok [⟨.function, "gcd", 0, none, some 3⟩, ⟨.function, "gcd", 15, none, some 1⟩] ∧
      (Builtin.ofName? "gcd").map Builtin.arity = some (.exactly 2) := by
  decide +kernel

theorem arguments_of_evaluate_hidden :
    ∃ tokens tree,
      ((fresh defaultFactorialLimit (.cycle [])).evaluate "gcd(4, 6, 9) + gcd(12)").1 =
        .ok (.integer 7) ∧
      scan Lexicon.builtin (Assignment.chain "gcd(4, 6, 9) + gcd(12)".toList).2 = .ok tokens ∧
      Written 0 tree tokens ∧ total surplus (counted tokens) = 0 ∧
      (∃ t ∈ counted tokens, 0 < surplus t) ∧ ∃ t ∈ counted tokens, surplus t < 0 := by
  have evaluated : ((fresh defaultFactorialLimit (.cycle [])).evaluate
      "gcd(4, 6, 9) + gcd(12)").1 = .ok (.integer 7) := by
    decide +kernel
  have scanned : scan Lexicon.builtin (Assignment.chain "gcd(4, 6, 9) + gcd(12)".toList).2 =
      .ok [⟨.function, "gcd", 0, none, none⟩, ⟨.leftParen, "(", 3, none, none⟩,
        ⟨.number, "4", 4, some (.integer 4), none⟩, ⟨.comma, ",", 5, none, none⟩,
        ⟨.number, "6", 7, some (.integer 6), none⟩, ⟨.comma, ",", 8, none, none⟩,
        ⟨.number, "9", 10, some (.integer 9), none⟩, ⟨.rightParen, ")", 11, none, none⟩,
        ⟨.operator, "+", 13, none, none⟩, ⟨.function, "gcd", 15, none, none⟩,
        ⟨.leftParen, "(", 18, none, none⟩, ⟨.number, "12", 19, some (.integer 12), none⟩,
        ⟨.rightParen, ")", 21, none, none⟩] := by
    decide +kernel
  have three : WrittenList _ ([⟨.number, "4", 4, some (.integer 4), none⟩] ++
      ⟨.comma, ",", 5, none, none⟩ :: ([⟨.number, "6", 7, some (.integer 6), none⟩] ++
        ⟨.comma, ",", 8, none, none⟩ :: [⟨.number, "9", 10, some (.integer 9), none⟩])) :=
    .more (.operand rfl) rfl (.more (.operand rfl) rfl (.one (.operand rfl)))
  have first : Written 2 _ (⟨.function, "gcd", 0, none, none⟩ ::
      ⟨.leftParen, "(", 3, none, none⟩ :: (_ ++ [⟨.rightParen, ")", 11, none, none⟩])) :=
    .call rfl rfl rfl three
  have one : WrittenList _ [⟨.number, "12", 19, some (.integer 12), none⟩] := .one (.operand rfl)
  have second : Written 3 _ (⟨.function, "gcd", 15, none, none⟩ ::
      ⟨.leftParen, "(", 18, none, none⟩ :: (_ ++ [⟨.rightParen, ")", 21, none, none⟩])) :=
    .call rfl rfl rfl one
  have sum : Written 0 (.operation ⟨.operator, "+", 13, none, none⟩ _ _) _ :=
    .operation (by decide) (by decide) first second
  obtain ⟨balance, hidden | fits⟩ := arguments_of_evaluate evaluated scanned sum
  · exact ⟨_, _, evaluated, scanned, sum, balance, hidden⟩
  · have three := fits [] _ _ [_, _, _, _, _] _ _ rfl rfl rfl rfl rfl (.binary .gcd) 2 rfl rfl
    exact absurd three (by decide)

end Session

end Reckoner
