import Reckoner.Proofs.Evaluation.Traps
import Reckoner.Proofs.PostOrder.Members
import Reckoner.Proofs.Session.Calculation
import Reckoner.Proofs.Token.Scanned

namespace Reckoner

open Evaluation

namespace Token

theorem valued_ofLexeme (kind : Kind) (position : Nat) (cs : List Char) :
    Valued (ofLexeme kind position cs) := by
  cases kind with
  | number => exact fun _ => rfl
  | _ => nofun

/-- Numbers that are read have values. -/
theorem valued_of_scan {lexicon : Lexicon} {text : List Char} {tokens : List Token}
    (h : scan lexicon text = .ok tokens) : ∀ t ∈ tokens, Valued t :=
  forall_mem_of_scanFrom (fun _ => nofun) (fun _ _ => valued_ofLexeme _ _ _) h

end Token

namespace Session

theorem valued_of_compile {cs : List Char} {post : List Token} (h : compile cs = .ok post) :
    ∀ t ∈ post, Valued t := by
  obtain ⟨tokens, scanned, ordered⟩ := bind_eq_ok_iff.mp h
  exact PostOrder.forall_mem_ofTokens (fun _ _ valued => valued) ordered
    (Token.valued_of_scan scanned)

/-- An expression leads into a trap if its tokens do. -/
theorem expressionOutcome_eq_uncaught_iff (s : Session) (cs : List Char) {trap : Trap}
    {later : RandomSource} :
    s.expressionOutcome cs = (.error (.uncaught trap), later) ↔
      ∃ post, compile cs = .ok post ∧
        outcome (execute s.environment [] post) s.random = (.error (.uncaught trap), later) := by
  rw [expressionOutcome, expressionValue]
  cases h : compile cs with
  | error fault =>
    constructor
    · intro hu
      cases hu
    · rintro ⟨post, hpost, _⟩
      cases hpost
  | ok post =>
    have reduced : outcome (value s.environment post) s.random = (.error (.uncaught trap), later) ↔
        _ :=
      value_eq_uncaught_iff s.environment (valued_of_compile h)
    constructor
    · exact fun hu => ⟨post, rfl, reduced.mp hu⟩
    · rintro ⟨_, hpost, hu⟩
      cases hpost
      exact reduced.mpr hu

/-- An evaluation ends in a trap if, in the order of evaluation, it comes to a call that does. -/
theorem evaluate_eq_uncaught_iff_trapsAt (s : Session) (text : String) (trap : Trap) :
    (s.evaluate text).1 = .error (.uncaught trap) ↔
      ∃ before t behind stack later,
        compile (Assignment.chain text.toList).2 = .ok (before ++ t :: behind) ∧
          outcome (execute s.environment [] before) s.random = (.ok stack, later) ∧
          TrapsAt s.factorialLimit t stack trap := by
  rw [evaluate_eq_error_iff]
  constructor
  · rintro ⟨later, h⟩
    obtain ⟨post, hpost, hu⟩ := (s.expressionOutcome_eq_uncaught_iff _).mp h
    obtain ⟨before, t, behind, stack, rfl, hbefore, traps⟩ :=
      (execute_eq_uncaught_iff _ areNumbers_nil (valued_of_compile hpost)).mp hu
    exact ⟨before, t, behind, stack, later, hpost, hbefore, traps⟩
  · rintro ⟨before, t, behind, stack, later, hpost, hbefore, traps⟩
    refine ⟨later, (s.expressionOutcome_eq_uncaught_iff _).mpr ⟨_, hpost, ?_⟩⟩
    exact (execute_eq_uncaught_iff _ areNumbers_nil (valued_of_compile hpost)).mpr
      ⟨before, t, behind, stack, rfl, hbefore, traps⟩

/-- **Every trap of a primitive is caught but two.** Whatever the session and the text, an evaluation
has a value or a reported fault, except exactly if, in the order of evaluation, it comes to a call
that leads into a trap. With a limit that fits into a word that is a call of the variance or the
standard deviation on two or more real numbers in the range of the doubles, of which one has a
finite deviation from the mean with an infinite square. With another limit, it may also be a
factorial. -/
theorem evaluate_eq_uncaught_iff (s : Session) (text : String) (trap : Trap) :
    ((s.evaluate text).1 = .error (.uncaught trap) ↔
      ∃ before t behind stack later,
        compile (Assignment.chain text.toList).2 = .ok (before ++ t :: behind) ∧
          outcome (execute s.environment [] before) s.random = (.ok stack, later) ∧
          TrapsAt s.factorialLimit t stack trap) ∧
    (s.factorialLimit < Elementary.wordBound →
      ((s.evaluate text).1 = .error (.uncaught trap) ↔
        trap = .square ∧ ∃ before t behind stack later,
          compile (Assignment.chain text.toList).2 = .ok (before ++ t :: behind) ∧
            outcome (execute s.environment [] before) s.random = (.ok stack, later) ∧
            OverflowsAt t stack)) := by
  refine ⟨s.evaluate_eq_uncaught_iff_trapsAt text trap, fun fits => ?_⟩
  rw [evaluate_eq_uncaught_iff_trapsAt]
  simp only [trapsAt_iff_of_lt fits]
  constructor
  · rintro ⟨before, t, behind, stack, later, hpost, hbefore, htrap, overflows⟩
    exact ⟨htrap, before, t, behind, stack, later, hpost, hbefore, overflows⟩
  · rintro ⟨htrap, before, t, behind, stack, later, hpost, hbefore, overflows⟩
    exact ⟨before, t, behind, stack, later, hpost, hbefore, htrap, overflows⟩

/-- The call of the standard deviation is found at the end of the tokens, with its two arguments on
the stack. -/
theorem exists_overflowsAt_of_stdev :
    ∃ before t behind stack later,
      compile (Assignment.chain "stdev(10^200, 0)".toList).2 = .ok (before ++ t :: behind) ∧
        outcome (execute (fresh defaultFactorialLimit (.cycle [])).environment [] before)
          (.cycle []) = (.ok stack, later) ∧
        OverflowsAt t stack := by
  let s := fresh defaultFactorialLimit (.cycle [])
  have trapped : (s.evaluate "stdev(10^200, 0)").1 = .error (.uncaught .square) := by
    decide +kernel
  exact (((s.evaluate_eq_uncaught_iff "stdev(10^200, 0)" .square).2 (by decide)).mp trapped).2

/-- The limit is the least that does not fit into a word. -/
example : ((fresh 9223372036854775808 (.cycle [])).evaluate "fact(2^63)").1 =
    .error (.uncaught .wideFactorial) := by decide +kernel

/-- The deviation of `10 ^ 200` and zero from their mean is finite, and its square is not. -/
theorem evaluate_variance_uncaught :
    ((fresh defaultFactorialLimit (.cycle [])).evaluate "variance(10^200, 0)").1 =
      .error (.uncaught .square) := by
  decide +kernel

end Session

end Reckoner
