import Reckoner.Proofs.Session.Assignments
import Reckoner.Proofs.Session.Vocabulary
import Reckoner.Proofs.Token.Marks

namespace Reckoner

/-- The fault is one of the text. -/
def Fault.IsSyntactic : Fault → Prop
  | .syntactic _ => True
  | _ => False

namespace Evaluation

variable (env : Environment)

theorem not_isSyntactic_of_ofOperands {fault : Fault} (h : fault.OfOperands) :
    ¬ fault.IsSyntactic := by
  cases fault with
  | domain | uncaught => exact id
  | syntactic | naming | structural => exact h.elim

theorem step_stopsWith_not_syntactic {stack : Stack} {t : Token} (known : t.IsKnown) :
    StopsWith (fun fault => ¬ fault.IsSyntactic) (step env stack t) := by
  refine (step_stopsWith env known.1).mono fun fault reason => ?_
  cases reason with
  | shortage | undefinedVariable | unknownConstant => exact id
  | operands _ blamed => exact not_isSyntactic_of_ofOperands blamed

/-- Tokens that are known are not blamed for the text any more. -/
theorem value_stopsWith_not_syntactic {ts : List Token} (known : ∀ t ∈ ts, t.IsKnown) :
    StopsWith (fun fault => ¬ fault.IsSyntactic) (value env ts) :=
  value_stopsWith env (fun t ht _ => step_stopsWith_not_syntactic env (known t ht))
    (fun _ => not_isSyntactic_of_ofOperands) (fun _ => id)

end Evaluation

namespace Assignment

theorem Nested.suffix {cs expression : List Char} {ps : List Parts} (h : Nested cs ps expression) :
    expression <:+ cs := by
  induction h with
  | expression => exact List.suffix_rfl
  | @assignment p _ _ _ text _ ih =>
    rw [← text]
    exact ih.trans p.body_suffix

/-- The expression is the whole text if no name is assigned to, and else it is shorter. -/
theorem Nested.eq_nil_iff {cs expression front : List Char} {ps : List Parts}
    (h : Nested cs ps expression) (split : cs = front ++ expression) : front = [] ↔ ps = [] := by
  cases h with
  | expression =>
    simp only [iff_true]
    exact List.self_eq_append_left.mp split
  | @assignment p _ _ _ text inner =>
    simp only [reduceCtorEq, iff_false]
    rintro rfl
    have shorter := length_lt_of_split? p.split?_text
    have inside := inner.suffix.length_le
    rw [text, split] at shorter
    exact absurd inside (Nat.not_le.mpr shorter)

end Assignment

namespace Session

open Assignment Evaluation

/-- A text has the faults of syntax that its expression has. -/
theorem evaluate_eq_syntactic_iff (s : Session) (text : String) {fault : SyntaxFault} :
    (s.evaluate text).1 = .error (.syntactic fault) ↔
      compile (chain text.toList).2 = .error fault := by
  rw [evaluate_eq_error_iff, expressionOutcome, expressionValue]
  cases compiled : compile (chain text.toList).2 with
  | error reason =>
    constructor
    · rintro ⟨later, stopped⟩
      cases stopped
      rfl
    · intro h
      cases h
      exact ⟨s.random, rfl⟩
  | ok post =>
    constructor
    · rintro ⟨later, stopped⟩
      have known := isKnown_of_compile compiled
      exact absurd trivial (value_stopsWith_not_syntactic s.environment known _ _ _ stopped)
    · intro h
      cases h

/-- What is refused as an expression is blamed at one of its characters. -/
theorem blames_of_compile {expression : List Char} {fault : SyntaxFault}
    (h : compile expression = .error fault) :
    ∃ before behind, fault.Blames expression before behind := by
  obtain failed | ⟨tokens, scanned, refused⟩ := bind_eq_error_iff.mp h
  · exact Token.blames_of_scan failed
  · exact Token.blames_of_ofTokens scanned refused

/-- **A fault of the syntax is found at the character that has it**, and its position is the place
of that character in the expression behind all names. Nothing stands in front of that expression
exactly if the text assigns to no name, and then the place is the one in the text. -/
theorem blames_of_evaluate (s : Session) (text : String) {fault : SyntaxFault}
    (h : (s.evaluate text).1 = .error (.syntactic fault)) :
    ∃ ps front expression before behind, Nested text.toList ps expression ∧
      text.toList = front ++ expression ∧ (front = [] ↔ ps = []) ∧
      fault.Blames expression before behind := by
  obtain ⟨ps, nested, _⟩ := exists_nested text.toList
  obtain ⟨front, split⟩ := nested.suffix
  obtain ⟨before, behind, blames⟩ := blames_of_compile ((s.evaluate_eq_syntactic_iff text).mp h)
  exact ⟨ps, front, _, before, behind, nested, split.symm, nested.eq_nil_iff split.symm, blames⟩

/-- The parenthesis that is not matched in `x = 1)` stands at 5, and is reported at 1. -/
theorem evaluate_position_assigned :
    ∃ fault, ((fresh defaultFactorialLimit (.cycle [])).evaluate "x = 1)").1 =
        .error (.syntactic fault) ∧
      fault.culprit = ')' ∧ fault.report.position = some 1 ∧
      "x = 1)".toList[1]? = some ' ' ∧ "x = 1)".toList[5]? = some ')' :=
  ⟨.unmatchedClose 1, by decide +kernel, rfl, rfl, rfl, rfl⟩

/-- Two names stand in front of the expression, whose comma is the first thing that is wrong. -/
theorem blames_of_evaluate_names :
    ((fresh defaultFactorialLimit (.cycle [])).evaluate "y = x = max(1, 2), (").1 =
        .error (.syntactic (.strayComma 9)) ∧
      ∃ ps front expression before behind, Nested "y = x = max(1, 2), (".toList ps expression ∧
        "y = x = max(1, 2), (".toList = front ++ expression ∧ (front = [] ↔ ps = []) ∧
        (SyntaxFault.strayComma 9).Blames expression before behind := by
  have failed : ((fresh defaultFactorialLimit (.cycle [])).evaluate "y = x = max(1, 2), (").1 =
      .error (.syntactic (.strayComma 9)) := by
    decide +kernel
  exact ⟨failed, blames_of_evaluate _ _ failed⟩

end Session

end Reckoner
