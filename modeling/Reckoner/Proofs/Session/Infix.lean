import Reckoner.Proofs.Evaluation.Heights
import Reckoner.Proofs.PostOrder.Calls
import Reckoner.Proofs.Session.Calculation
import Reckoner.Proofs.Token.Places

/-!
Operators out of place. Nothing but the height of the stack tells whether the operators of a text
stand between their operands, so a missing operand goes unnoticed where another one is in excess.
The places of an expression that has a value keep a balance, and where no number stands right
behind an operand and all places for arguments are used, every operator is in its place.
-/
namespace Reckoner

open Evaluation Token PostOrder

namespace Token

theorem openedPlaces_cons (t : Token) (ts : List Token) :
    openedPlaces (t :: ts) =
      openedPlaces ts + if t.kind = .function ∨ t.kind = .comma then 1 else 0 := by
  simp only [openedPlaces, List.countP_cons, decide_eq_true_eq]

theorem lead_mark {t : Token} (h : t.IsMark) : lead t = if t.kind = .comma then -1 else 0 := by
  obtain hk | hk | hk := h <;> simp [lead, hk, Kind.startsOperand, Kind.endsOperand]

theorem lead_other {t : Token} (mark : ¬ t.IsMark) (hk : t.kind ≠ .function) :
    lead t = growth t := by
  cases h : t.kind <;>
    simp_all [lead, growth, IsMark, Kind.startsOperand, Kind.endsOperand]

theorem lead_function {f : Token} (hk : f.kind = .function) (count : Option Int) :
    lead f = growth { f with argCount := count } + taken { f with argCount := count } - 1 := by
  simp only [lead, growth, hk, Kind.startsOperand, Kind.endsOperand, Bool.false_eq_true, if_true,
    if_false]
  omega

/-- What the tokens of a text lead by is what their stack grows by, but for the places that are
opened for arguments and those that are used. -/
theorem sum_lead (ts : List Token) :
    (ts.map lead).sum =
      total growth (counted ts) + total taken (counted ts) - openedPlaces ts := by
  induction ts with
  | nil => rfl
  | cons t ts ih =>
    rw [List.map_cons, List.sum_cons, ih, openedPlaces_cons]
    by_cases mark : t.IsMark
    · have lone : t.kind ≠ .function := by
        obtain hk | hk | hk := mark <;> simp [hk]
      rw [counted_of_isMark mark, lead_mark mark]
      by_cases comma : t.kind = .comma
      · simp only [comma, if_true, or_true]
        omega
      · simp only [comma, lone, if_false, or_self]
        omega
    by_cases function_kind : t.kind = .function
    · rw [counted_of_function function_kind, total_cons, total_cons,
        lead_function function_kind (writtenCount ts)]
      simp only [function_kind, if_true, true_or]
      omega
    · have comma : t.kind ≠ .comma := fun h => mark (Or.inr (Or.inr h))
      rw [counted_of_other mark function_kind, total_cons, total_cons,
        lead_other mark function_kind, taken_of_ne function_kind]
      simp only [function_kind, comma, if_false, or_self]
      omega

end Token

namespace Session

variable {s : Session} {text : String} {v : Value}

/-- **A misplaced operator only hides behind an operand in excess.** The places of an expression
that has a value keep a balance: operands in excess and places that functions and commas open for
arguments are as many as operands that are missing, empty parentheses and arguments that functions
take. So if no more places are opened than are taken or left empty and no number stands right behind
an operand, every binary operator stands between operands; and if no fewer are opened and no operand
is missing, no number stands right behind an operand. -/
theorem operatorsBetween_of_evaluate (evaluated : (s.evaluate text).1 = .ok v) :
    ∃ tokens, scan Lexicon.builtin (Assignment.chain text.toList).2 = .ok tokens ∧
      (countPlaces Place.isCrowded tokens + openedPlaces tokens : Int) =
        countPlaces Place.isGap tokens + countPlaces Place.isHollow tokens +
          total taken (counted tokens) ∧
      (openedPlaces tokens ≤ countPlaces Place.isHollow tokens + total taken (counted tokens) →
        NumbersApart tokens → OperatorsBetween tokens) ∧
      (countPlaces Place.isHollow tokens + total taken (counted tokens) ≤ openedPlaces tokens →
        countPlaces Place.isGap tokens = 0 → NumbersApart tokens) := by
  obtain ⟨tokens, post, _, _, scanned, accepted, valued, _⟩ := exists_of_evaluate_eq_ok evaluated
  have grows := total_growth_of_value s.environment valued
  rw [total_perm growth (perm_counted scanned accepted)] at grows
  have places := countPlaces_isCrowded tokens
  rw [sum_lead, grows] at places
  refine ⟨tokens, scanned, by omega, fun used numbers => ?_, fun used no_gap => ?_⟩
  · have crowded := countPlaces_isCrowded_eq_zero (isChain_of_scan scanned) numbers
    exact operatorsBetween_of_no_gap (by omega)
  · exact numbersApart_of_isCrowded (by omega)

/-- The second operand is in excess where it stands, and missing behind the sign. -/
theorem evaluate_sum_behind :
    ((fresh defaultFactorialLimit (.cycle [])).evaluate "1 2 +").1 = .ok (.integer 3) ∧
      ∃ tokens, scan Lexicon.builtin (Assignment.chain "1 2 +".toList).2 = .ok tokens ∧
        ¬ OperatorsBetween tokens ∧ ¬ NumbersApart tokens := by
  have scanned : scan Lexicon.builtin (Assignment.chain "1 2 +".toList).2 =
      .ok [⟨.number, "1", 0, some (.integer 1), none⟩, ⟨.number, "2", 2, some (.integer 2), none⟩,
        ⟨.operator, "+", 4, none, none⟩] := by
    decide +kernel
  refine ⟨by decide +kernel, _, scanned, fun between => ?_, fun apart => ?_⟩
  · obtain ⟨n, hn, _⟩ := (between [_, _] _ [] rfl rfl).2
    cases hn
  · exact apart [] _ _ [_] rfl rfl rfl

theorem operatorsBetween_of_evaluate_product :
    ((fresh defaultFactorialLimit (.cycle [])).evaluate "-2 max(3, 4)").1 = .ok (.integer (-8)) ∧
      OperatorsBetween
        [⟨.unaryMinus, "u-", 0, none, none⟩, ⟨.number, "2", 1, some (.integer 2), none⟩,
          ⟨.operator, "*", 3, none, none⟩, ⟨.function, "max", 3, none, none⟩,
          ⟨.leftParen, "(", 6, none, none⟩, ⟨.number, "3", 7, some (.integer 3), none⟩,
          ⟨.comma, ",", 8, none, none⟩, ⟨.number, "4", 10, some (.integer 4), none⟩,
          ⟨.rightParen, ")", 11, none, none⟩] := by
  have evaluated : ((fresh defaultFactorialLimit (.cycle [])).evaluate "-2 max(3, 4)").1 =
      .ok (.integer (-8)) := by
    decide +kernel
  refine ⟨evaluated, ?_⟩
  obtain ⟨tokens, scanned, _, between, _⟩ := operatorsBetween_of_evaluate evaluated
  have read : scan Lexicon.builtin (Assignment.chain "-2 max(3, 4)".toList).2 =
      .ok [⟨.unaryMinus, "u-", 0, none, none⟩, ⟨.number, "2", 1, some (.integer 2), none⟩,
          ⟨.operator, "*", 3, none, none⟩, ⟨.function, "max", 3, none, none⟩,
          ⟨.leftParen, "(", 6, none, none⟩, ⟨.number, "3", 7, some (.integer 3), none⟩,
          ⟨.comma, ",", 8, none, none⟩, ⟨.number, "4", 10, some (.integer 4), none⟩,
          ⟨.rightParen, ")", 11, none, none⟩] := by
    decide +kernel
  cases read.symm.trans scanned
  exact between (by decide +kernel) (numbersApart_of_isCrowded (by decide))

end Session

end Reckoner
