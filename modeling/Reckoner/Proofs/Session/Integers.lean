import Mathlib.Data.List.TakeWhile
import Reckoner.Proofs.Decimal.Integer
import Reckoner.Proofs.PostOrder.Written
import Reckoner.Proofs.Session.Calculation
import Reckoner.Proofs.Session.Parts
import Reckoner.Proofs.Token.Reading

namespace Reckoner

open Evaluation

namespace Token

variable {lexicon : Lexicon} {text ds : List Char}

/-- The token of digits. -/
def ofDigits (position : Nat) (ds : List Char) : Token :=
  ⟨.number, String.ofList ds, position, some (.integer (Decimal.natOfDigits ds)), none⟩

theorem literal_of_digits (digits : ∀ d ∈ ds, d.isDigit) :
    literal ds = .integer (Decimal.natOfDigits ds) := by
  rw [literal, List.takeWhile_eq_self_iff.mpr digits, List.dropWhile_eq_nil_iff.mpr digits]

theorem readable_ofDigits (ne_nil : ds ≠ []) (digits : ∀ d ∈ ds, d.isDigit) (position : Nat) :
    Readable lexicon (ofDigits position ds) := by
  rw [ofDigits, ← literal_of_digits digits]
  exact readable_numeral lexicon position (Or.inl ⟨ne_nil, List.all_eq_true.mpr digits⟩)

/-- Digits are one token. -/
theorem scanFrom_digits (ne_nil : ds ≠ []) (digits : ∀ d ∈ ds, d.isDigit) (previous : Option Kind)
    (position : Nat) :
    scanFrom lexicon text previous position ds = .ok [ofDigits position ds] := by
  have spelled : (ofDigits position ds).spelling = ds := String.toList_ofList
  have fits : SignFits previous (ofDigits position ds) := ⟨nofun, nofun⟩
  have ends : Ends [] := nofun
  have alone : impliedProduct previous .number position = [] :=
    if_neg (by rw [Bool.and_eq_true]; exact fun both => nomatch both.2)
  have readable : Readable lexicon (ofDigits position ds) :=
    readable_ofDigits ne_nil digits position
  have read : scanFrom lexicon text previous position ((ofDigits position ds).spelling ++ []) = _ :=
    scanFrom_readable readable fits ends position
  rw [spelled, List.append_nil, scanFrom_nil] at read
  rw [read]
  exact congrArg (fun product => Except.ok (product ++ [ofDigits position ds])) alone

/-- Digits behind a minus are two tokens. -/
theorem scan_negative (ne_nil : ds ≠ []) (digits : ∀ d ∈ ds, d.isDigit) :
    scan lexicon ('-' :: ds) =
      .ok [Expression.token .unaryMinus negation, ofDigits 1 ds] := by
  have not_blank : ¬ Text.isBlank '-' := by decide
  have sign : lexeme? lexicon none '-' ds = some (.unaryMinus, []) := rfl
  have behind : scanFrom lexicon ('-' :: ds) (some .unaryMinus) 1 ds = .ok [ofDigits 1 ds] :=
    scanFrom_digits ne_nil digits (some .unaryMinus) 1
  rw [scan, scanFrom, if_neg not_blank, sign]
  simp only [List.length_nil, List.drop_zero, Nat.zero_add, Nat.add_zero, behind]
  rfl

end Token

namespace Session

variable (s : Session) {ds : List Char}

/-- A text whose tokens have a value without any random number has that value, and leaves the
session as it is. -/
theorem evaluate_of_scan {s : Session} {text : String} {tokens post : List Token} {v : Value}
    (scanned : Token.scan Lexicon.builtin text.toList = .ok tokens)
    (ordered : PostOrder.ofTokens tokens = .ok post)
    (valued : outcome (value s.environment post) s.random = (.ok (.plain v), s.random)) :
    s.evaluate text = (.ok v, s) := by
  have compiled : compile text.toList = .ok post := bind_eq_ok_iff.mpr ⟨tokens, scanned, ordered⟩
  have reckoned := (s.expressionOutcome_eq_ok_iff text.toList).mpr ⟨post, compiled, valued⟩
  rw [evaluate, s.calculate_of_none (Assignment.split?_eq_none_of_scan scanned), reckoned]
  rfl

/-- Digits have the value that they are read as. -/
theorem evaluate_digits (ne_nil : ds ≠ []) (digits : ∀ d ∈ ds, d.isDigit) :
    s.evaluate (String.ofList ds) = (.ok (.integer (Decimal.natOfDigits ds)), s) := by
  have scanned : Token.scan Lexicon.builtin (String.ofList ds).toList =
      .ok [Token.ofDigits 0 ds] := by
    rw [String.toList_ofList]
    exact Token.scanFrom_digits ne_nil digits none 0
  exact evaluate_of_scan scanned (PostOrder.ofTokens_written (.operand rfl)) rfl

/-- Digits behind a minus have the negated value. -/
theorem evaluate_negative (ne_nil : ds ≠ []) (digits : ∀ d ∈ ds, d.isDigit) :
    s.evaluate (String.ofList ('-' :: ds)) = (.ok (.integer (-Decimal.natOfDigits ds)), s) := by
  have scanned : Token.scan Lexicon.builtin (String.ofList ('-' :: ds)).toList =
      .ok [Expression.token .unaryMinus Token.negation, Token.ofDigits 1 ds] := by
    rw [String.toList_ofList]
    exact Token.scan_negative ne_nil digits
  exact evaluate_of_scan scanned
    (PostOrder.ofTokens_written (.negation rfl (Nat.zero_le _) (.operand rfl))) rfl

/-- **Integers of any length are written and read exactly.** The text of an integer is its numeral,
behind a minus if it is negative, and in every session it has the integer as its value. Digits are
read as what they stand for, and come back without the zeros in front. -/
theorem evaluate_integer_text :
    (∀ n : Int, s.evaluate (Decimal.ofInt n) = (.ok (.integer n), s) ∧
      ∃ ds, (Decimal.ofInt n).toList = (if n < 0 then ['-'] else []) ++ ds ∧
        Decimal.IsNumeralOf n.natAbs ds) ∧
    ∀ ds : List Char, ds ≠ [] → (∀ d ∈ ds, d.isDigit) →
      Decimal.natOfDigits ds = Decimal.positional ds ∧
        s.evaluateText (String.ofList ds) = (.ok (String.ofList (Decimal.withoutZeros ds)), s) := by
  constructor
  · intro n
    have numeral := Decimal.isNumeralOf_toDigits n.natAbs
    have spelled := Decimal.toList_ofInt n
    refine ⟨?_, _, spelled, numeral⟩
    have text : Decimal.ofInt n =
        String.ofList ((if n < 0 then ['-'] else []) ++ Nat.toDigits 10 n.natAbs) := by
      rw [← spelled, String.ofList_toList]
    have read : Decimal.natOfDigits (Nat.toDigits 10 n.natAbs) = n.natAbs := by
      rw [Decimal.natOfDigits_eq_positional, numeral.value]
    by_cases negative : n < 0
    · have value : -((n.natAbs : Nat) : Int) = n := by omega
      rw [text, if_pos negative, List.singleton_append,
        s.evaluate_negative numeral.ne_nil numeral.digits, read, value]
    · have value : ((n.natAbs : Nat) : Int) = n := by omega
      rw [text, if_neg negative, List.nil_append,
        s.evaluate_digits numeral.ne_nil numeral.digits, read, value]
  · intro ds ne_nil digits
    have numeral := Decimal.isNumeralOf_iff.mp (Decimal.isNumeralOf_withoutZeros digits)
    have written : Decimal.ofInt (Decimal.positional ds) =
        String.ofList (Decimal.withoutZeros ds) := by
      refine String.toList_inj.mp ?_
      rw [Decimal.toList_ofInt, String.toList_ofList, numeral, Int.natAbs_natCast,
        if_neg (Int.not_lt.mpr (Int.natCast_nonneg _)), List.nil_append]
    refine ⟨Decimal.natOfDigits_eq_positional ds, ?_⟩
    rw [evaluateText, s.evaluate_digits ne_nil digits, Decimal.natOfDigits_eq_positional, ← written]
    rfl

/-- One digit more than fits into a chunk, behind a zero: the chunks that are read and those that
are written are not the same. -/
theorem evaluate_integer_text_chunks :
    (∀ d ∈ '0' :: '7' :: (List.replicate 999 '0' ++ ['5']), d.isDigit) ∧
      (fresh defaultFactorialLimit (.cycle [])).evaluateText
          (String.ofList ('0' :: '7' :: (List.replicate 999 '0' ++ ['5']))) =
        (.ok (String.ofList ('7' :: (List.replicate 999 '0' ++ ['5']))),
          fresh defaultFactorialLimit (.cycle [])) := by
  have zeros : ∀ d ∈ List.replicate 999 '0', d.isDigit := fun d hd =>
    (List.eq_of_mem_replicate hd) ▸ rfl
  have digits : ∀ d ∈ '0' :: '7' :: (List.replicate 999 '0' ++ ['5']), d.isDigit :=
    List.forall_mem_cons.mpr ⟨rfl, List.forall_mem_cons.mpr ⟨rfl,
      List.forall_mem_append.mpr ⟨zeros, List.forall_mem_singleton.mpr rfl⟩⟩⟩
  exact ⟨digits, ((evaluate_integer_text (fresh defaultFactorialLimit (.cycle []))).2 _
    (List.cons_ne_nil _ _) digits).2⟩

end Session

end Reckoner
