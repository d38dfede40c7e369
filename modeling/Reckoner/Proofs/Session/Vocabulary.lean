import Reckoner.Proofs.Evaluation.Faults
import Reckoner.Proofs.Session.Traps

/-!
What a text can say. The reader takes names and symbols for functions, constants and operators by
lists of its own, and the evaluation looks each of them up again: whatever text is accepted, all
that it looks up is there, and nothing else is left to evaluate.
-/
namespace Reckoner

open Evaluation

namespace Token

/-- The token says what to do with the stack, and if it names a constant, there is one of that name.
-/
def IsKnown (t : Token) : Prop :=
  t.isInstruction ∧ (t.kind = .constant → (Constant.ofName? t.lexeme).isSome)

theorem isSome_builtin_of_mem {name : String} (h : name ∈ Builtin.names) :
    (Builtin.ofName? name).isSome := by
  rw [Option.isSome_iff_ne_none, Ne, Builtin.ofName?_eq_none_iff, not_not]
  exact h

theorem isSome_constant_of_mem {name : String} (h : name ∈ Constant.names) :
    (Constant.ofName? name).isSome := by
  rw [Option.isSome_iff_ne_none, Ne, Constant.ofName?_eq_none_iff, not_not]
  exact h

/-- An identifier that is taken for a function or a constant is one. -/
theorem isKnown_name (position : Nat) (cs : List Char) :
    (ofLexeme (Lexicon.builtin.kindOf (String.ofList cs)) position cs).IsKnown := by
  unfold Lexicon.kindOf
  split
  · rename_i function
    exact ⟨isSome_builtin_of_mem (List.contains_iff_mem.mp function), nofun⟩
  split
  · rename_i constant
    exact ⟨rfl, fun _ => isSome_constant_of_mem (List.contains_iff_mem.mp constant)⟩
  · exact ⟨rfl, nofun⟩

/-- Every lexeme but a parenthesis or a comma is known. -/
theorem isKnown_of_lexeme? {previous : Option Kind} {c : Char} {cs tail : List Char} {kind : Kind}
    (h : lexeme? Lexicon.builtin previous c cs = some (kind, tail)) (position : Nat) :
    ¬ (ofLexeme kind position (c :: tail)).IsMark →
      (ofLexeme kind position (c :: tail)).IsKnown := by
  intro unmarked
  cases lexeme_of_lexeme? h with
  | number | fraction => exact ⟨rfl, nofun⟩
  | name => exact isKnown_name position _
  | leftParen => exact absurd (Or.inl rfl) unmarked
  | rightParen => exact absurd (Or.inr (Or.inl rfl)) unmarked
  | comma => exact absurd (Or.inr (Or.inr rfl)) unmarked
  | minus =>
    obtain hk | hk := minusKind_eq previous <;> rw [hk] <;> exact ⟨rfl, nofun⟩
  | operator symbol => exact ⟨isSome_ofSymbol?_of_isOperatorChar symbol, nofun⟩

/-- All that is read but parentheses and commas is known. -/
theorem isKnown_of_scan {text : List Char} {tokens : List Token}
    (h : scan Lexicon.builtin text = .ok tokens) : ∀ t ∈ tokens, ¬ t.IsMark → t.IsKnown :=
  forall_mem_of_scanFrom (fun _ _ => ⟨rfl, nofun⟩) (fun found => isKnown_of_lexeme? found) h

end Token

/-- The fault is that of a token which cannot be evaluated at all: one that only serves to write an
expression down, or a name or symbol that nothing is known of. -/
def Fault.IsInternal : Fault → Prop
  | .structural (.unexpectedToken _ _) | .structural (.unknownOperator _ _)
  | .naming (.unknownConstant _) | .naming (.unknownFunction _ _) => True
  | _ => False

namespace Evaluation

variable (env : Environment) {stack : Stack}

theorem not_isInternal_shortage (t : Token) (available : Nat) :
    ¬ (Fault.structural (shortage t available)).IsInternal := by
  unfold shortage
  split
  · exact id
  · rename_i f _ _
    cases f <;> exact id
  · exact id

theorem not_isInternal_of_ofOperands {fault : Fault} (h : fault.OfOperands) :
    ¬ fault.IsInternal := by
  cases fault with
  | domain | uncaught => exact id
  | syntactic | naming | structural => exact h.elim

/-- What is known can be looked up. -/
theorem step_stopsWith_of_isKnown {t : Token} (known : t.IsKnown) :
    StopsWith (fun fault => ¬ fault.IsInternal) (step env stack t) := by
  refine (step_stopsWith env known.1).mono fun fault reason => ?_
  cases reason with
  | shortage => exact not_isInternal_shortage t _
  | undefinedVariable => exact id
  | unknownConstant constant_kind unknown =>
    exact absurd unknown (Option.isSome_iff_ne_none.mp (known.2 constant_kind))
  | operands _ blamed => exact not_isInternal_of_ofOperands blamed

theorem value_stopsWith_of_isKnown {ts : List Token} (known : ∀ t ∈ ts, t.IsKnown) :
    StopsWith (fun fault => ¬ fault.IsInternal) (value env ts) :=
  value_stopsWith env (fun t ht _ => step_stopsWith_of_isKnown env (known t ht))
    (fun _ => not_isInternal_of_ofOperands) (fun _ => id)

end Evaluation

namespace Session

/-- All tokens of every accepted text are known. -/
theorem isKnown_of_compile {cs : List Char} {post : List Token} (h : compile cs = .ok post) :
    ∀ t ∈ post, t.IsKnown := by
  obtain ⟨tokens, scanned, ordered⟩ := bind_eq_ok_iff.mp h
  exact PostOrder.forall_mem_ofTokens_of_unmarked (fun _ _ known => known) ordered
    (Token.isKnown_of_scan scanned)

/-- Nothing but numbers comes on the stack, however far an accepted text is evaluated. -/
theorem execute_ensures_numbers_of_compile (env : Environment) {cs : List Char}
    {before behind : List Token} (h : compile cs = .ok (before ++ behind)) :
    Ensures (execute env [] before) AreNumbers :=
  execute_ensures_numbers env areNumbers_nil fun t ht =>
    valued_of_compile h t (List.mem_append_left behind ht)

/-- **Nothing unknown is evaluated.** Whatever is assigned in a session, all tokens of an accepted
text are known, only numbers come on the stack at any time, and no evaluation fails for a token that
it cannot evaluate. -/
theorem evaluate_not_isInternal (s : Session) (text : String) :
    (∀ cs post, compile cs = .ok post → (∀ t ∈ post, t.IsKnown) ∧
      ∀ before behind, post = before ++ behind →
        Ensures (execute s.environment [] before) AreNumbers) ∧
    ∀ fault, (s.evaluate text).1 = .error fault → ¬ fault.IsInternal := by
  refine ⟨fun cs post compiled => ⟨isKnown_of_compile compiled, ?_⟩, fun fault failed => ?_⟩
  · rintro before behind rfl
    exact execute_ensures_numbers_of_compile s.environment compiled
  · obtain ⟨later, stopped⟩ := (s.evaluate_eq_error_iff text).mp failed
    rw [expressionOutcome, expressionValue] at stopped
    cases compiled : compile (Assignment.chain text.toList).2 with
    | error reason =>
      rw [compiled] at stopped
      cases stopped
      exact id
    | ok post =>
      rw [compiled] at stopped
      exact value_stopsWith_of_isKnown s.environment (isKnown_of_compile compiled) _ _ _ stopped

/-- A function without parentheses is looked up, and has too few arguments. -/
theorem evaluate_not_isInternal_max :
    ((fresh defaultFactorialLimit (.cycle [])).evaluate "e = 2 pi ^ -max").1 =
        .error (.domain (.tooFewArguments "max" 1 0 8)) ∧
      ¬ (Fault.domain (.tooFewArguments "max" 1 0 8)).IsInternal := by
  have failed : ((fresh defaultFactorialLimit (.cycle [])).evaluate "e = 2 pi ^ -max").1 =
      .error (.domain (.tooFewArguments "max" 1 0 8)) := by decide +kernel
  exact ⟨failed, (evaluate_not_isInternal _ _).2 _ failed⟩

end Session

end Reckoner
