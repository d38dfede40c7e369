import Reckoner.Proofs.Evaluation.Outcome
import Reckoner.Proofs.Expression.Reading
import Reckoner.Proofs.PostOrder.Members
import Reckoner.Proofs.Session.History
import Reckoner.Proofs.Session.Parts
import Reckoner.Proofs.Token.Lexemes
import Reckoner.Proofs.Token.Scanned

namespace Reckoner

open Evaluation Token

namespace Assignment

/-- A name, the sign of an assignment and anything behind it assign to the name. -/
theorem exists_split? {name : String} (h : IsName name) (e : String) :
    ∃ right, split? (name ++ " = " ++ e).toList = some (name, right) := by
  let p : Parts := {
    before := []
    name := name
    between := [' ']
    right := ' ' :: e.toList
    before_blank := List.forall_mem_nil _
    named := h
    between_blank := List.forall_mem_singleton.mpr (by decide)
    right_ne_nil := List.cons_ne_nil ' ' _ }
  have text : (name ++ " = " ++ e).toList = p.text := by simp [Parts.text, p]
  exact ⟨p.body, text ▸ p.split?_text⟩

theorem mem_chain_of_split? {cs right : List Char} {name : String}
    (h : split? cs = some (name, right)) : name ∈ (chain cs).1 := by
  rw [chain_of_some h]
  exact List.mem_cons_self

end Assignment

namespace Token

variable {lexicon : Lexicon} {previous : Option Kind} {c : Char} {cs tail : List Char} {kind : Kind}

theorem lexeme_ofLexeme (h : kind ≠ .unaryMinus) (position : Nat) (cs : List Char) :
    (ofLexeme kind position cs).lexeme = String.ofList cs := by
  cases kind <;> first | rfl | exact absurd rfl h

/-- A lexeme that is a word is of the kind that the lexicon has for it. -/
theorem kind_of_isName_lexeme? (h : lexeme? lexicon previous c cs = some (kind, tail))
    (position : Nat)
    (word : Expression.isName (ofLexeme kind position (c :: tail)).lexeme.toList) :
    (ofLexeme kind position (c :: tail)).kind =
      lexicon.kindOf (ofLexeme kind position (c :: tail)).lexeme := by
  by_cases sign : kind = .unaryMinus
  · subst sign
    have no_word : Expression.isName negation.toList = false := by decide
    exact absurd (word.symm.trans no_word) nofun
  rw [lexeme_ofLexeme sign] at word ⊢
  rw [kind_ofLexeme]
  have letter : Text.isLetter c := by
    rw [String.toList_ofList, Expression.isName, Bool.and_eq_true] at word
    exact word.1
  rw [lexeme?_of_isLetter lexicon letter] at h
  cases h
  rfl

/-- Every word among the tokens of a text is of the kind that the lexicon has for it. -/
theorem kind_of_isName {text : List Char} {tokens : List Token}
    (h : scan lexicon text = .ok tokens) :
    ∀ t ∈ tokens, Expression.isName t.lexeme.toList → t.kind = lexicon.kindOf t.lexeme := by
  have no_word : Expression.isName "*".toList = false := by decide
  exact forall_mem_of_scanFrom (fun _ word => absurd (word.symm.trans no_word) nofun)
    kind_of_isName_lexeme? h

end Token

/-- A name that can be assigned to and has no meaning yet is the name of a variable. -/
theorem Assignment.IsName.isVariableName {name : String} (assignable : Assignment.IsName name)
    (no_function : name ∉ Builtin.names) (no_constant : name ∉ Constant.names) :
    Expression.IsVariableName name := by
  obtain ⟨c, rest, spelled, start, parts⟩ := assignable
  refine ⟨⟨c, rest, spelled, Text.isLetter_of_isAlpha start, ?_⟩, ?_⟩
  · refine List.all_eq_true.mpr fun d hd => ?_
    obtain alpha | digit := (Bool.or_eq_true _ _).mp (parts d hd)
    · rw [isNameChar, Text.isLetter_of_isAlpha alpha, Bool.true_or]
    · rw [isNameChar, digit, Bool.or_true]
  · have function : Lexicon.builtin.functions.contains name = false := by
      simpa [Lexicon.builtin] using no_function
    have constant : Lexicon.builtin.constants.contains name = false := by
      simpa [Lexicon.builtin] using no_constant
    simp only [Lexicon.kindOf, function, constant, Bool.false_eq_true, if_false]

theorem Expression.IsVariableName.isName {name : String} (h : Expression.IsVariableName name) :
    Expression.isName name.toList := by
  obtain ⟨⟨c, rest, spelled, hc, hrest⟩, _⟩ := h
  rw [spelled, Expression.isName, hc, hrest]
  rfl

namespace Session

theorem scan_variableName {name : String} (h : Expression.IsVariableName name) :
    scan Lexicon.builtin name.toList = .ok [⟨.variableName, name, 0, none, none⟩] := by
  have fits : SignFits none (Expression.token .variableName name) := ⟨nofun, nofun⟩
  have ends : Ends [] := nofun
  have read : scan Lexicon.builtin (name.toList ++ []) = _ :=
    scanFrom_readable (Expression.readable_variableName h) fits ends 0
  rw [List.append_nil] at read
  rw [read, scanFrom_nil]
  rfl

variable (env : Environment)

theorem step_variableName {t : Token} (hk : t.kind = .variableName) {w : Marked Value}
    (bound : env.bindings.get? t.lexeme = some w) (stack : Stack) :
    step env stack t = pure (operand w :: stack) := by
  simp only [step, hk, variableNamed, bound, pure_bind]

/-- A bound variable alone has the value that it is bound to. -/
theorem outcome_variableName {t : Token} (hk : t.kind = .variableName) {w : Marked Value}
    (bound : env.bindings.get? t.lexeme = some w) (random : RandomSource) :
    outcome (value env [t]) random = (.ok w, random) := by
  rw [value, execute_singleton, step_variableName env hk bound, pure_bind]
  rfl

/-- The name stands for the number. Alone it has that value, and wherever it is written in an
expression it is a variable, in place of which the number comes on the stack. -/
structure StandsFor (s : Session) (name : String) (v : Value) : Prop where
  alone : (s.evaluate name).1 = .ok v
  isVariable : ∀ cs tokens, scan Lexicon.builtin cs = .ok tokens →
    ∀ t ∈ tokens, t.lexeme = name → t.kind = .variableName
  operand : ∀ cs before t behind, compile cs = .ok (before ++ t :: behind) → t.lexeme = name →
    ∃ x : Operand, x.content = .number v ∧
      execute s.environment [] (before ++ t :: behind) =
        execute s.environment [] before >>= fun stack => execute s.environment (x :: stack) behind

theorem standsFor_of_get? {s : Session} {name : String} {v : Value}
    (named : Expression.IsVariableName name) (bound : s.get? name = some v) :
    s.StandsFor name v := by
  obtain ⟨w, hw, rfl⟩ := Option.map_eq_some_iff.mp bound
  have isVariable : ∀ cs tokens, scan Lexicon.builtin cs = .ok tokens →
      ∀ t ∈ tokens, t.lexeme = name → t.kind = .variableName := by
    rintro cs tokens scanned t ht rfl
    exact (kind_of_isName scanned t ht named.isName).trans named.2
  refine ⟨?_, isVariable, fun cs before t behind compiled hname => ?_⟩
  · have scanned := scan_variableName named
    have ordered : PostOrder.ofTokens [⟨.variableName, name, 0, none, none⟩] =
        .ok [⟨.variableName, name, 0, none, none⟩] :=
      PostOrder.ofTokens_written (.operand rfl)
    have alone := Assignment.chain_of_none (Assignment.split?_eq_none_of_scan scanned)
    refine (s.evaluate_eq_ok_iff name).mpr ⟨w, s.random, ?_, rfl⟩
    rw [alone]
    refine (s.expressionOutcome_eq_ok_iff _).mpr ⟨_, bind_eq_ok_iff.mpr ⟨_, scanned, ordered⟩, ?_⟩
    have here : s.environment.bindings.get? name = some w := hw
    exact outcome_variableName s.environment rfl here s.random
  · obtain ⟨tokens, scanned, ordered⟩ := bind_eq_ok_iff.mp compiled
    have same_kind := PostOrder.forall_mem_ofTokens
      (p := fun t => t.lexeme = name → t.kind = .variableName) (fun _ _ h => h) ordered
      (isVariable cs tokens scanned)
    have hk := same_kind t (List.mem_append_right _ List.mem_cons_self) hname
    refine ⟨Evaluation.operand w, rfl, ?_⟩
    rw [execute_append]
    refine congrArg _ (funext fun stack => ?_)
    rw [execute_cons, step_variableName s.environment hk (hname ▸ hw), pure_bind]

/-- What a step with its answer does to the name: it binds it again, deletes it, or clears all. -/
def Step.Touches (name : String) : Step × Answer → Prop
  | (.evaluate text, .outcome (.ok _)) => name ∈ (Assignment.chain text.toList).1
  | (.evaluate _, _) => False
  | (.set other _, _) => other = name
  | (.delete other, _) => other = name
  | (.clear, _) => True

theorem replay_of_not_touches {name : String} {entry : Step × Answer}
    (h : ¬ Step.Touches name entry) (vars : Variables) :
    Step.replay vars entry name = vars name := by
  obtain ⟨step, answer⟩ := entry
  cases step with
  | evaluate text =>
    cases answer with
    | outcome result =>
      cases result with
      | ok v => exact if_neg h
      | error fault => rfl
    | present found => rfl
    | nothing => rfl
  | set other v => exact if_neg h
  | delete other => exact if_neg h
  | clear => exact absurd trivial h

theorem foldl_replay_of_not_touches {name : String} {log : List (Step × Answer)}
    (h : ∀ entry ∈ log, ¬ Step.Touches name entry) (vars : Variables) :
    log.foldl Step.replay vars name = vars name := by
  induction log generalizing vars with
  | nil => rfl
  | cons entry log ih =>
    obtain ⟨first, rest⟩ := List.forall_mem_cons.mp h
    rw [List.foldl_cons, ih rest, replay_of_not_touches first]

/-- An assignment that succeeds binds its name to what it gives back. -/
theorem get?_of_assigned {s : Session} {name e : String} {v : Value}
    (assignable : Assignment.IsName name)
    (assigned : (s.evaluate (name ++ " = " ++ e)).1 = .ok v) :
    (s.evaluate (name ++ " = " ++ e)).2.get? name = some v := by
  obtain ⟨right, split⟩ := Assignment.exists_split? assignable e
  have replayed := (s.perform_spec (.evaluate (name ++ " = " ++ e))).2
  simp only [perform, assigned, Step.replay] at replayed
  rw [replayed]
  exact if_pos (Assignment.mem_chain_of_split? split)

/-- **What is written is read.** If a name that can be assigned to is not the name of a function or
of a constant, and an assignment to it gives a number back, the name stands for that number, right
behind the assignment and after all further steps that neither bind it again nor delete it nor clear
the variables. -/
theorem standsFor_of_assigned (s : Session) {name e : String} {v : Value}
    (assignable : Assignment.IsName name) (no_function : name ∉ Builtin.names)
    (no_constant : name ∉ Constant.names)
    (assigned : (s.evaluate (name ++ " = " ++ e)).1 = .ok v) (steps : List Step)
    (untouched : ∀ entry ∈ (s.evaluate (name ++ " = " ++ e)).2.log steps,
      ¬ Step.Touches name entry) :
    ((s.evaluate (name ++ " = " ++ e)).2.run steps).StandsFor name v := by
  refine standsFor_of_get? (assignable.isVariableName no_function no_constant) ?_
  rw [get?_run, foldl_replay_of_not_touches untouched]
  exact get?_of_assigned assignable assigned

/-- The name of a constant can be assigned to, and is still the name of the constant. -/
theorem evaluate_pi_assigned :
    Assignment.IsName "pi" ∧
      ((fresh defaultFactorialLimit (.cycle [])).evaluate ("pi" ++ " = " ++ "3")).1 =
        .ok (.integer 3) ∧
      (((fresh defaultFactorialLimit (.cycle [])).evaluate ("pi" ++ " = " ++ "3")).2.evaluate
        "pi").1 ≠ .ok (.integer 3) := by
  refine ⟨⟨'p', ['i'], rfl, rfl, fun d hd => ?_⟩, by decide +kernel, by decide +kernel⟩
  cases List.mem_singleton.mp hd
  rfl

theorem standsFor_of_assigned_sum :
    ((fresh defaultFactorialLimit (.cycle [])).evaluate ("x" ++ " = " ++ "2 + 3")).1 =
        .ok (.integer 5) ∧
      (((fresh defaultFactorialLimit (.cycle [])).evaluate ("x" ++ " = " ++ "2 + 3")).2.run
        [.evaluate "y = x ^ x"]).StandsFor "x" (.integer 5) := by
  have named : Assignment.IsName "x" := ⟨'x', [], rfl, rfl, List.forall_mem_nil _⟩
  have assigned : ((fresh defaultFactorialLimit (.cycle [])).evaluate
      ("x" ++ " = " ++ "2 + 3")).1 = .ok (.integer 5) := by
    decide +kernel
  have power : (((fresh defaultFactorialLimit (.cycle [])).evaluate
      ("x" ++ " = " ++ "2 + 3")).2.evaluate "y = x ^ x").1 = .ok (.integer 3125) := by
    decide +kernel
  refine ⟨assigned,
    standsFor_of_assigned _ named (by decide) (by decide) assigned [.evaluate "y = x ^ x"] ?_⟩
  refine List.forall_mem_singleton.mpr ?_
  rw [perform, power]
  have other : "x" ∉ (Assignment.chain "y = x ^ x".toList).1 := by decide +kernel
  exact other

end Session

end Reckoner
