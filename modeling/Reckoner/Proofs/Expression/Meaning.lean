import Reckoner.Proofs.Evaluation.Positions
import Reckoner.Proofs.Expression.Execution
import Reckoner.Proofs.Expression.Reading
import Reckoner.Proofs.Session.Calculation
import Reckoner.Proofs.Session.Parts

namespace Reckoner

/-- The same value, or faults of one kind with one message. -/
def SameOutcome : Except Fault Value → Except Fault Value → Prop
  | .ok v, .ok w => v = w
  | .error f, .error g => f.Alike g
  | _, _ => False

theorem SameOutcome.eq_ok {result : Except Fault Value} {v : Value}
    (h : SameOutcome result (.ok v)) : result = .ok v := by
  cases result with
  | error fault => exact h.elim
  | ok w => exact congrArg _ h

theorem sameOutcome_of_unplaced {a b : Except Fault (Marked Value)}
    (h : a.mapError Fault.unplaced = b.mapError Fault.unplaced) :
    SameOutcome (a.map Marked.content) (b.map Marked.content) := by
  cases a with
  | error f =>
    cases b with
    | error g => exact Fault.alike_of_unplaced (Except.error.inj h)
    | ok w => cases h
  | ok v =>
    cases b with
    | error g => cases h
    | ok w => exact congrArg Marked.content (Except.ok.inj h)

namespace Session

/-- The value of an expression in a session, found without any text, and the session afterwards. -/
def reckon (s : Session) (e : Expression) : Except Fault Value × Session :=
  let (outcome, random) := (e.value s.environment).outcome s.random
  (outcome.map Marked.content, { s with random := random })

theorem expressionValue_of_compile {env : Environment} {cs : List Char} {post : List Token}
    (h : compile cs = .ok post) : expressionValue env cs = Evaluation.value env post := by
  rw [expressionValue, h]
  rfl

end Session

namespace Expression

/-- The post-order of an expression reduces to its value. -/
theorem value_postOrder (env : Environment) {e : Expression} (writable : e.IsWritable) :
    Evaluation.value env e.tree.postOrder = e.value env := by
  rw [Evaluation.value, execute_postOrder env e writable, bind_assoc, value]
  congr 1

/-- **The meaning of a text.** A text that writes an expression down has the value of the
expression, or fails as it does, and draws the same random numbers. -/
theorem evaluate_of_writtenAs (s : Session) {e : Expression} {text : String}
    (writable : e.IsWritable) (written : e.WrittenAs text.toList) :
    SameOutcome (s.evaluate text).1 (s.reckon e).1 ∧ (s.evaluate text).2 = (s.reckon e).2 := by
  obtain ⟨tokens, post, hscan, hcompile, same⟩ := exists_compile_of_writtenAs writable written
  have unplaced := Evaluation.value_congr_unplaced s.environment same
  rw [value_postOrder s.environment writable] at unplaced
  have outcomes := congrArg (fun m => Evaluation.outcome m s.random) unplaced
  simp only [Evaluation.outcome_unplaced, Prod.mk.injEq] at outcomes
  rw [Session.evaluate, s.calculate_of_none (Assignment.split?_eq_none_of_scan hscan),
    Session.expressionOutcome, Session.expressionValue_of_compile hcompile, Session.reckon]
  refine ⟨sameOutcome_of_unplaced outcomes.1, ?_⟩
  rw [outcomes.2]

/-- The product `-2 * (x + 1)`, written without its sign, where `x` is three. -/
theorem evaluate_of_writtenAs_product :
    (((Session.fresh 170 (.cycle [])).set "x" (.integer 3)).evaluate "- 2 ( x + 1 ) ").1 =
      .ok (.integer (-8)) := by
  have writable : IsWritable (.operation .mul (.negation (.numeral ['2']))
      (.operation .add (.variableNamed "x") (.numeral ['1']))) :=
    ⟨Or.inl (by decide), ⟨⟨'x', [], by decide⟩, by decide⟩, Or.inl (by decide)⟩
  have product : Token.Written 0 (tree (.operation .mul (.negation (.numeral ['2']))
      (.operation .add (.variableNamed "x") (.numeral ['1']))))
      (_ ++ _ :: token .leftParen "(" :: (_ ++ [token .rightParen ")"])) :=
    .operation (by decide) (by decide)
      (.negation (by decide) (by decide) (.operand (by decide)))
      (.group rfl rfl (.operation (by decide) (by decide) (.operand (by decide))
        (.operand (by decide))))
  have blank : Text.isBlank ' ' := by decide
  have space : ∀ c ∈ [' '], Text.isBlank c := List.forall_mem_singleton.mpr blank
  have nothing : ∀ c ∈ ([] : List Char), Text.isBlank c := List.forall_mem_nil _
  have written : WrittenAs _ ("- 2 ( x + 1 ) ").toList :=
    ⟨_, _, product, by decide,
      .keep (.keep (.leaveOut rfl rfl rfl (.keep (.keep (.keep (.keep (.keep .nil))))))),
      .more nothing blank (.more nothing blank (.more nothing blank (.more nothing blank
        (.more nothing blank (.more nothing blank (.last nothing space))))))⟩
  have meaning := evaluate_of_writtenAs ((Session.fresh 170 (.cycle [])).set "x" (.integer 3))
    writable written
  exact SameOutcome.eq_ok meaning.1

end Expression

end Reckoner
