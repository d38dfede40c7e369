import Reckoner.Proofs.Builtin.Related
import Reckoner.Proofs.Evaluation.Outcome

namespace Reckoner.Evaluation

section Together

variable {α α' β β' : Type} {R : α → β → Prop} {S : α' → β' → Prop}

/-- With the same random numbers both computations leave the same behind, and have values that
belong together or faults that differ in the suggestion at most. -/
def Together (R : α → β → Prop) (m : Evaluation α) (m' : Evaluation β) : Prop :=
  ∀ random, Related Fault.AlikeButHint R (outcome m random).1 (outcome m' random).1 ∧
    (outcome m random).2 = (outcome m' random).2

theorem together_pure {a : α} {b : β} (h : R a b) : Together R (pure a) (pure b) :=
  fun _ => ⟨.ok h, rfl⟩

theorem together_throw {fault fault' : Fault} (h : fault.AlikeButHint fault') :
    Together R (throw fault) (throw fault') :=
  fun _ => ⟨.error h, rfl⟩

theorem together_ofExcept {result : Except Fault α} {result' : Except Fault β}
    (h : Related Eq R result result') : Together R (ofExcept result) (ofExcept result') :=
  fun _ => ⟨h.mono fun _ _ => Fault.alikeButHint_of_eq, rfl⟩

theorem Together.bind {m : Evaluation α} {m' : Evaluation β} {f : α → Evaluation α'}
    {g : β → Evaluation β'} (h : Together R m m') (hfg : ∀ a b, R a b → Together S (f a) (g b)) :
    Together S (m >>= f) (m' >>= g) := by
  intro random
  obtain ⟨results, later⟩ := h random
  cases hm : outcome m random with
  | mk result mid =>
    cases hm' : outcome m' random with
    | mk result' mid' =>
      rw [hm, hm'] at results later
      -- The second parts go on with the same random numbers.
      cases later
      cases results with
      | ok values =>
        rw [outcome_bind_of_ok hm, outcome_bind_of_ok hm']
        exact hfg _ _ values mid
      | error failures =>
        rw [outcome_bind_of_error hm, outcome_bind_of_error hm']
        exact ⟨.error failures, rfl⟩

end Together

variable {p : Pairing}

/-- Stacks of the same height with the same numbers. -/
abbrev PairedStacks (p : Pairing) : Stack → Stack → Prop :=
  List.Forall₂ (Marked.Paired p)

/-- In both environments factorials have the same limit, and the names stand for numbers that belong
together, or for nothing. -/
structure PairedAt (p : Pairing) (names : String → Prop) (env env' : Environment) : Prop where
  limit_eq : env.factorialLimit = env'.factorialLimit
  get?_rel : ∀ name, names name →
    Option.Rel (Marked.Paired p) (env.bindings.get? name) (env'.bindings.get? name)

variable {names : String → Prop} {env env' : Environment} {stack stack' : Stack} {t : Token}

theorem together_draw : Together (Marked.Paired p) RandomSource.draw RandomSource.draw := by
  intro random
  refine ⟨.ok ⟨rfl, ?_⟩, rfl⟩
  unfold RandomSource.next Marked.keptAt
  split
  · exact p.drawn _
  · exact p.unmarked

theorem together_call (limit : Int) (f : Builtin) {arguments arguments' : List Operand}
    (h : List.Forall₂ (Marked.Paired p) arguments arguments') :
    Together (Marked.Paired p) (f.call limit arguments) (f.call limit arguments') := by
  have same := Marked.map_content_eq h
  cases f with
  | unary f =>
    simp only [Builtin.call, same]
    exact (together_ofExcept (.refl _)).bind fun _ _ value =>
      together_pure (value ▸ Marked.paired_plain _)
  | binary f =>
    simp only [Builtin.call, same]
    exact (together_ofExcept (.refl _)).bind fun _ _ value =>
      together_pure (value ▸ Marked.paired_plain _)
  | variadic f => exact together_ofExcept (f.related_call h)
  | clamp => exact together_ofExcept (Builtin.related_clampCall h)
  | random => exact together_draw

/-- What is reckoned from the same numbers is the same number. -/
theorem together_reckoned (result : Except Fault Value) (h : PairedStacks p stack stack') :
    Together (PairedStacks p) (reckoned result >>= fun x => pure (x :: stack))
      (reckoned result >>= fun x => pure (x :: stack')) := by
  refine Together.bind (R := Marked.Paired p) ?_ fun _ _ hx => together_pure (.cons hx h)
  exact (together_ofExcept (.refl _)).bind fun _ _ value =>
    together_pure (value ▸ Marked.paired_plain _)

theorem together_applySign (h : PairedStacks p stack stack') :
    Together (PairedStacks p) (applySign t stack) (applySign t stack') := by
  cases h with
  | nil => exact together_throw (Fault.alikeButHint_of_eq rfl)
  | cons hx rest =>
    rw [applySign, applySign, hx.content_eq]
    exact together_reckoned _ rest

theorem together_applyOperator (h : PairedStacks p stack stack') :
    Together (PairedStacks p) (applyOperator t stack) (applyOperator t stack') := by
  match stack, stack', h with
  | _, _, .nil | _, _, .cons _ .nil => exact together_throw (Fault.alikeButHint_of_eq rfl)
  | _, _, .cons hr (.cons hl rest) =>
    rw [applyOperator, applyOperator, hl.content_eq, hr.content_eq]
    cases Operator.ofSymbol? t.lexeme with
    | none => exact together_throw (Fault.alikeButHint_of_eq rfl)
    | some op => exact together_reckoned _ rest

theorem together_applyBuiltin (limit : env.factorialLimit = env'.factorialLimit) (f : Builtin)
    (h : PairedStacks p stack stack') :
    Together (PairedStacks p) (applyBuiltin env t f stack) (applyBuiltin env' t f stack') := by
  by_cases missing : stack.length < argumentCount f t
  · have missing' := h.length_eq ▸ missing
    rw [applyBuiltin_of_missing env t f missing, applyBuiltin_of_missing env' t f missing',
      h.length_eq]
    exact together_throw (Fault.alikeButHint_of_eq rfl)
  have missing' := h.length_eq ▸ missing
  by_cases few : argumentCount f t < f.arity.least
  · rw [applyBuiltin_of_tooFew env t f missing few, applyBuiltin_of_tooFew env' t f missing' few]
    exact together_throw (Fault.alikeButHint_of_eq rfl)
  rw [applyBuiltin_of_enough env t f missing few, applyBuiltin_of_enough env' t f missing' few,
    limit]
  have arguments := List.rel_reverse (List.forall₂_take (argumentCount f t).toNat h)
  refine (together_call _ f arguments).bind fun v v' hv => together_pure ?_
  exact .cons (hv.map _) (List.forall₂_drop _ h)

theorem together_variableNamed {name : String}
    (h : Option.Rel (Marked.Paired p) (env.bindings.get? name) (env'.bindings.get? name)) :
    Together (Marked.Paired p) (variableNamed env name) (variableNamed env' name) := by
  unfold variableNamed
  generalize env.bindings.get? name = v at h ⊢
  generalize env'.bindings.get? name = v' at h ⊢
  cases h with
  | some hv => exact together_pure (hv.map _)
  | none => exact together_throw (Fault.alikeButHint_undefinedVariable _ _ _)

theorem together_constantNamed (name : String) :
    Together (Marked.Paired p) (constantNamed name) (constantNamed name) := by
  unfold constantNamed
  split
  · exact together_pure (Marked.paired_plain _)
  · exact together_throw (Fault.alikeButHint_of_eq rfl)

theorem paired_numberOf (t : Token) : (numberOf t).Paired p (numberOf t) := by
  unfold numberOf
  split <;> exact Marked.paired_plain _

/-- **One step in two evaluations.** Of the environment it only reads the limit of factorials and,
if the token is a variable, what that stands for. -/
theorem together_step (envs : PairedAt p names env env')
    (named : t.kind = .variableName → names t.lexeme) (h : PairedStacks p stack stack') :
    Together (PairedStacks p) (step env stack t) (step env' stack' t) := by
  unfold step
  cases hk : t.kind with
  | number => exact together_pure (.cons (paired_numberOf t) h)
  | constant =>
    exact (together_constantNamed _).bind fun _ _ hx => together_pure (.cons hx h)
  | variableName =>
    exact (together_variableNamed (envs.get?_rel _ (named hk))).bind fun _ _ hx =>
      together_pure (.cons hx h)
  | unaryMinus => exact together_applySign h
  | operator => exact together_applyOperator h
  | function =>
    dsimp only
    unfold applyFunction
    cases Builtin.ofName? t.lexeme with
    | none => exact together_throw (Fault.alikeButHint_of_eq rfl)
    | some f => exact together_applyBuiltin envs.limit_eq f h
  | leftParen | rightParen | comma => exact together_throw (Fault.alikeButHint_of_eq rfl)

theorem together_execute (envs : PairedAt p names env env') {ts : List Token}
    (named : ∀ t ∈ ts, t.kind = .variableName → names t.lexeme) (h : PairedStacks p stack stack') :
    Together (PairedStacks p) (execute env stack ts) (execute env' stack' ts) := by
  induction ts generalizing stack stack' with
  | nil => exact together_pure h
  | cons t ts ih =>
    obtain ⟨first, later⟩ := List.forall_mem_cons.mp named
    rw [execute_cons, execute_cons]
    exact (together_step envs first h).bind fun _ _ next => ih later next

theorem together_result {x x' : Operand} (h : x.Paired p x') :
    Together (Marked.Paired p) (result x) (result x') := by
  unfold result
  rw [h.content_eq]
  exact (together_ofExcept (.refl _)).bind fun _ _ value =>
    together_pure ⟨value, h.mark_rel⟩

theorem together_value (envs : PairedAt p names env env') {ts : List Token}
    (named : ∀ t ∈ ts, t.kind = .variableName → names t.lexeme) :
    Together (Marked.Paired p) (value env ts) (value env' ts) := by
  refine (together_execute envs named .nil).bind fun stack stack' h => ?_
  match stack, stack', h with
  | _, _, .cons hx .nil => exact together_result hx
  | _, _, .nil => exact together_throw (Fault.alikeButHint_of_eq rfl)
  | _, _, .cons _ (.cons _ rest) =>
    have length := rest.length_eq
    refine together_throw (Fault.alikeButHint_of_eq ?_)
    simp only [List.length_cons, length]

end Reckoner.Evaluation
