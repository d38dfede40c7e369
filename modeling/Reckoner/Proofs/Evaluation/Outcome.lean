import Reckoner.Evaluation

namespace Reckoner.Evaluation

variable {α β : Type}

theorem eq_of_outcome {m n : Evaluation α} (h : ∀ random, outcome m random = outcome n random) :
    m = n :=
  funext h

theorem outcome_throw (fault : Fault) (random : RandomSource) :
    outcome (throw fault : Evaluation α) random = (.error fault, random) := rfl

theorem outcome_ofExcept (result : Except Fault α) (random : RandomSource) :
    outcome (ofExcept result) random = (result, random) := rfl

/-- What is made of a result draws nothing either. -/
theorem outcome_ofExcept_bind_pure (result : Except Fault α) (f : α → β) (random : RandomSource) :
    outcome (ofExcept result >>= fun a => pure (f a)) random = (f <$> result, random) := by
  cases result <;> rfl

theorem outcome_bind_of_ok {m : Evaluation α} {random later : RandomSource} {a : α}
    (h : outcome m random = (.ok a, later)) (f : α → Evaluation β) :
    outcome (m >>= f) random = outcome (f a) later := by
  have h : m random = (.ok a, later) := h
  change ExceptT.bindCont f (m random).1 (m random).2 = _
  rw [h]
  rfl

theorem outcome_bind_of_error {m : Evaluation α} {random later : RandomSource} {fault : Fault}
    (h : outcome m random = (.error fault, later)) (f : α → Evaluation β) :
    outcome (m >>= f) random = (.error fault, later) := by
  have h : m random = (.error fault, later) := h
  change ExceptT.bindCont f (m random).1 (m random).2 = _
  rw [h]
  rfl

theorem throw_bind (fault : Fault) (f : α → Evaluation β) :
    (throw fault : Evaluation α) >>= f = throw fault :=
  eq_of_outcome fun random => outcome_bind_of_error (outcome_throw fault random) f

/-- A computation succeeds if both its parts do, one after the other. -/
theorem outcome_bind_eq_ok {m : Evaluation α} {f : α → Evaluation β} {random later : RandomSource}
    {b : β} : outcome (m >>= f) random = (.ok b, later) ↔
      ∃ a mid, outcome m random = (.ok a, mid) ∧ outcome (f a) mid = (.ok b, later) := by
  constructor
  · intro h
    cases hm : outcome m random with
    | mk result mid =>
      cases result with
      | error fault =>
        rw [outcome_bind_of_error hm] at h
        cases h
      | ok a => exact ⟨a, mid, rfl, by rw [← outcome_bind_of_ok hm, h]⟩
  · rintro ⟨a, mid, hm, hf⟩
    rw [outcome_bind_of_ok hm, hf]

/-- A computation fails in its first part, or in the second one. -/
theorem outcome_bind_eq_error {m : Evaluation α} {f : α → Evaluation β}
    {random later : RandomSource} {fault : Fault} :
    outcome (m >>= f) random = (.error fault, later) ↔
      outcome m random = (.error fault, later) ∨
        ∃ a mid, outcome m random = (.ok a, mid) ∧ outcome (f a) mid = (.error fault, later) := by
  constructor
  · intro h
    cases hm : outcome m random with
    | mk result mid =>
      cases result with
      | error other =>
        rw [outcome_bind_of_error hm] at h
        cases h
        exact Or.inl rfl
      | ok a => exact Or.inr ⟨a, mid, rfl, by rw [← outcome_bind_of_ok hm, h]⟩
  · rintro (h | ⟨a, mid, hm, hf⟩)
    · exact outcome_bind_of_error h f
    · rw [outcome_bind_of_ok hm, hf]

/-- Whenever the computation has a value, the value has the property. -/
def Ensures (m : Evaluation α) (p : α → Prop) : Prop :=
  ∀ random a later, outcome m random = (.ok a, later) → p a

theorem ensures_pure {a : α} {p : α → Prop} (h : p a) : Ensures (pure a) p := by
  intro random b later hb
  cases hb
  exact h

theorem ensures_throw (fault : Fault) (p : α → Prop) :
    Ensures (throw fault : Evaluation α) p := nofun

theorem Ensures.bind {m : Evaluation α} {f : α → Evaluation β} {p : α → Prop} {q : β → Prop}
    (h : Ensures m p) (hf : ∀ a, p a → Ensures (f a) q) : Ensures (m >>= f) q := by
  intro random b later hb
  obtain ⟨a, mid, hm, hfa⟩ := outcome_bind_eq_ok.mp hb
  exact hf a (h _ _ _ hm) _ _ _ hfa

/-- What is ensured of all that comes last is ensured of the whole. -/
theorem ensures_bind {m : Evaluation α} {f : α → Evaluation β} {q : β → Prop}
    (h : ∀ a, Ensures (f a) q) : Ensures (m >>= f) q :=
  Ensures.bind (p := fun _ => True) (fun _ _ _ _ => trivial) fun a _ => h a

/-- It matters only what is done with values that there can be. -/
theorem Ensures.bind_congr {m : Evaluation α} {f g : α → Evaluation β} {p : α → Prop}
    (h : Ensures m p) (hfg : ∀ a, p a → f a = g a) : m >>= f = m >>= g := by
  refine eq_of_outcome fun random => ?_
  cases hm : outcome m random with
  | mk result later =>
    cases result with
    | error fault => rw [outcome_bind_of_error hm, outcome_bind_of_error hm]
    | ok a =>
      rw [outcome_bind_of_ok hm, outcome_bind_of_ok hm, hfg a (h _ _ _ hm)]

section Stops

variable {p q : Fault → Prop}

/-- Whenever the computation stops with a fault, the fault has the property. -/
def StopsWith (p : Fault → Prop) (m : Evaluation α) : Prop :=
  ∀ random fault later, outcome m random = (.error fault, later) → p fault

theorem stopsWith_pure (a : α) : StopsWith p (pure a) := by
  intro random fault later stopped
  cases stopped

theorem stopsWith_throw {fault : Fault} (h : p fault) :
    StopsWith p (throw fault : Evaluation α) := by
  intro random other later stopped
  cases stopped
  exact h

theorem StopsWith.mono {m : Evaluation α} (h : StopsWith p m)
    (weaken : ∀ fault, p fault → q fault) : StopsWith q m :=
  fun random fault later stopped => weaken fault (h random fault later stopped)

/-- Of what comes second only those values matter that the first part can have. -/
theorem StopsWith.bind_of_ensures {m : Evaluation α} {f : α → Evaluation β} {q : α → Prop}
    (h : StopsWith p m) (values : Ensures m q) (hf : ∀ a, q a → StopsWith p (f a)) :
    StopsWith p (m >>= f) := by
  intro random fault later stopped
  obtain first | ⟨a, mid, reached, second⟩ := outcome_bind_eq_error.mp stopped
  · exact h _ _ _ first
  · exact hf a (values _ _ _ reached) _ _ _ second

theorem StopsWith.bind {m : Evaluation α} {f : α → Evaluation β} (h : StopsWith p m)
    (hf : ∀ a, StopsWith p (f a)) : StopsWith p (m >>= f) :=
  h.bind_of_ensures (q := fun _ => True) (fun _ _ _ _ => trivial) fun a _ => hf a

end Stops

section Runs

variable (env : Environment)

theorem execute_cons (stack : Stack) (t : Token) (ts : List Token) :
    execute env stack (t :: ts) = step env stack t >>= fun stack => execute env stack ts := rfl

theorem execute_append (stack : Stack) (xs ys : List Token) :
    execute env stack (xs ++ ys) = execute env stack xs >>= fun stack => execute env stack ys :=
  List.foldlM_append

theorem execute_singleton (stack : Stack) (t : Token) :
    execute env stack [t] = step env stack t :=
  bind_pure _

variable (t : Token) (f : Builtin) {stack : Stack}

theorem applyBuiltin_of_missing (h : stack.length < argumentCount f t) :
    applyBuiltin env t f stack =
      throw (.structural (missingArguments f t stack.length (argumentCount f t))) := by
  simp only [applyBuiltin, if_pos h, throw_bind]

theorem applyBuiltin_of_tooFew (h : ¬ stack.length < argumentCount f t)
    (few : argumentCount f t < f.arity.least) :
    applyBuiltin env t f stack =
      throw (.domain (.tooFewArguments t.lexeme f.arity.least (argumentCount f t) t.position)) := by
  simp only [applyBuiltin, if_neg h, if_pos few, throw_bind]

theorem applyBuiltin_of_enough (h : ¬ stack.length < argumentCount f t)
    (enough : ¬ argumentCount f t < f.arity.least) :
    applyBuiltin env t f stack =
      f.call env.factorialLimit (stack.take (argumentCount f t).toNat).reverse >>= fun v =>
        pure (operand v :: stack.drop (argumentCount f t).toNat) := by
  simp only [applyBuiltin, if_neg h, if_neg enough]

end Runs

end Reckoner.Evaluation
