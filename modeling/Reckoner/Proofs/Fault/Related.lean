import Mathlib.Data.List.Forall2
import Reckoner.Fault.Basic

namespace Reckoner

/-- Both results are values that belong together, or both are failures that do. -/
inductive Related {ε ε' α β : Type} (E : ε → ε' → Prop) (R : α → β → Prop) :
    Except ε α → Except ε' β → Prop where
  | ok {a : α} {b : β} (values : R a b) : Related E R (.ok a) (.ok b)
  | error {e : ε} {e' : ε'} (failures : E e e') : Related E R (.error e) (.error e')

namespace Related

section Rules

variable {ε ε' α α' β β' : Type} {E F : ε → ε' → Prop} {R : α → β → Prop} {S : α' → β' → Prop}
  {m : Except ε α} {m' : Except ε' β}

theorem mono (h : Related E R m m') (weaken : ∀ e e', E e e' → F e e') : Related F R m m' := by
  cases h with
  | ok values => exact .ok values
  | error failures => exact .error (weaken _ _ failures)

theorem bind {f : α → Except ε α'} {g : β → Except ε' β'} (h : Related E R m m')
    (hfg : ∀ a b, R a b → Related E S (f a) (g b)) : Related E S (m >>= f) (m' >>= g) := by
  cases h with
  | ok values => exact hfg _ _ values
  | error failures => exact .error failures

theorem map {f : α → α'} {g : β → β'} (h : Related E R m m')
    (hfg : ∀ a b, R a b → S (f a) (g b)) : Related E S (m.map f) (m'.map g) := by
  cases h with
  | ok values => exact .ok (hfg _ _ values)
  | error failures => exact .error failures

/-- Lists whose values belong together lead to lists whose results do. -/
theorem mapM {f : α → Except ε α'} {g : β → Except ε' β'} {xs : List α} {ys : List β}
    (h : List.Forall₂ R xs ys) (hfg : ∀ a b, R a b → Related E S (f a) (g b)) :
    Related E (List.Forall₂ S) (xs.mapM f) (ys.mapM g) := by
  induction h with
  | nil => exact .ok .nil
  | cons values _ ih =>
    rw [List.mapM_cons, List.mapM_cons]
    refine (hfg _ _ values).bind fun a b first => ih.bind fun as bs rest => ?_
    exact .ok (.cons first rest)

end Rules

section Same

variable {ε δ α β γ : Type} {R : α → β → Prop}

theorem refl (m : Except ε α) : Related Eq Eq m m := by
  cases m with
  | ok a => exact .ok rfl
  | error e => exact .error rfl

/-- After one and the same result it matters only what is done with its value. -/
theorem bind_same (m : Except ε γ) {f : γ → Except ε α} {g : γ → Except ε β}
    (hfg : ∀ c, Related Eq R (f c) (g c)) : Related Eq R (m >>= f) (m >>= g) :=
  (refl m).bind fun _ _ same => same ▸ hfg _

theorem mapError {m : Except ε α} {m' : Except ε β} (h : Related Eq R m m') (f : ε → δ) :
    Related Eq R (m.mapError f) (m'.mapError f) := by
  cases h with
  | ok values => exact .ok values
  | error failures => exact .error (congrArg f failures)

end Same

end Related

/-- The report as it is without a suggestion. -/
def Report.withoutHint (r : Report) : Report :=
  { r with suggestion := none }

namespace Fault

/-- Two faults are of one kind and are reported in the same way, but for the suggestion. -/
def AlikeButHint (f g : Fault) : Prop :=
  f.kind = g.kind ∧ f.report.withoutHint = g.report.withoutHint

theorem alikeButHint_of_eq {f g : Fault} (h : f = g) : f.AlikeButHint g :=
  h ▸ ⟨rfl, rfl⟩

/-- Of an undefined variable only the suggestion goes by what is defined. -/
theorem alikeButHint_undefinedVariable (name : String) (known known' : List String) :
    (Fault.naming (.undefinedVariable name known)).AlikeButHint
      (.naming (.undefinedVariable name known')) :=
  ⟨rfl, rfl⟩

end Fault

end Reckoner
