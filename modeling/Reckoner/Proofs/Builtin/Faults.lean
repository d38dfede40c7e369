import Reckoner.Builtin.Call
import Reckoner.Proofs.Fault.Caught

namespace Reckoner

variable {α β : Type}

/-- The operands have no value together, or a primitive fails on them. -/
def Fault.OfOperands : Fault → Prop
  | .domain _ | .uncaught _ => True
  | .syntactic _ | .naming _ | .structural _ => False

/-- If the result is a failure, the operands are to blame. -/
def BlamesOperands (result : Except Fault α) : Prop :=
  ∀ fault, result = .error fault → fault.OfOperands

theorem blamesOperands_ok (a : α) : BlamesOperands (.ok a) := by
  intro fault h
  cases h

theorem blamesOperands_domain (result : Except DomainFault α) :
    BlamesOperands (result.mapError .domain) := by
  intro fault h
  cases result with
  | ok a => cases h
  | error reason =>
    cases h
    trivial

theorem blamesOperands_uncaught (result : Except Trap α) :
    BlamesOperands (result.mapError .uncaught) := by
  intro fault h
  cases result with
  | ok a => cases h
  | error trap =>
    cases h
    trivial

theorem BlamesOperands.bind {m : Except Fault α} {f : α → Except Fault β} (h : BlamesOperands m)
    (hf : ∀ a, BlamesOperands (f a)) : BlamesOperands (m >>= f) := by
  intro fault failed
  cases hm : m with
  | error reason =>
    rw [hm] at failed
    cases failed
    exact h _ hm
  | ok a =>
    rw [hm] at failed
    exact hf a _ failed

theorem blamesOperands_mapM {f : α → Except Fault β} (h : ∀ x, BlamesOperands (f x))
    (xs : List α) : BlamesOperands (xs.mapM f) := by
  intro fault failed
  obtain ⟨x, _, hx⟩ := mem_of_mapM_eq_error failed
  exact h x fault hx

namespace Datum

theorem blamesOperands_need (trap : Foreign → Trap) (d : Datum) : BlamesOperands (d.need trap) := by
  intro fault h
  cases d with
  | number v => cases h
  | foreign stranger =>
    cases h
    trivial

theorem blamesOperands_neg (d : Datum) : BlamesOperands d.neg :=
  (blamesOperands_need _ d).bind fun _ => blamesOperands_ok _

theorem blamesOperands_mod (l r : Datum) : BlamesOperands (l.mod r) := by
  have trapped (trap : Trap) : BlamesOperands (.error (.uncaught trap) : Except Fault Value) :=
    blamesOperands_uncaught (.error trap)
  cases l with
  | number v =>
    cases r with
    | number w => exact blamesOperands_domain _
    | foreign b => exact trapped _
  | foreign a =>
    cases r with
    | number w =>
      rw [mod]
      split
      · exact blamesOperands_domain (.error _)
      · exact trapped _
    | foreign b => exact trapped _

theorem blamesOperands_pow (l r : Datum) : BlamesOperands (l.pow r) := by
  refine (blamesOperands_need _ l).bind fun base => ?_
  have raised : BlamesOperands (r.withPart "value" >>= fun exponent =>
      (base.pow exponent).mapError .domain) :=
    (blamesOperands_need _ r).bind fun exponent => blamesOperands_domain _
  dsimp only
  split
  · exact blamesOperands_domain (.error _)
  · exact raised

theorem blamesOperands_apply (op : Operator) (l r : Datum) : BlamesOperands (apply op l r) := by
  have plain (op : Operator) : BlamesOperands (do
      (op.apply (← l.need .notNumber) (← r.need .notNumber)).mapError .domain) :=
    (blamesOperands_need _ l).bind fun v =>
      (blamesOperands_need _ r).bind fun w => blamesOperands_domain _
  cases op with
  | mod => exact blamesOperands_mod l r
  | pow => exact blamesOperands_pow l r
  | add | sub | mul | div => exact plain _

theorem blamesOperands_argument (arguments : List Datum) (place : Nat) :
    BlamesOperands (argument arguments place) := by
  unfold argument
  split
  · exact blamesOperands_need _ _
  · exact blamesOperands_uncaught (.error _)

end Datum

namespace Marked

theorem blamesOperands_real (function : String) (x : Operand) :
    BlamesOperands (x.real function) :=
  (Datum.blamesOperands_need _ _).bind fun _ =>
    (blamesOperands_domain _).bind fun _ => blamesOperands_ok _

theorem blamesOperands_nearest (function : String) (x : Operand) :
    BlamesOperands (x.nearest function) :=
  (blamesOperands_real function x).bind fun _ =>
    (blamesOperands_domain _).bind fun _ => blamesOperands_ok _

end Marked

theorem Unary.blamesOperands_apply (limit : Int) (f : Unary) (v : Value) :
    BlamesOperands (f.apply limit v) := by
  by_cases h : f = fact
  · subst h
    refine (blamesOperands_domain _).bind fun n => ?_
    exact (blamesOperands_uncaught _).bind fun _ => blamesOperands_ok _
  · obtain ⟨result, reports⟩ := exists_apply_eq_reported limit h v
    rw [reports]
    exact blamesOperands_domain result

theorem Unary.blamesOperands_call (limit : Int) (f : Unary) (arguments : List Datum) :
    BlamesOperands (f.call limit arguments) :=
  (Datum.blamesOperands_argument _ _).bind fun _ => f.blamesOperands_apply limit _

theorem Binary.blamesOperands_call (f : Binary) (arguments : List Datum) :
    BlamesOperands (f.call arguments) :=
  (Datum.blamesOperands_argument _ _).bind fun _ =>
    (blamesOperands_domain _).bind fun _ =>
      (Datum.blamesOperands_argument _ _).bind fun _ => blamesOperands_domain _

theorem Builtin.blamesOperands_clampCall (arguments : List Operand) :
    BlamesOperands (clampCall arguments) := by
  refine (blamesOperands_mapM (Marked.blamesOperands_real "clamp") _).bind fun xs => ?_
  split
  · exact blamesOperands_domain _
  · exact blamesOperands_uncaught (.error _)

namespace Variadic

theorem blamesOperands_choice (f : Variadic)
    (prefer : Marked Scalar → Marked Scalar → Marked Scalar) (arguments : List Operand) :
    BlamesOperands (f.choice prefer arguments) := by
  refine (blamesOperands_mapM (Marked.blamesOperands_real f.name) _).bind fun xs => ?_
  cases xs with
  | nil => exact blamesOperands_uncaught (.error _)
  | cons x rest => exact blamesOperands_domain _

theorem blamesOperands_statistic (f : Variadic)
    (measure : List (Marked Float) → Except Trap (Marked Float)) (arguments : List Operand) :
    BlamesOperands (f.statistic measure arguments) :=
  (blamesOperands_mapM (Marked.blamesOperands_nearest f.name) _).bind fun _ =>
    (blamesOperands_uncaught _).bind fun _ => blamesOperands_ok _

theorem blamesOperands_modeCall (arguments : List Operand) :
    BlamesOperands (modeCall arguments) := by
  refine (blamesOperands_mapM (Marked.blamesOperands_real mode.name) _).bind fun xs => ?_
  refine (blamesOperands_uncaught _).bind fun x => ?_
  split <;> exact blamesOperands_ok _

theorem blamesOperands_call (f : Variadic) (arguments : List Operand) :
    BlamesOperands (f.call arguments) := by
  cases f with
  | max | min => exact blamesOperands_choice _ _ _
  | mode => exact blamesOperands_modeCall _
  | average | median | stdev | variance => exact blamesOperands_statistic _ _ _

end Variadic

end Reckoner
