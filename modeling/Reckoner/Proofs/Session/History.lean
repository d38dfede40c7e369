import Reckoner.Proofs.Session.Calculation

namespace Reckoner.Session

/-- What can be done with a session. -/
inductive Step where
  | evaluate (text : String)
  | set (name : String) (v : Value)
  | delete (name : String)
  | clear

/-- What a step gives back. -/
inductive Answer where
  | outcome (result : Except Fault Value)
  | present (found : Bool)
  | nothing

def perform (s : Session) : Step → Answer × Session
  | .evaluate text => (.outcome (s.evaluate text).1, (s.evaluate text).2)
  | .set name v => (.nothing, s.set name v)
  | .delete name => (.present (s.delete name).1, (s.delete name).2)
  | .clear => (.nothing, s.clear)

/-- The session after steps, one after the other. -/
def run (s : Session) (steps : List Step) : Session :=
  steps.foldl (fun s step => (s.perform step).2) s

/-- The steps, each with what it gives back. -/
def log (s : Session) : List Step → List (Step × Answer)
  | [] => []
  | step :: steps => (step, (s.perform step).1) :: (s.perform step).2.log steps

/-- Names and what they stand for. -/
abbrev Variables := String → Option Value

/-- What a step makes of the variables when it gives back the answer. -/
def Step.replay (vars : Variables) : Step × Answer → Variables
  | (.evaluate text, .outcome (.ok v)) => fun name =>
    if name ∈ (Assignment.chain text.toList).1 then some v else vars name
  | (.evaluate _, _) => vars
  | (.set name v, _) => fun other => if name = other then some v else vars other
  | (.delete name, _) => fun other => if name = other then none else vars other
  | (.clear, _) => fun _ => none

/-- What a step has to give back: an evaluation the value of the expression behind all names that
are assigned to, with the variables as they are, and a deletion whether the name stood for anything.
-/
def rightAnswer (s : Session) : Step → Answer
  | .evaluate text =>
    .outcome ((s.expressionOutcome (Assignment.chain text.toList).2).1.map Marked.content)
  | .set _ _ => .nothing
  | .delete name => .present (s.get? name).isSome
  | .clear => .nothing

theorem get?_set (s : Session) (name : String) (v : Value) (other : String) :
    (s.set name v).get? other = if name = other then some v else s.get? other := by
  simp only [get?, set, Bindings.bind, Bindings.get?_put]
  split
  · rw [Option.map_some, Bindings.content_kept]
    rfl
  · rfl

theorem get?_delete (s : Session) (name other : String) :
    (s.delete name).2.get? other = if name = other then none else s.get? other := by
  simp only [get?, delete, Bindings.get?_erase]
  split <;> rfl

theorem get?_clear (s : Session) (name : String) : s.clear.get? name = none := by
  simp only [get?, clear, Bindings.get?_clear, Option.map_none]

theorem delete_eq_isSome (s : Session) (name : String) :
    (s.delete name).1 = (s.get? name).isSome := by
  rw [delete, get?, Option.isSome_map]
  exact s.bindings.contains_eq name

/-- An evaluation gives back what its expression comes to, and binds the names of its chain to that
if it is a value. -/
theorem evaluate_spec (s : Session) (text : String) :
    s.perform (.evaluate text) = (s.rightAnswer (.evaluate text), (s.evaluate text).2) ∧
      (s.evaluate text).2.get? =
        Step.replay s.get? (.evaluate text, s.rightAnswer (.evaluate text)) := by
  cases h : s.expressionOutcome (Assignment.chain text.toList).2 with
  | mk result random =>
    cases result with
    | error fault =>
      have calculated := s.calculate_of_error h
      simp only [perform, rightAnswer, evaluate, calculated, h]
      exact ⟨trivial, rfl⟩
    | ok v =>
      obtain ⟨w, after, calculated, hw, hbinds⟩ := s.calculate_of_ok h
      simp only [perform, rightAnswer, evaluate, calculated, h]
      refine ⟨?_, funext hbinds⟩
      rw [Except.map, hw]
      rfl

/-- Every step gives back what it has to, and makes of the variables what its answer says. -/
theorem perform_spec (s : Session) (step : Step) :
    (s.perform step).1 = s.rightAnswer step ∧
      (s.perform step).2.get? = Step.replay s.get? (step, (s.perform step).1) := by
  cases step with
  | evaluate text =>
    obtain ⟨answer, replayed⟩ := s.evaluate_spec text
    rw [answer]
    exact ⟨rfl, replayed⟩
  | set name v => exact ⟨rfl, funext (s.get?_set name v)⟩
  | delete name =>
    exact ⟨congrArg Answer.present (s.delete_eq_isSome name), funext (s.get?_delete name)⟩
  | clear => exact ⟨rfl, funext s.get?_clear⟩

/-- After any steps the variables are what the replay of the steps makes of them. -/
theorem get?_run (s : Session) (steps : List Step) :
    (s.run steps).get? = (s.log steps).foldl Step.replay s.get? := by
  induction steps generalizing s with
  | nil => rfl
  | cons step steps ih =>
    rw [log, List.foldl_cons, ← (s.perform_spec step).2]
    exact ih (s.perform step).2

/-- The answers of a run are the ones that the sessions at hand have to give. -/
theorem log_append (s : Session) (before after : List Step) :
    s.log (before ++ after) = s.log before ++ (s.run before).log after := by
  induction before generalizing s with
  | nil => rfl
  | cons step before ih =>
    rw [List.cons_append, log, log, ih, List.cons_append]
    rfl

/-- **The history of the variables.** From a fresh session on, whatever steps are taken, the
variables are those of the replay of the steps: an evaluation that fails makes nothing of them, one
that succeeds binds the names of its chain and no others. In every step the answer is the one that
the session before it has to give. -/
theorem get?_run_fresh (limit : Int) (random : RandomSource) :
    (∀ steps, ((fresh limit random).run steps).get? =
        ((fresh limit random).log steps).foldl Step.replay fun _ => none) ∧
      ∀ before step after, (fresh limit random).log (before ++ step :: after) =
        (fresh limit random).log before ++
          (step, ((fresh limit random).run before).rightAnswer step) ::
            ((fresh limit random).run (before ++ [step])).log after := by
  constructor
  · intro steps
    have start : (fresh limit random).get? = fun _ => none :=
      funext fun name => congrArg (Option.map Marked.content) (Bindings.get?_empty name)
    rw [get?_run, start]
  · intro before step after
    have next : (fresh limit random).run (before ++ [step]) =
        (((fresh limit random).run before).perform step).2 :=
      List.foldl_append
    rw [log_append, log, (perform_spec _ step).1, next]

end Reckoner.Session
