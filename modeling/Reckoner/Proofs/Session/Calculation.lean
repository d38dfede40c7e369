import Reckoner.Proofs.Evaluation.Outcome
import Reckoner.Proofs.Fault.Caught
import Reckoner.Session

/-!
What a text does to a session, assignment after assignment. However many names a text assigns to,
its expression is evaluated once, with the variables as they were before, and only then are the
names bound.
-/
namespace Reckoner

namespace Session

open Evaluation

/-- The outcome of an expression in a session, before anything is bound. -/
def expressionOutcome (s : Session) (expression : List Char) :
    Except Fault (Marked Value) × RandomSource :=
  (expressionValue s.environment expression).outcome s.random

theorem calculate_of_none (s : Session) {cs : List Char} (h : Assignment.split? cs = none) :
    s.calculate cs =
      ((s.expressionOutcome cs).1, { s with random := (s.expressionOutcome cs).2 }) := by
  unfold calculate
  split
  · rfl
  · rename_i found
    rw [h] at found
    cases found

theorem calculate_of_some (s : Session) {cs right : List Char} {name : String}
    (h : Assignment.split? cs = some (name, right)) :
    s.calculate cs =
      match s.calculate right with
      | (.ok v, s) => (.ok (s.bindings.kept v), { s with bindings := s.bindings.put name v })
      | (.error fault, s) => (.error fault, s) := by
  rw [calculate]
  split
  · rename_i found
    rw [h] at found
    cases found
  · rename_i name' right' found
    rw [h] at found
    cases found
    rfl

/-- A text whose expression fails binds nothing. -/
theorem calculate_of_error (s : Session) {cs : List Char} {fault : Fault} {random : RandomSource}
    (h : s.expressionOutcome (Assignment.chain cs).2 = (.error fault, random)) :
    s.calculate cs = (.error fault, { s with random := random }) := by
  fun_induction Assignment.chain cs with
  | case1 cs found => rw [calculate_of_none s found, h]
  | case2 cs name right found names body rest ih =>
    rw [rest] at ih
    rw [calculate_of_some s found, ih h]

/-- The names are bound to the number in the second bindings, and all others are as in the first. -/
def Binds (names : List String) (v : Value) (before after : Bindings) : Prop :=
  ∀ name, (after.get? name).map Marked.content =
    if name ∈ names then some v else (before.get? name).map Marked.content

theorem binds_nil (v : Value) (b : Bindings) : Binds [] v b b := by
  intro name
  rw [if_neg List.not_mem_nil]

theorem Binds.put {names : List String} {v : Value} {before after : Bindings}
    (h : Binds names v before after) (name : String) {w : Marked Value} (hw : w.content = v) :
    Binds (name :: names) v before (after.put name w) := by
  intro other
  rw [Bindings.get?_put]
  by_cases same : name = other
  · rw [if_pos same, if_pos (same ▸ List.mem_cons_self), Option.map_some, Bindings.content_kept, hw]
  · have elsewhere : other ∈ name :: names ↔ other ∈ names := by
      rw [List.mem_cons, or_iff_right (Ne.symm same)]
    rw [if_neg same, h other]
    simp only [elsewhere]

/-- A text whose expression has a value binds all its names to that value. -/
theorem calculate_of_ok (s : Session) {cs : List Char} {v : Marked Value} {random : RandomSource}
    (h : s.expressionOutcome (Assignment.chain cs).2 = (.ok v, random)) :
    ∃ w after, s.calculate cs = (.ok w, { s with bindings := after, random := random }) ∧
      w.content = v.content ∧ Binds (Assignment.chain cs).1 v.content s.bindings after := by
  fun_induction Assignment.chain cs with
  | case1 cs found =>
    refine ⟨v, s.bindings, ?_, rfl, binds_nil _ _⟩
    rw [calculate_of_none s found, h]
  | case2 cs name right found names body rest ih =>
    rw [rest] at ih
    obtain ⟨w, after, hright, hw, hbinds⟩ := ih h
    refine ⟨after.kept w, after.put name w, ?_, (Bindings.content_kept _ _).trans hw,
      hbinds.put name hw⟩
    rw [calculate_of_some s found, hright]

/-- An expression has a value if its tokens can be put in order and have one. -/
theorem expressionOutcome_eq_ok_iff (s : Session) (cs : List Char) {v : Marked Value}
    {later : RandomSource} :
    s.expressionOutcome cs = (.ok v, later) ↔
      ∃ post, compile cs = .ok post ∧
        outcome (value s.environment post) s.random = (.ok v, later) := by
  rw [expressionOutcome, expressionValue]
  cases compile cs with
  | error fault => exact ⟨nofun, nofun⟩
  | ok post => exact ⟨fun h => ⟨post, rfl, h⟩, fun ⟨_, hpost, h⟩ => Except.ok.inj hpost ▸ h⟩

/-- An evaluation gives back what the expression behind all names comes to. -/
theorem evaluate_fst (s : Session) (text : String) :
    (s.evaluate text).1 =
      (s.expressionOutcome (Assignment.chain text.toList).2).1.map Marked.content := by
  cases h : s.expressionOutcome (Assignment.chain text.toList).2 with
  | mk result later =>
    cases result with
    | error fault => rw [evaluate, s.calculate_of_error h]
    | ok x =>
      obtain ⟨w, after, calculated, hw, _⟩ := s.calculate_of_ok h
      rw [evaluate, calculated]
      exact congrArg Except.ok hw

/-- An evaluation draws what the expression behind all names draws. -/
theorem random_evaluate (s : Session) (text : String) :
    (s.evaluate text).2.random = (s.expressionOutcome (Assignment.chain text.toList).2).2 := by
  cases h : s.expressionOutcome (Assignment.chain text.toList).2 with
  | mk result later =>
    cases result with
    | error fault => rw [evaluate, s.calculate_of_error h]
    | ok x =>
      obtain ⟨w, after, calculated, _, _⟩ := s.calculate_of_ok h
      rw [evaluate, calculated]

/-- A text has the value of the expression behind all names that it assigns to. -/
theorem evaluate_eq_ok_iff (s : Session) (text : String) {v : Value} :
    (s.evaluate text).1 = .ok v ↔
      ∃ x later, s.expressionOutcome (Assignment.chain text.toList).2 = (.ok x, later) ∧
        x.content = v := by
  rw [evaluate_fst]
  obtain ⟨fault | x, later⟩ := s.expressionOutcome (Assignment.chain text.toList).2
  · exact ⟨nofun, nofun⟩
  · constructor
    · exact fun h => ⟨x, later, rfl, Except.ok.inj h⟩
    · rintro ⟨_, _, same, rfl⟩
      cases same
      rfl

/-- A text fails as the expression behind all names that it assigns to. -/
theorem evaluate_eq_error_iff (s : Session) (text : String) {fault : Fault} :
    (s.evaluate text).1 = .error fault ↔
      ∃ later, s.expressionOutcome (Assignment.chain text.toList).2 = (.error fault, later) := by
  rw [evaluate_fst]
  obtain ⟨other | x, later⟩ := s.expressionOutcome (Assignment.chain text.toList).2
  · constructor
    · intro h
      cases h
      exact ⟨later, rfl⟩
    · rintro ⟨_, same⟩
      cases same
      rfl
  · exact ⟨nofun, nofun⟩

/-- A text that has a value is read as tokens, which can be put in order and have that value. -/
theorem exists_of_evaluate_eq_ok {s : Session} {text : String} {v : Value}
    (h : (s.evaluate text).1 = .ok v) :
    ∃ tokens post x later,
      Token.scan Lexicon.builtin (Assignment.chain text.toList).2 = .ok tokens ∧
      PostOrder.ofTokens tokens = .ok post ∧
      outcome (value s.environment post) s.random = (.ok x, later) ∧ x.content = v := by
  obtain ⟨x, later, reckoned, hx⟩ := (s.evaluate_eq_ok_iff text).mp h
  obtain ⟨post, compiled, valued⟩ := (s.expressionOutcome_eq_ok_iff _).mp reckoned
  obtain ⟨tokens, scanned, ordered⟩ := bind_eq_ok_iff.mp compiled
  exact ⟨tokens, post, x, later, scanned, ordered, valued, hx⟩

end Session

end Reckoner
