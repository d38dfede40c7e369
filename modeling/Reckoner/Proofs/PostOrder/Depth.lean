import Mathlib.Data.List.TakeWhile
import Reckoner.Proofs.PostOrder.Feeding
import Reckoner.Proofs.Token.Nesting

/-!
How many parentheses are open while tokens are fed. A token that is no parenthesis leaves all that
waits from the innermost open parenthesis on as it is, so what waits has as many parentheses as are
open among the tokens in front, and tokens that are accepted have theirs in pairs.
-/
namespace Reckoner.PostOrder

open Token

namespace State

variable {s s' s'' : State} {out : List Token}

section Waiting

variable {p : Token → Bool} (level : ∀ t, p t → t.kind ≠ .leftParen)
include level

theorem kind_ne_of_mem_takeWhile (waiting : List Token) :
    ∀ t ∈ waiting.takeWhile p, (t.kind != .leftParen) = true :=
  fun t ht => bne_iff_ne.mpr (level t (List.mem_takeWhile_imp ht))

/-- What waits on top and is no parenthesis waits above the innermost one. -/
theorem above_eq_takeWhile (waiting : List Token) (parens : List Paren) :
    (State.mk waiting parens).above =
      waiting.takeWhile p ++ (State.mk (waiting.dropWhile p) parens).above := by
  have split := List.takeWhile_append_dropWhile (p := p) (l := waiting)
  calc (State.mk waiting parens).above
      = (State.mk (waiting.takeWhile p ++ waiting.dropWhile p) parens).above := by rw [split]
    _ = _ := List.takeWhile_append_of_pos (kind_ne_of_mem_takeWhile level waiting)

theorem fromParen_eq_dropWhile (waiting : List Token) (parens : List Paren) :
    (State.mk waiting parens).fromParen = (State.mk (waiting.dropWhile p) parens).fromParen := by
  have split := List.takeWhile_append_dropWhile (p := p) (l := waiting)
  calc (State.mk waiting parens).fromParen
      = (State.mk (waiting.takeWhile p ++ waiting.dropWhile p) parens).fromParen := by rw [split]
    _ = _ := List.dropWhile_append_of_pos (kind_ne_of_mem_takeWhile level waiting)

end Waiting

theorem above_append_fromParen (s : State) : s.above ++ s.fromParen = s.waiting :=
  List.takeWhile_append_dropWhile

/-- Below what waits above it there is the innermost parenthesis. -/
theorem kind_of_fromParen {p : Token} {below : List Token} (h : s.fromParen = p :: below) :
    p.kind = .leftParen := by
  have stops := List.head?_dropWhile_not (fun t : Token => t.kind != .leftParen) s.waiting
  have top : (s.waiting.dropWhile fun t => t.kind != .leftParen) = p :: below := h
  rw [top] at stops
  simpa using stops

theorem above_leftParen {p : Token} (hp : p.kind = .leftParen) (waiting : List Token)
    (parens : List Paren) : (State.mk (p :: waiting) parens).above = [] := by
  simp [above, hp]

theorem fromParen_leftParen {p : Token} (hp : p.kind = .leftParen) (waiting : List Token)
    (parens : List Paren) : (State.mk (p :: waiting) parens).fromParen = p :: waiting := by
  simp [fromParen, hp]

theorem above_wait {t : Token} (ht : t.IsLevel) (waiting : List Token) (parens : List Paren) :
    (State.mk (t :: waiting) parens).above = t :: (State.mk waiting parens).above := by
  simp [above, ht.1]

theorem fromParen_wait {t : Token} (ht : t.IsLevel) (waiting : List Token) (parens : List Paren) :
    (State.mk (t :: waiting) parens).fromParen = (State.mk waiting parens).fromParen := by
  simp [fromParen, ht.1]

theorem feed_isOperator {t : Token} (ht : t.isOperator) :
    s.feed t = .ok (s.filled.feedOperator t) := by
  cases hk : t.kind <;> simp_all [isOperator, Kind.isOperator, feed, noteContent, filled]

/-- A comma is accepted only in a parenthesis. -/
theorem feed_comma_eq_ok {t : Token} (hk : t.kind = .comma) :
    s.feed t = .ok (out, s') ↔ ∃ p below, s.fromParen = p :: below ∧ out = s.above ∧
      s' = ⟨p :: below, s.parens.modifyHead Paren.addComma⟩ := by
  have fed : s.feed t = s.feedComma t := by simp [feed, noteContent, hk]
  rw [fed, feedComma]
  cases s.fromParen with
  | nil => simp
  | cons p below => simp [eq_comm]

/-- A closing parenthesis is accepted only if one is open. -/
theorem feed_rightParen_eq_ok {t : Token} (hk : t.kind = .rightParen) :
    s.feed t = .ok (out, s') ↔ ∃ p below, s.fromParen = p :: below ∧
      out = s.above ++ (takeFunction s.parens.head? below).1 ∧
      s' = ⟨(takeFunction s.parens.head? below).2, s.parens.tail⟩ := by
  have fed : s.feed t = s.feedClose t := by simp [feed, noteContent, hk]
  rw [fed, feedClose]
  cases s.fromParen with
  | nil => simp
  | cons p below => simp [eq_comm]

/-- What feeding a token that is no parenthesis can do: an operand comes out at once, a function
waits, an operator sends out what is applied before it, and a comma all that waits above the
innermost parenthesis. -/
theorem feed_level {t : Token} (ht : t.IsLevel) (fed : s.feed t = .ok (out, s')) :
    (t.isOperand ∧ out = [t] ∧ s' = s.filled) ∨
      (t.kind = .function ∧ out = [] ∧ s' = s.filled.wait t) ∨
      (t.isOperator ∧ out = (s.filled.feedOperator t).1 ∧ s' = (s.filled.feedOperator t).2) ∨
      (t.kind = .comma ∧ ∃ p below, p.kind = .leftParen ∧ s.fromParen = p :: below ∧
        out = s.above ∧ s' = ⟨p :: below, s.parens.modifyHead Paren.addComma⟩) := by
  cases hk : t.kind with
  | leftParen => exact absurd hk ht.1
  | rightParen => exact absurd hk ht.2
  | number | variableName | constant =>
    have operand : t.isOperand := by simp [isOperand, hk]
    cases (feed_operand s operand).symm.trans fed
    exact .inl ⟨operand, rfl, rfl⟩
  | function =>
    cases (feed_function s hk).symm.trans fed
    exact .inr (.inl ⟨rfl, rfl, rfl⟩)
  | operator | unaryMinus =>
    have operator : t.isOperator := by simp [isOperator, Kind.isOperator, hk]
    cases (feed_isOperator operator).symm.trans fed
    exact .inr (.inr (.inl ⟨operator, rfl, rfl⟩))
  | comma =>
    obtain ⟨p, below, front, rfl, rfl⟩ := (feed_comma_eq_ok hk).mp fed
    exact .inr (.inr (.inr ⟨rfl, p, below, kind_of_fromParen front, front, rfl, rfl⟩))

/-- A token that is no parenthesis leaves everything from the innermost one on as it is. -/
theorem fromParen_feed {t : Token} (ht : t.IsLevel) (fed : s.feed t = .ok (out, s')) :
    s'.fromParen = s.fromParen := by
  obtain ⟨_, _, rfl⟩ | ⟨_, _, rfl⟩ | ⟨_, _, rfl⟩ | ⟨_, p, below, hp, front, _, rfl⟩ :=
    feed_level ht fed
  · rfl
  · exact fromParen_wait ht _ _
  · calc (s.filled.feedOperator t).2.fromParen
        = (State.mk (s.waiting.dropWhile t.appliedBefore) s.filled.parens).fromParen :=
          fromParen_wait ht _ _
      _ = s.fromParen := (fromParen_eq_dropWhile (fun _ => kind_ne_of_appliedBefore) _ _).symm
  · rw [front]
    exact fromParen_leftParen hp below _

/-- The parentheses that are open, the last first. -/
def opens (s : State) : List Token :=
  s.waiting.filter fun t => t.kind = .leftParen

/-- How many parentheses are open. -/
def depth (s : State) : Nat :=
  s.waiting.countP fun t => t.kind = .leftParen

theorem length_opens (s : State) : s.opens.length = s.depth :=
  List.countP_eq_length_filter.symm

theorem opens_fromParen (s : State) :
    s.opens = s.fromParen.filter fun t => t.kind = .leftParen := by
  have none_above : (s.above.filter fun t => t.kind = .leftParen) = [] := by
    rw [List.filter_eq_nil_iff]
    intro t ht
    simpa using List.mem_takeWhile_imp ht
  rw [opens, ← s.above_append_fromParen, List.filter_append, none_above, List.nil_append]

/-- The innermost parenthesis that is open is the last one that was opened. -/
theorem opens_of_fromParen {p : Token} {below : List Token} (h : s.fromParen = p :: below)
    (parens : List Paren) : s.opens = p :: (State.mk below parens).opens := by
  rw [opens_fromParen, h, List.filter_cons_of_pos (by simp [kind_of_fromParen h])]
  rfl

theorem opens_takeFunction (paren : Option Paren) (parens : List Paren) (waiting : List Token) :
    (State.mk (takeFunction paren waiting).2 parens).opens = (State.mk waiting parens).opens := by
  cases waiting with
  | nil => rfl
  | cons f rest =>
    by_cases hk : f.kind = .function
    · cases paren <;> simp [takeFunction, hk, opens]
    · simp [takeFunction, hk]

theorem opens_leftParen {t : Token} (hk : t.kind = .leftParen) (fed : s.feed t = .ok (out, s')) :
    s'.opens = t :: s.opens := by
  cases (feed_leftParen s hk).symm.trans fed
  simp [feedOpen, filled, opens, hk]

theorem opens_rightParen {t : Token} (hk : t.kind = .rightParen) (fed : s.feed t = .ok (out, s')) :
    ∃ p, s.opens = p :: s'.opens := by
  obtain ⟨p, below, front, _, rfl⟩ := (feed_rightParen_eq_ok hk).mp fed
  exact ⟨p, by rw [opens_takeFunction, opens_of_fromParen front]⟩

theorem opens_level {t : Token} (ht : t.IsLevel) (fed : s.feed t = .ok (out, s')) :
    s'.opens = s.opens := by
  rw [opens_fromParen, fromParen_feed ht fed, ← opens_fromParen]

/-- A token opens a parenthesis, closes the last one, or leaves those that are open alone. -/
theorem depth_feed {t : Token} (fed : s.feed t = .ok (out, s')) :
    t.kind.depthBehind? s.depth = some s'.depth := by
  rw [← length_opens, ← length_opens]
  by_cases left_kind : t.kind = .leftParen
  · rw [opens_leftParen left_kind fed, left_kind]
    rfl
  by_cases right_kind : t.kind = .rightParen
  · obtain ⟨p, opened⟩ := opens_rightParen right_kind fed
    rw [opened, right_kind]
    rfl
  · have level : t.IsLevel := ⟨left_kind, right_kind⟩
    rw [level.depthBehind?, opens_level level fed]

theorem depth_feedAll {ts : List Token} (fed : s.feedAll ts = .ok (out, s')) :
    depthBehind? s.depth ts = some s'.depth := by
  induction ts generalizing s out with
  | nil =>
    cases fed
    rfl
  | cons t ts ih =>
    obtain ⟨first, mid, rest, fedFirst, fedRest, rfl⟩ := feedAll_cons_eq_ok.mp fed
    rw [depthBehind?_cons, depth_feed fedFirst]
    exact ih fedRest

end State

/-- Tokens that are accepted have their parentheses in pairs. -/
theorem balanced_of_ofTokens {ts post : List Token} (h : ofTokens ts = .ok post) :
    Token.Balanced ts := by
  obtain ⟨out, s, fed, closed, _⟩ := ofTokens_eq_ok_iff.mp h
  have deep : depthBehind? 0 ts = some s.depth := State.depth_feedAll fed
  have level : s.depth = 0 := by
    rw [State.depth, List.countP_eq_zero]
    intro t ht
    simpa using closed t ht
  rw [Token.Balanced, deep, level]

end Reckoner.PostOrder
