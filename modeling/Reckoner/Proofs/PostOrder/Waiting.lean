import Mathlib.Data.List.Chain
import Reckoner.Proofs.PostOrder.Conservation

/-!
What waits while tokens are fed, whatever tokens they are. Open parentheses are counted apart from
what waits, and the counts stay in step with them: each has one, in the same order, which knows
whether the parenthesis opens a call. Of two operators that wait next to each other the upper one is
applied first. A token only takes off the top of what waits and puts itself there, so both hold of
what is left, and the token itself has to be looked at beside the one that it comes to wait on.
-/
namespace Reckoner

namespace Token

/-- The token may wait right above the other one. Of two operators the upper one binds tighter, or
as tight and groups from the right. -/
def StandsOn (upper lower : Token) : Prop :=
  upper.isOperator → lower.isOperator →
    lower.precedence < upper.precedence ∨
      lower.precedence = upper.precedence ∧ ¬ upper.isLeftAssociative

theorem standsOn_of_not_isOperator {t : Token} (h : ¬ t.isOperator) (lower : Token) :
    t.StandsOn lower :=
  fun operator => absurd operator h

/-- An operator comes to wait on what is not applied before it. -/
theorem standsOn_of_not_appliedBefore {t top : Token} (h : ¬ t.appliedBefore top) :
    t.StandsOn top := by
  intro _ operator
  rw [appliedBefore_iff operator, not_or, Nat.not_lt] at h
  obtain ⟨weaker, left⟩ := h
  obtain same | less := Nat.eq_or_lt_of_le weaker
  · exact .inr ⟨same, fun grouped => left ⟨same, grouped⟩⟩
  · exact .inl less

end Token

namespace PostOrder

open Token

/-- Each open parenthesis that waits has a count of its own, in the same order. It says that a call
is opened if and only if a function waits right below the parenthesis. -/
inductive InStep : List Token → List Paren → Prop where
  | nil : InStep [] []
  | other {t : Token} {waiting : List Token} {parens : List Paren} (not_open : t.kind ≠ .leftParen)
      (below : InStep waiting parens) : InStep (t :: waiting) parens
  | opened {p : Token} {waiting : List Token} {paren : Paren} {parens : List Paren}
      (left_kind : p.kind = .leftParen)
      (call_iff : paren.isCall ↔ ∃ f ∈ waiting.head?, f.kind = .function)
      (below : InStep waiting parens) : InStep (p :: waiting) (paren :: parens)

namespace InStep

variable {front waiting : List Token} {parens : List Paren}

theorem length_eq (h : InStep waiting parens) :
    parens.length = waiting.countP fun t => t.kind = .leftParen := by
  induction h with
  | nil => rfl
  | other not_open _ ih => simp [ih, not_open]
  | opened left_kind _ _ ih => simp [ih, left_kind]

/-- It does not matter what else is counted. -/
theorem modifyHead {count : Paren → Paren} (keeps : ∀ p, (count p).isCall = p.isCall)
    (h : InStep waiting parens) : InStep waiting (parens.modifyHead count) := by
  induction h with
  | nil => exact .nil
  | other not_open _ ih => exact .other not_open ih
  | opened left_kind call_iff below => exact .opened left_kind (by rw [keeps]; exact call_iff) below

theorem of_append (h : InStep (front ++ waiting) parens)
    (none_open : ∀ t ∈ front, t.kind ≠ .leftParen) : InStep waiting parens := by
  induction front with
  | nil => exact h
  | cons t front ih =>
    obtain ⟨first, later⟩ := List.forall_mem_cons.mp none_open
    cases h with
    | other _ below => exact ih below later
    | opened left_kind => exact absurd left_kind first

/-- The count of a parenthesis has as many counts above it as there are parentheses above, and as
many below it as there are below. -/
theorem exists_paren {above below : List Token} {p : Token}
    (h : InStep (above ++ p :: below) parens) (left_kind : p.kind = .leftParen) :
    ∃ inner paren outer, parens = inner ++ paren :: outer ∧
      (inner.length = above.countP fun t => t.kind = .leftParen) ∧
      (outer.length = below.countP fun t => t.kind = .leftParen) ∧
      (paren.isCall ↔ ∃ f ∈ below.head?, f.kind = .function) := by
  induction above generalizing parens with
  | nil =>
    cases h with
    | other not_open => exact absurd left_kind not_open
    | opened _ call_iff under => exact ⟨[], _, _, rfl, rfl, under.length_eq, call_iff⟩
  | cons t above ih =>
    cases h with
    | other not_open under =>
      obtain ⟨inner, paren, outer, rfl, counts⟩ := ih under
      exact ⟨inner, paren, outer, rfl, by simpa [not_open] using counts⟩
    | @opened _ _ first _ opens _ under =>
      obtain ⟨inner, paren, outer, rfl, counts⟩ := ih under
      exact ⟨first :: inner, paren, outer, rfl, by simpa [opens] using counts⟩

end InStep

namespace State

/-- What is counted is in step with what waits, and operators wait in the order in which they are
applied. -/
structure Orderly (s : State) : Prop where
  inStep : InStep s.waiting s.parens
  stands : s.waiting.IsChain StandsOn

variable {s s' : State} {t : Token} {out front waiting : List Token} {parens : List Paren}

theorem orderly_empty : empty.Orderly :=
  ⟨.nil, .nil⟩

/-- What is taken off the top, and is no parenthesis, leaves the rest orderly. -/
theorem Orderly.of_append (h : (State.mk (front ++ waiting) parens).Orderly)
    (none_open : ∀ t ∈ front, t.kind ≠ .leftParen) : (State.mk waiting parens).Orderly :=
  ⟨h.inStep.of_append none_open, h.stands.right_of_append⟩

theorem Orderly.modifyHead {count : Paren → Paren} (keeps : ∀ p, (count p).isCall = p.isCall)
    (h : (State.mk waiting parens).Orderly) :
    (State.mk waiting (parens.modifyHead count)).Orderly :=
  ⟨h.inStep.modifyHead keeps, h.stands⟩

theorem Orderly.filled (h : s.Orderly) : s.filled.Orderly :=
  Orderly.modifyHead (fun _ => rfl) h

/-- Another token waits on top. -/
theorem Orderly.wait (h : s.Orderly) (not_open : t.kind ≠ .leftParen)
    (stands : ∀ top ∈ s.waiting.head?, t.StandsOn top) : (s.wait t).Orderly :=
  ⟨.other not_open h.inStep, List.isChain_cons.mpr ⟨stands, h.stands⟩⟩

/-- A parenthesis comes with a count that knows what waits below it. -/
theorem Orderly.feedOpen (h : s.Orderly) (left_kind : t.kind = .leftParen) :
    (s.feedOpen t).Orderly := by
  have no_operator : ¬ t.isOperator := by simp [isOperator, Kind.isOperator, left_kind]
  refine ⟨.opened left_kind ?_ h.inStep, List.isChain_cons.mpr ⟨fun top _ => ?_, h.stands⟩⟩
  · cases s.waiting.head? <;> simp
  · exact standsOn_of_not_isOperator no_operator top

/-- An operator sends out what is applied before it, and waits on a token that is not. -/
theorem Orderly.feedOperator (h : s.Orderly) (operator : t.isOperator) :
    (s.feedOperator t).2.Orderly := by
  have not_open : t.kind ≠ .leftParen := by
    intro hk
    simp [isOperator, Kind.isOperator, hk] at operator
  have split : s = ⟨s.waiting.takeWhile t.appliedBefore ++ s.waiting.dropWhile t.appliedBefore,
      s.parens⟩ := by
    rw [List.takeWhile_append_dropWhile]
  rw [split] at h
  have rest := h.of_append fun u hu => kind_ne_of_appliedBefore (List.mem_takeWhile_imp hu)
  refine rest.wait not_open fun top htop => standsOn_of_not_appliedBefore ?_
  have stops := List.head?_dropWhile_not t.appliedBefore s.waiting
  rw [Option.mem_def.mp htop] at stops
  simpa using stops

/-- What waits from the innermost parenthesis on is orderly. -/
theorem Orderly.fromParen (h : s.Orderly) : (State.mk s.fromParen s.parens).Orderly := by
  have split : s = ⟨s.above ++ s.fromParen, s.parens⟩ := by rw [s.above_append_fromParen]
  rw [split] at h
  exact h.of_append fun u hu => by simpa using List.mem_takeWhile_imp hu

/-- The function in front of a closed parenthesis is taken off. -/
theorem Orderly.takeFunction (h : (State.mk waiting parens).Orderly) (paren : Option Paren) :
    (State.mk (takeFunction paren waiting).2 parens).Orderly := by
  obtain ⟨origin, _, functions, split⟩ := comesOutAs_takeFunction paren waiting
  rw [split] at h
  refine h.of_append fun f hf hk => ?_
  rw [functions f hf] at hk
  cases hk

/-- With the innermost parenthesis goes its count. -/
theorem Orderly.closed {p : Token} (h : (State.mk (p :: waiting) parens).Orderly)
    (left_kind : p.kind = .leftParen) :
    ∃ paren others, parens = paren :: others ∧ (State.mk waiting others).Orderly := by
  cases h.inStep with
  | other not_open => exact absurd left_kind not_open
  | opened _ _ below => exact ⟨_, _, rfl, below, h.stands.tail⟩

/-- **One token keeps what waits orderly.** -/
theorem orderly_feed (h : s.Orderly) (fed : s.feed t = .ok (out, s')) : s'.Orderly := by
  by_cases left_kind : t.kind = .leftParen
  · cases (feed_leftParen s left_kind).symm.trans fed
    exact h.filled.feedOpen left_kind
  by_cases right_kind : t.kind = .rightParen
  · obtain ⟨p, below, front, _, rfl⟩ := (feed_rightParen_eq_ok right_kind).mp fed
    have inside := h.fromParen
    rw [front] at inside
    obtain ⟨paren, others, counts, outside⟩ := inside.closed (kind_of_fromParen front)
    rw [counts, List.tail_cons]
    exact outside.takeFunction _
  have level : t.IsLevel := ⟨left_kind, right_kind⟩
  obtain ⟨_, _, rfl⟩ | ⟨function_kind, _, rfl⟩ | ⟨operator, _, rfl⟩ |
      ⟨_, p, below, _, front, _, rfl⟩ := feed_level level fed
  · exact h.filled
  · have no_operator : ¬ t.isOperator := by simp [isOperator, Kind.isOperator, function_kind]
    exact h.filled.wait left_kind fun top _ => standsOn_of_not_isOperator no_operator top
  · exact h.filled.feedOperator operator
  · have inside := h.fromParen
    rw [front] at inside
    exact inside.modifyHead fun _ => rfl

theorem orderly_feedAll {ts : List Token} (h : s.Orderly) (fed : s.feedAll ts = .ok (out, s')) :
    s'.Orderly := by
  induction ts generalizing s out with
  | nil =>
    cases fed
    exact h
  | cons t ts ih =>
    obtain ⟨first, mid, rest, fedFirst, fedRest, rfl⟩ := feedAll_cons_eq_ok.mp fed
    exact ih (orderly_feed h fedFirst) fedRest

/-- Only parentheses, functions and operators wait, and no mark comes out. -/
theorem kinds_of_feedAll {ts : List Token} (fed : empty.feedAll ts = .ok (out, s)) :
    (∀ t ∈ s.waiting, t.kind = .leftParen ∨ t.kind = .function ∨ t.isOperator) ∧
      ∀ t ∈ out, ¬ t.IsMark := by
  have none_marked : empty.AllWaiting fun t => ¬ t.IsMark := List.forall_mem_nil _
  have none_operand : empty.NoOperandWaits := List.forall_mem_nil _
  obtain ⟨unmarked, no_marks⟩ := feedAll_members (fun _ _ h => h) none_marked (fun _ _ h => h) fed
  obtain ⟨_, no_operands⟩ := operands_feedAll none_operand fed
  refine ⟨fun t ht => ?_, unmarked⟩
  by_cases left_kind : t.kind = .leftParen
  · exact .inl left_kind
  have no_mark := no_marks t ht left_kind
  have no_operand := no_operands t ht left_kind
  cases hk : t.kind <;> simp_all [IsMark, isOperand, isOperator, Kind.isOperator]

end State

/-- **What waits is in step and in order.** However far tokens are fed without a fault, there is one
count for every open parenthesis that waits, in the same order, so that there is a count whenever
one is looked at or taken off. A count is that of a call if and only if a function waits right below
its parenthesis. No operand, comma or closing parenthesis ever waits, and no comma or parenthesis
comes out. Of two operators next to each other the upper one binds tighter, or as tight and groups
from the right. -/
theorem orderly_of_fed {tokens out : List Token} {s : State}
    (fed : State.empty.feedAll tokens = .ok (out, s)) :
    s.parens.length = s.depth ∧
    (∀ above p below, s.waiting = above ++ p :: below → p.kind = .leftParen →
      ∃ inner paren outer, s.parens = inner ++ paren :: outer ∧
        (inner.length = above.countP fun t => t.kind = .leftParen) ∧
        (outer.length = below.countP fun t => t.kind = .leftParen) ∧
        (paren.isCall ↔ ∃ f ∈ below.head?, f.kind = .function)) ∧
    ((∃ p ∈ s.waiting, p.kind = .leftParen) → ∃ paren others, s.parens = paren :: others) ∧
    (∀ t ∈ s.waiting, t.kind = .leftParen ∨ t.kind = .function ∨ t.isOperator) ∧
    (∀ t ∈ out, ¬ t.IsMark) ∧
    ∀ above upper lower below, s.waiting = above ++ upper :: lower :: below →
      upper.isOperator → lower.isOperator →
      lower.precedence < upper.precedence ∨
        lower.precedence = upper.precedence ∧ ¬ upper.isLeftAssociative := by
  obtain ⟨inStep, stands⟩ := State.orderly_feedAll State.orderly_empty fed
  obtain ⟨waits, unmarked⟩ := State.kinds_of_feedAll fed
  refine ⟨inStep.length_eq, ?_, ?_, waits, unmarked, ?_⟩
  · intro above p below split left_kind
    rw [split] at inStep
    exact inStep.exists_paren left_kind
  · rintro ⟨p, hp, left_kind⟩
    apply List.exists_cons_of_length_pos
    rw [inStep.length_eq, List.countP_pos_iff]
    exact ⟨p, hp, decide_eq_true left_kind⟩
  · intro above upper lower below split
    rw [split] at stands
    exact (List.isChain_cons_cons.mp stands.right_of_append).1

/-- A group and a call are still open, and four operators wait in the group. -/
theorem orderly_of_fed_nested :
    ∃ tokens out s, State.empty.feedAll tokens = .ok (out, s) ∧
      tokens = [⟨.function, "max", 0, none, none⟩, ⟨.leftParen, "(", 3, none, none⟩,
        ⟨.number, "1", 4, some (.integer 1), none⟩, ⟨.comma, ",", 5, none, none⟩,
        ⟨.leftParen, "(", 6, none, none⟩, ⟨.variableName, "x", 7, none, none⟩,
        ⟨.operator, "+", 8, none, none⟩, ⟨.variableName, "y", 9, none, none⟩,
        ⟨.operator, "*", 10, none, none⟩, ⟨.variableName, "z", 11, none, none⟩,
        ⟨.operator, "^", 12, none, none⟩, ⟨.unaryMinus, "u-", 13, none, none⟩,
        ⟨.function, "sin", 14, none, none⟩, ⟨.leftParen, "(", 17, none, none⟩] ∧
      (∃ inner paren outer, s.parens = inner ++ paren :: outer ∧ inner.length = 1 ∧
        outer.length = 1 ∧ ¬ paren.isCall) ∧
      (∃ paren others, s.parens = paren :: others) ∧
      (∀ t ∈ out, ¬ t.IsMark) ∧
      s.waiting = [⟨.leftParen, "(", 17, none, none⟩, ⟨.function, "sin", 14, none, none⟩,
        ⟨.unaryMinus, "u-", 13, none, none⟩, ⟨.operator, "^", 12, none, none⟩,
        ⟨.operator, "*", 10, none, none⟩, ⟨.operator, "+", 8, none, none⟩,
        ⟨.leftParen, "(", 6, none, none⟩, ⟨.leftParen, "(", 3, none, none⟩,
        ⟨.function, "max", 0, none, none⟩] := by
  have fed : State.empty.feedAll
      [⟨.function, "max", 0, none, none⟩, ⟨.leftParen, "(", 3, none, none⟩,
        ⟨.number, "1", 4, some (.integer 1), none⟩, ⟨.comma, ",", 5, none, none⟩,
        ⟨.leftParen, "(", 6, none, none⟩, ⟨.variableName, "x", 7, none, none⟩,
        ⟨.operator, "+", 8, none, none⟩, ⟨.variableName, "y", 9, none, none⟩,
        ⟨.operator, "*", 10, none, none⟩, ⟨.variableName, "z", 11, none, none⟩,
        ⟨.operator, "^", 12, none, none⟩, ⟨.unaryMinus, "u-", 13, none, none⟩,
        ⟨.function, "sin", 14, none, none⟩, ⟨.leftParen, "(", 17, none, none⟩] =
      .ok ([⟨.number, "1", 4, some (.integer 1), none⟩, ⟨.variableName, "x", 7, none, none⟩,
          ⟨.variableName, "y", 9, none, none⟩, ⟨.variableName, "z", 11, none, none⟩],
        ⟨[⟨.leftParen, "(", 17, none, none⟩, ⟨.function, "sin", 14, none, none⟩,
          ⟨.unaryMinus, "u-", 13, none, none⟩, ⟨.operator, "^", 12, none, none⟩,
          ⟨.operator, "*", 10, none, none⟩, ⟨.operator, "+", 8, none, none⟩,
          ⟨.leftParen, "(", 6, none, none⟩, ⟨.leftParen, "(", 3, none, none⟩,
          ⟨.function, "max", 0, none, none⟩],
          [⟨true, 0, false⟩, ⟨false, 0, true⟩, ⟨true, 1, true⟩]⟩) := rfl
  obtain ⟨_, counts, some_count, _, unmarked, _⟩ := orderly_of_fed fed
  obtain ⟨inner, paren, outer, split, above, below, call_iff⟩ :=
    counts [_, _, _, _, _, _] ⟨.leftParen, "(", 6, none, none⟩ [_, _] rfl rfl
  refine ⟨_, _, _, fed, rfl, ⟨inner, paren, outer, split, above, below, ?_⟩, ?_, unmarked, rfl⟩
  · rw [call_iff]
    rintro ⟨f, hf, function_kind⟩
    cases hf
    cases function_kind
  · exact some_count ⟨⟨.leftParen, "(", 17, none, none⟩, List.mem_cons_self, rfl⟩

end PostOrder

end Reckoner
