import Reckoner.Proofs.PostOrder.Acceptance

/-!
Parentheses isolate what stands in them. What is accepted by itself is put in order in the same way
above an open parenthesis, for nothing that is fed looks below that parenthesis (`feed_raised`) but
for the fact that it is filled. So lists of tokens with commas in between come out one after the
other, and behind them the function whose arguments they are.
-/
namespace Reckoner.PostOrder

open Token

/-- Lists of tokens with a comma between each and the next. -/
inductive Separated : List (List Token) → List Token → Prop where
  | last (ts : List Token) : Separated [ts] ts
  | more {ts tokens : List Token} {segments : List (List Token)} {comma : Token}
      (comma_kind : comma.kind = .comma) (later : Separated segments tokens) :
      Separated (ts :: segments) (ts ++ comma :: tokens)

/-- How many arguments lists of tokens are: none if all of them are empty. -/
def argumentsAmong (segments : List (List Token)) : Nat :=
  if ∀ ts ∈ segments, ts = [] then 0 else segments.length

theorem Separated.ne_nil {segments : List (List Token)} {tokens : List Token}
    (h : Separated segments tokens) : segments ≠ [] := by
  cases h <;> simp

section Lists

variable {α : Type} {q : α → Bool} {x : α}

/-- What stops at an element does not depend on what is behind it. -/
theorem takeWhile_append_of_stop (stops : ¬ q x) (xs behind : List α) :
    (xs ++ x :: behind).takeWhile q = xs.takeWhile q := by
  induction xs with
  | nil => exact List.takeWhile_cons_of_neg stops
  | cons y xs ih => by_cases hy : q y <;> simp [hy, ih]

theorem dropWhile_append_of_stop (stops : ¬ q x) (xs behind : List α) :
    (xs ++ x :: behind).dropWhile q = xs.dropWhile q ++ x :: behind := by
  induction xs with
  | nil => exact List.dropWhile_cons_of_neg stops
  | cons y xs ih => by_cases hy : q y <;> simp [hy, ih]

end Lists

namespace Paren

theorem fill_fill (p : Paren) : p.fill.fill = p.fill := rfl

/-- The parenthesis behind lists of tokens with commas in between. -/
def around (p : Paren) (segments : List (List Token)) : Paren :=
  ⟨p.isCall, p.commas + (segments.length - 1), p.hasContent || segments.any fun ts => ts ≠ []⟩

/-- A comma behind one list leads to the next. -/
theorem around_cons (p : Paren) {ts tokens : List Token} {segments : List (List Token)}
    (later : Separated segments tokens) :
    p.around (ts :: segments) = (p.around [ts]).addComma.around segments := by
  have counts : 0 < segments.length := List.length_pos_iff.mpr later.ne_nil
  simp only [around, addComma, Paren.mk.injEq, true_and]
  constructor
  · simp only [List.length_cons, List.length_nil]
    omega
  · simp [Bool.or_assoc]

theorem argCount_around {segments : List (List Token)} {tokens : List Token}
    (separated : Separated segments tokens) :
    (ofCall.around segments).argCount = argumentsAmong segments := by
  have counts : segments.length - 1 + 1 = segments.length :=
    Nat.sub_add_cancel (List.length_pos_iff.mpr separated.ne_nil)
  have content : (segments.any fun ts => ts ≠ []) = true ↔ ¬ ∀ ts ∈ segments, ts = [] := by simp
  simp only [argCount, around, ofCall, argumentsAmong, Bool.false_or, content, Nat.zero_add,
    counts, ite_not]

end Paren

namespace State

variable {s s' : State} {t p : Token} {out below : List Token} {frame : Paren}
  {frames : List Paren}

/-- The state above an open parenthesis, with its count and all that waits below it. -/
def raised (s : State) (p : Token) (below : List Token) (frame : Paren) (frames : List Paren) :
    State :=
  ⟨s.waiting ++ p :: below, s.parens ++ frame :: frames⟩

theorem raised_filled (full : frame.fill = frame) :
    (s.raised p below frame frames).filled = s.filled.raised p below frame frames := by
  simp only [raised, filled]
  cases s.parens with
  | nil => simp [full]
  | cons first rest => rfl

theorem above_raised (hp : p.kind = .leftParen) :
    (s.raised p below frame frames).above = s.above :=
  takeWhile_append_of_stop (by simp [hp]) s.waiting below

theorem fromParen_raised (hp : p.kind = .leftParen) :
    (s.raised p below frame frames).fromParen = s.fromParen ++ p :: below :=
  dropWhile_append_of_stop (by simp [hp]) s.waiting below

theorem feedOperator_raised (hp : p.kind = .leftParen) (t : Token) :
    (s.raised p below frame frames).feedOperator t =
      ((s.feedOperator t).1, (s.feedOperator t).2.raised p below frame frames) := by
  have stops : ¬ t.appliedBefore p := fun applied => kind_ne_of_appliedBefore applied hp
  simp only [feedOperator, raised, takeWhile_append_of_stop stops, dropWhile_append_of_stop stops,
    List.cons_append]

theorem feedOpen_raised (hp : p.kind = .leftParen) (t : Token) :
    (s.raised p below frame frames).feedOpen t = (s.feedOpen t).raised p below frame frames := by
  cases front : s.waiting with
  | nil => simp [feedOpen, raised, front, hp]
  | cons first rest => simp [feedOpen, raised, front]

theorem takeFunction_raised (hp : p.kind = .leftParen) (paren : Option Paren)
    (waiting below : List Token) :
    takeFunction paren (waiting ++ p :: below) =
      ((takeFunction paren waiting).1, (takeFunction paren waiting).2 ++ p :: below) := by
  cases waiting with
  | nil => simp [takeFunction, hp]
  | cons f rest =>
    by_cases hf : f.kind = .function
    · cases paren <;> simp [takeFunction, hf]
    · simp [takeFunction, hf]

/-- What is done above the innermost of several parentheses reaches neither below it nor further. -/
theorem innermost_raised (hp : p.kind = .leftParen) (paired : s.parens.length = s.depth) {q : Token}
    {rest : List Token} (front : s.fromParen = q :: rest) (below : List Token) (frame : Paren)
    (frames : List Paren) :
    (s.raised p below frame frames).fromParen = q :: (rest ++ p :: below) ∧
      ∃ first others, s.parens = first :: others := by
  constructor
  · rw [fromParen_raised hp, front, List.cons_append]
  · apply List.exists_cons_of_length_pos
    rw [paired, ← length_opens, opens_of_fromParen front s.parens]
    exact Nat.succ_pos _

/-- A token does the same above an open parenthesis that holds something already. -/
theorem feed_raised (hp : p.kind = .leftParen) (full : frame.fill = frame)
    (paired : s.parens.length = s.depth) (fed : s.feed t = .ok (out, s')) :
    (s.raised p below frame frames).feed t = .ok (out, s'.raised p below frame frames) := by
  by_cases left_kind : t.kind = .leftParen
  · cases (feed_leftParen s left_kind).symm.trans fed
    rw [feed_leftParen _ left_kind, raised_filled full, feedOpen_raised hp]
  by_cases right_kind : t.kind = .rightParen
  · obtain ⟨q, rest, front, rfl, rfl⟩ := (feed_rightParen_eq_ok right_kind).mp fed
    obtain ⟨inside, first, others, counts⟩ := innermost_raised hp paired front below frame
      frames
    apply (feed_rightParen_eq_ok right_kind).mpr
    refine ⟨q, rest ++ p :: below, inside, ?_, ?_⟩
    · rw [above_raised hp, takeFunction_raised hp, raised, counts]
      rfl
    · simp [takeFunction_raised hp, raised, counts]
  have level : t.IsLevel := ⟨left_kind, right_kind⟩
  obtain ⟨operand, rfl, rfl⟩ | ⟨function_kind, rfl, rfl⟩ | ⟨operator, rfl, rfl⟩ |
      ⟨comma, q, rest, hq, front, rfl, rfl⟩ := feed_level level fed
  · rw [feed_operand _ operand, raised_filled full]
  · rw [feed_function _ function_kind, raised_filled full]
    rfl
  · rw [feed_isOperator operator, raised_filled full, feedOperator_raised hp]
  · obtain ⟨inside, first, others, counts⟩ := innermost_raised hp paired front below frame
      frames
    apply (feed_comma_eq_ok comma).mpr
    refine ⟨q, rest ++ p :: below, inside, (above_raised hp).symm, ?_⟩
    simp [raised, counts]

theorem feedAll_raised (hp : p.kind = .leftParen) (full : frame.fill = frame) {ts : List Token}
    (paired : s.parens.length = s.depth) (fed : s.feedAll ts = .ok (out, s')) :
    (s.raised p below frame frames).feedAll ts = .ok (out, s'.raised p below frame frames) := by
  induction ts generalizing s out with
  | nil =>
    cases fed
    rfl
  | cons t ts ih =>
    obtain ⟨first, mid, rest, fedFirst, fedRest, rfl⟩ := feedAll_cons_eq_ok.mp fed
    exact feedAll_cons_of_ok (feed_raised hp full paired fedFirst)
      (ih (length_parens_feed paired fedFirst) fedRest)

/-- Content fills its parenthesis, which may be full before. -/
theorem feed_filled (not_comma : t.kind ≠ .comma) (not_right : t.kind ≠ .rightParen) :
    s.filled.feed t = s.feed t := by
  have noted : s.filled.noteContent t = s.noteContent t := by
    simp [noteContent, filled, not_comma, not_right, List.modifyHead_modifyHead]
  simp only [feed, noted]

/-- Where nothing is open no comma is accepted and nothing is closed. -/
theorem content_of_feed_empty (fed : empty.feed t = .ok (out, s')) :
    t.kind ≠ .comma ∧ t.kind ≠ .rightParen := by
  constructor
  · intro hk
    obtain ⟨q, rest, front, _⟩ := (feed_comma_eq_ok hk).mp fed
    cases front
  · intro hk
    obtain ⟨q, rest, front, _⟩ := (feed_rightParen_eq_ok hk).mp fed
    cases front

/-- Behind an open parenthesis tokens do what they do at the start, and fill it. -/
theorem feedAll_behind (hp : p.kind = .leftParen) {ts : List Token}
    (fed : empty.feedAll ts = .ok (out, s)) (below : List Token) (frame : Paren)
    (frames : List Paren) :
    (State.mk (p :: below) (frame :: frames)).feedAll ts =
      .ok (out, s.raised p below (frame.around [ts]) frames) := by
  cases ts with
  | nil =>
    cases fed
    simp [feedAll_nil, raised, empty, Paren.around]
  | cons t ts =>
    have filled_frame : frame.around [t :: ts] = frame.fill := by simp [Paren.around, Paren.fill]
    obtain ⟨first, mid, rest, fedFirst, _, _⟩ := feedAll_cons_eq_ok.mp fed
    obtain ⟨not_comma, not_right⟩ := content_of_feed_empty fedFirst
    have same : (State.mk (p :: below) (frame :: frames)).feedAll (t :: ts) =
        (empty.raised p below frame.fill frames).feedAll (t :: ts) := by
      have start : empty.raised p below frame.fill frames =
          (State.mk (p :: below) (frame :: frames)).filled := rfl
      simp only [feedAll, start, feed_filled not_comma not_right]
    rw [same, filled_frame]
    exact feedAll_raised hp frame.fill_fill rfl fed

/-- What is accepted is fed behind an open parenthesis in the same way, and only what would come
last by itself still waits. -/
theorem feedAll_of_accepted {ts post : List Token} (hp : p.kind = .leftParen)
    (accepted : ofTokens ts = .ok post) (below : List Token) (frame : Paren)
    (frames : List Paren) :
    ∃ first pending, post = first ++ pending ∧ (∀ t ∈ pending, t.kind ≠ .leftParen) ∧
      (State.mk (p :: below) (frame :: frames)).feedAll ts =
        .ok (first, ⟨pending ++ p :: below, frame.around [ts] :: frames⟩) := by
  obtain ⟨first, s, fed, closed, rfl⟩ := ofTokens_eq_ok_iff.mp accepted
  have no_count : s.parens = [] := by
    have paired : s.parens.length = s.depth := length_parens_feedAll rfl fed
    have level : s.depth = 0 := by
      rw [depth, List.countP_eq_zero]
      intro t ht
      simpa using closed t ht
    exact List.length_eq_zero_iff.mp (paired.trans level)
  have behind := feedAll_behind hp fed below frame frames
  rw [raised, no_count, List.nil_append] at behind
  exact ⟨first, s.waiting, rfl, closed, behind⟩

/-- Accepted lists with commas in between come out one after the other before their parenthesis is
closed, and then the function in front of it. -/
theorem feedAll_separated {segments posts : List (List Token)} {tokens : List Token}
    {right : Token} (hp : p.kind = .leftParen) (right_kind : right.kind = .rightParen)
    (separated : Separated segments tokens)
    (accepted : List.Forall₂ (fun ts post => ofTokens ts = .ok post) segments posts)
    (below : List Token) (frame : Paren) (frames : List Paren) :
    (State.mk (p :: below) (frame :: frames)).feedAll (tokens ++ [right]) =
      .ok (posts.flatten ++ (takeFunction (some (frame.around segments)) below).1,
        ⟨(takeFunction (some (frame.around segments)) below).2, frames⟩) := by
  induction separated generalizing posts frame with
  | last ts =>
    obtain _ | ⟨head, ⟨⟩⟩ := accepted
    obtain ⟨first, pending, rfl, closed, fed⟩ := feedAll_of_accepted hp head below frame frames
    have done := feed_rightParen right_kind hp closed below (frame.around [ts] :: frames)
    have all := feedAll_append_of_ok fed (feedAll_cons_of_ok done (feedAll_nil _))
    simpa using all
  | @more ts tokens segments comma comma_kind later ih =>
    obtain _ | ⟨head, tail⟩ := accepted
    obtain ⟨first, pending, rfl, closed, fed⟩ := feedAll_of_accepted hp head below frame frames
    have next := feed_comma comma_kind hp closed below (frame.around [ts] :: frames)
    have all := feedAll_append_of_ok fed
      (feedAll_cons_of_ok next (ih tail (frame.around [ts]).addComma))
    rw [← frame.around_cons later] at all
    simpa using all

end State

/-- **Parentheses isolate what they enclose.** Lists of tokens that are accepted one by one, well
written or not, are accepted with commas in between and parentheses around them, and come out as
they do by themselves, one after the other. A function in front of the parentheses comes behind
them, with the number of the lists, or with zero if all of them are empty. -/
theorem ofTokens_enclosed {segments posts : List (List Token)} {tokens : List Token}
    (left right : Token) (separated : Separated segments tokens)
    (accepted : List.Forall₂ (fun ts post => ofTokens ts = .ok post) segments posts)
    (left_kind : left.kind = .leftParen) (right_kind : right.kind = .rightParen) :
    ofTokens (left :: (tokens ++ [right])) = .ok posts.flatten ∧
      ∀ f : Token, f.kind = .function →
        ofTokens (f :: left :: (tokens ++ [right])) =
          .ok (posts.flatten ++ [{ f with argCount := some (argumentsAmong segments : Int) }]) := by
  constructor
  · have opened := State.feed_leftParen State.empty left_kind
    have inside := State.feedAll_separated left_kind right_kind separated accepted []
      ⟨false, 0, false⟩ []
    apply ofTokens_eq_ok_iff.mpr
    exact ⟨_, _, State.feedAll_cons_of_ok opened inside, by simp [State.takeFunction],
      by simp [State.takeFunction]⟩
  · intro f function_kind
    have waits := State.feed_function State.empty function_kind
    have opened := State.feed_leftParen (State.empty.filled.wait f) left_kind
    have inside := State.feedAll_separated left_kind right_kind separated accepted [f]
      Paren.ofCall []
    have call : (Paren.ofCall.around segments).isCall := rfl
    rw [State.takeFunction_call function_kind call, Paren.argCount_around separated] at inside
    have start : State.mk [left, f] [Paren.ofCall] =
        (State.empty.filled.wait f).filled.feedOpen left := by
      simp [State.feedOpen, State.wait, State.filled, State.empty, function_kind, Paren.ofCall]
    rw [start] at inside
    have fed := State.feedAll_cons_of_ok waits (State.feedAll_cons_of_ok opened inside)
    apply ofTokens_eq_ok_iff.mpr
    exact ⟨_, _, fed, by simp, by simp⟩

/-- A function without parentheses, an empty list and operators without operands. -/
theorem ofTokens_enclosed_dangling :
    ∃ segments posts tokens left right, Separated segments tokens ∧
      List.Forall₂ (fun ts post => ofTokens ts = .ok post) segments posts ∧
      left.kind = .leftParen ∧ right.kind = .rightParen ∧
      ofTokens (left :: (tokens ++ [right])) = .ok posts.flatten ∧
      ofTokens (⟨.function, "max", 0, none, none⟩ :: left :: (tokens ++ [right])) =
        .ok [⟨.variableName, "x", 7, none, none⟩, ⟨.function, "sin", 4, none, none⟩,
          ⟨.operator, "*", 11, none, none⟩, ⟨.operator, "+", 10, none, none⟩,
          ⟨.function, "max", 0, none, some 3⟩] := by
  have separated : Separated
      [[⟨.function, "sin", 4, none, none⟩, ⟨.variableName, "x", 7, none, none⟩], [],
        [⟨.operator, "+", 10, none, none⟩, ⟨.operator, "*", 11, none, none⟩]]
      [⟨.function, "sin", 4, none, none⟩, ⟨.variableName, "x", 7, none, none⟩,
        ⟨.comma, ",", 8, none, none⟩, ⟨.comma, ",", 9, none, none⟩,
        ⟨.operator, "+", 10, none, none⟩, ⟨.operator, "*", 11, none, none⟩] :=
    .more rfl (.more rfl (.last _))
  have accepted : List.Forall₂ (fun ts post => ofTokens ts = .ok post)
      [[⟨.function, "sin", 4, none, none⟩, ⟨.variableName, "x", 7, none, none⟩], [],
        [⟨.operator, "+", 10, none, none⟩, ⟨.operator, "*", 11, none, none⟩]]
      [[⟨.variableName, "x", 7, none, none⟩, ⟨.function, "sin", 4, none, none⟩], [],
        [⟨.operator, "*", 11, none, none⟩, ⟨.operator, "+", 10, none, none⟩]] :=
    .cons rfl (.cons rfl (.cons rfl .nil))
  obtain ⟨group, call⟩ := ofTokens_enclosed ⟨.leftParen, "(", 3, none, none⟩
    ⟨.rightParen, ")", 12, none, none⟩ separated accepted rfl rfl
  exact ⟨_, _, _, _, _, separated, accepted, rfl, rfl, group, call _ rfl⟩

end Reckoner.PostOrder
