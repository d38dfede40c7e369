import Reckoner.Proofs.PostOrder.Depth

/-!
Which tokens can be put in order, and what is wrong with those that cannot. For all that waits and
all that is counted, acceptance goes by the number of open parentheses alone: the first comma or
closing parenthesis that comes while none is open is refused, and at the end the last one that has
not been closed.
-/
namespace Reckoner

namespace Token

/-- The token is a comma or closes a parenthesis, and no parenthesis is open in front of it. -/
def IsStray (before : List Token) (t : Token) : Prop :=
  (t.kind = .comma ∨ t.kind = .rightParen) ∧ depthBehind? 0 before = some 0

/-- No comma and no closing parenthesis comes while no parenthesis is open. -/
def NoStray (ts : List Token) : Prop :=
  ∀ before t behind, ts = before ++ t :: behind → ¬ IsStray before t

/-- Every comma stands in a parenthesis. -/
def CommasInside (ts : List Token) : Prop :=
  ∀ before t behind, ts = before ++ t :: behind → t.kind = .comma → depthBehind? 0 before ≠ some 0

/-- The parenthesis opens, and what stands behind it does not close it. -/
def IsUnclosed (p : Token) (behind : List Token) : Prop :=
  p.kind = .leftParen ∧ ∃ depth, depthBehind? 0 behind = some depth

/-- The last parenthesis that is not closed. -/
def IsLastUnclosed (p : Token) (behind : List Token) : Prop :=
  IsUnclosed p behind ∧ ∀ between q rest, behind = between ++ q :: rest → ¬ IsUnclosed q rest

/-- Parentheses that are open around tokens stay open. -/
theorem depthBehind?_add {depth last : Nat} {ts : List Token}
    (h : depthBehind? depth ts = some last) (around : Nat) :
    depthBehind? (depth + around) ts = some (last + around) := by
  induction ts generalizing depth with
  | nil =>
    cases h
    rfl
  | cons t ts ih =>
    by_cases left_kind : t.kind = .leftParen
    · rw [depthBehind?_leftParen left_kind] at h ⊢
      rw [Nat.add_right_comm]
      exact ih h
    by_cases right_kind : t.kind = .rightParen
    · cases depth with
      | zero =>
        rw [depthBehind?_cons, right_kind] at h
        cases h
      | succ depth =>
        rw [depthBehind?_rightParen right_kind] at h
        rw [Nat.add_right_comm, depthBehind?_rightParen right_kind]
        exact ih h
    · have level : t.IsLevel := ⟨left_kind, right_kind⟩
      rw [depthBehind?_level level] at h ⊢
      exact ih h

theorem depthBehind?_append_of_some {depth mid : Nat} {xs : List Token}
    (h : depthBehind? depth xs = some mid) (ys : List Token) :
    depthBehind? depth (xs ++ ys) = depthBehind? mid ys := by
  rw [depthBehind?_append, h]
  rfl

theorem depthBehind?_singleton (depth : Nat) (t : Token) :
    depthBehind? depth [t] = t.kind.depthBehind? depth :=
  bind_pure _

/-- Where a parenthesis is left open, there is one with nothing left open behind it. -/
theorem exists_opening (ts : List Token) {depth : Nat}
    (h : depthBehind? 0 ts = some (depth + 1)) :
    ∃ before p behind, ts = before ++ p :: behind ∧ p.kind = .leftParen ∧
      depthBehind? 0 before = some depth ∧ Balanced behind := by
  obtain ⟨us, t, split⟩ | rfl := (ts.eq_nil_or_concat').symm
  · rw [split, depthBehind?_append] at h
    obtain ⟨mid, reached, last⟩ := Option.bind_eq_some_iff.mp h
    rw [depthBehind?_singleton] at last
    have shorter : us.length < ts.length := by simp [split]
    by_cases left_kind : t.kind = .leftParen
    · rw [left_kind] at last
      cases last
      exact ⟨us, t, [], split, left_kind, reached, rfl⟩
    by_cases right_kind : t.kind = .rightParen
    · -- It closes one of two that are open in front of it, and the other one stays open.
      have two : mid = depth + 1 + 1 := by
        rw [right_kind] at last
        cases mid with
        | zero => cases last
        | succ mid => exact congrArg Nat.succ (Option.some.inj last)
      obtain ⟨outer, q, inner, inside_us, hq, opened, inside⟩ := exists_opening us (two ▸ reached)
      have outer_shorter : outer.length < ts.length := by simp [split, inside_us]
      obtain ⟨before, p, between, rfl, hp, front, level⟩ := exists_opening outer opened
      refine ⟨before, p, between ++ q :: (inner ++ [t]), by simp [split, inside_us], hp, front, ?_⟩
      rw [Balanced, depthBehind?_append_of_some level,
        depthBehind?_group hq right_kind (depthBehind?_add inside 1)]
      rfl
    · have level : t.IsLevel := ⟨left_kind, right_kind⟩
      rw [level.depthBehind?] at last
      obtain ⟨before, p, behind, rfl, hp, front, balanced⟩ :=
        exists_opening us (Option.some.inj last ▸ reached)
      refine ⟨before, p, behind ++ [t], by simp [split], hp, front, ?_⟩
      rw [Balanced, depthBehind?_append_of_some balanced]
      exact level.balanced
  · cases h
termination_by ts.length

theorem isLastUnclosed_iff {p : Token} {behind : List Token} :
    IsLastUnclosed p behind ↔ p.kind = .leftParen ∧ Balanced behind := by
  constructor
  · rintro ⟨⟨left_kind, depth, reached⟩, last⟩
    refine ⟨left_kind, ?_⟩
    cases depth with
    | zero => exact reached
    | succ depth =>
      obtain ⟨before, q, rest, rfl, hq, _, balanced⟩ := exists_opening behind reached
      exact absurd ⟨hq, 0, balanced⟩ (last before q rest rfl)
  · rintro ⟨left_kind, balanced⟩
    refine ⟨⟨left_kind, 0, balanced⟩, ?_⟩
    rintro between q rest rfl ⟨hq, depth, reached⟩
    -- The later parenthesis would still be open at the end.
    rw [Balanced, depthBehind?_append] at balanced
    obtain ⟨mid, _, inside⟩ := Option.bind_eq_some_iff.mp balanced
    have stays := depthBehind?_add reached (mid + 1)
    rw [depthBehind?_leftParen hq] at inside
    rw [Nat.zero_add, inside] at stays
    have same := Option.some.inj stays
    omega

/-- Parentheses in pairs leave no closing one astray, so that only commas are left to look at. -/
theorem noStray_and_balanced_iff {ts : List Token} :
    NoStray ts ∧ Balanced ts ↔ Balanced ts ∧ CommasInside ts := by
  constructor
  · rintro ⟨none_stray, balanced⟩
    refine ⟨balanced, fun before t behind split comma level => ?_⟩
    exact none_stray before t behind split ⟨Or.inl comma, level⟩
  · rintro ⟨balanced, inside⟩
    refine ⟨?_, balanced⟩
    rintro before t behind rfl ⟨comma | right_kind, level⟩
    · exact inside before t behind rfl comma level
    · rw [Balanced, depthBehind?_append_of_some level, depthBehind?_cons, right_kind] at balanced
      cases balanced

/-- What is wrong with a comma or a closing parenthesis for which no parenthesis is open. -/
def strayFault (t : Token) : SyntaxFault :=
  if t.kind = .comma then .strayComma t.position else .unmatchedClose t.position

end Token

namespace PostOrder

open Token

namespace State

variable {s s' : State} {out : List Token} {t : Token} {fault : SyntaxFault}

theorem fromParen_eq_nil_iff : s.fromParen = [] ↔ s.depth = 0 := by
  rw [← length_opens, List.length_eq_zero_iff, opens_fromParen]
  cases front : s.fromParen with
  | nil => simp
  | cons p below => simp [kind_of_fromParen front]

/-- A token is refused if it needs an open parenthesis and there is none. -/
theorem feed_eq_error_iff :
    s.feed t = .error fault ↔
      (t.kind = .comma ∨ t.kind = .rightParen) ∧ s.depth = 0 ∧ fault = strayFault t := by
  cases hk : t.kind with
  | number | variableName | constant | function | operator | unaryMinus | leftParen =>
    simp [feed, hk]
  | comma =>
    have fed : s.feed t = s.feedComma t := by simp [feed, noteContent, hk]
    rw [fed, feedComma, ← fromParen_eq_nil_iff, strayFault, if_pos hk]
    cases s.fromParen <;> simp [eq_comm]
  | rightParen =>
    have fed : s.feed t = s.feedClose t := by simp [feed, noteContent, hk]
    have no_comma : t.kind ≠ .comma := by simp [hk]
    rw [fed, feedClose, ← fromParen_eq_nil_iff, strayFault, if_neg no_comma]
    cases s.fromParen <;> simp [eq_comm]

/-- Tokens are refused at the first one that is. -/
theorem feedAll_eq_error {ts : List Token} (h : s.feedAll ts = .error fault) :
    ∃ before t behind out s', ts = before ++ t :: behind ∧ s.feedAll before = .ok (out, s') ∧
      s'.feed t = .error fault := by
  induction ts generalizing s with
  | nil => cases h
  | cons t ts ih =>
    obtain refused | ⟨⟨first, next⟩, fed, h⟩ := bind_eq_error_iff.mp h
    · exact ⟨[], t, ts, [], s, rfl, rfl, refused⟩
    · obtain refused | ⟨_, _, h⟩ := bind_eq_error_iff.mp h
      · obtain ⟨before, u, behind, out, last, rfl, fedAll, refused⟩ := ih refused
        exact ⟨t :: before, u, behind, _, last, rfl, feedAll_cons_of_ok fed fedAll, refused⟩
      · cases h

theorem head?_opens (s : State) :
    s.opens.head? = s.waiting.find? fun t => t.kind = .leftParen :=
  List.head?_filter

/-- Behind tokens those parentheses are open that they have opened, and below them those that were
open before and have not been closed. -/
theorem opens_feedAll {ts xs ys : List Token} {last : Nat} (opened : s.opens = xs ++ ys)
    (reached : depthBehind? xs.length ts = some last) (fed : s.feedAll ts = .ok (out, s')) :
    ∃ zs, s'.opens = zs ++ ys ∧ zs.length = last := by
  induction ts generalizing s out xs with
  | nil =>
    cases fed
    exact ⟨xs, opened, Option.some.inj reached⟩
  | cons t ts ih =>
    obtain ⟨first, mid, rest, fedFirst, fedRest, rfl⟩ := feedAll_cons_eq_ok.mp fed
    by_cases left_kind : t.kind = .leftParen
    · rw [depthBehind?_leftParen left_kind] at reached
      have one_more : mid.opens = (t :: xs) ++ ys := by
        rw [opens_leftParen left_kind fedFirst, opened, List.cons_append]
      exact ih one_more reached fedRest
    by_cases right_kind : t.kind = .rightParen
    · cases xs with
      | nil =>
        rw [depthBehind?_cons, right_kind] at reached
        cases reached
      | cons x xs =>
        rw [List.length_cons, depthBehind?_rightParen right_kind] at reached
        obtain ⟨p, one_less⟩ := opens_rightParen right_kind fedFirst
        exact ih (List.cons.inj (one_less.symm.trans opened)).2 reached fedRest
    · have level : t.IsLevel := ⟨left_kind, right_kind⟩
      rw [depthBehind?_level level] at reached
      exact ih ((opens_level level fedFirst).trans opened) reached fedRest

/-- There is a count for every parenthesis that is open. -/
theorem length_parens_feed (paired : s.parens.length = s.depth)
    (fed : s.feed t = .ok (out, s')) : s'.parens.length = s'.depth := by
  rw [← length_opens] at paired ⊢
  by_cases left_kind : t.kind = .leftParen
  · rw [opens_leftParen left_kind fed, List.length_cons, ← paired]
    cases (feed_leftParen s left_kind).symm.trans fed
    simp [feedOpen, filled]
  by_cases right_kind : t.kind = .rightParen
  · obtain ⟨p, opened⟩ := opens_rightParen right_kind fed
    obtain ⟨_, below, _, _, rfl⟩ := (feed_rightParen_eq_ok right_kind).mp fed
    rw [opened, List.length_cons] at paired
    rw [List.length_tail, paired, Nat.add_sub_cancel]
  · have level : t.IsLevel := ⟨left_kind, right_kind⟩
    rw [opens_level level fed, ← paired]
    obtain ⟨_, _, rfl⟩ | ⟨_, _, rfl⟩ | ⟨_, _, rfl⟩ | ⟨_, p, below, _, _, _, rfl⟩ :=
      feed_level level fed
    all_goals exact List.length_modifyHead

theorem length_parens_feedAll {ts : List Token} (paired : s.parens.length = s.depth)
    (fed : s.feedAll ts = .ok (out, s')) : s'.parens.length = s'.depth := by
  induction ts generalizing s out with
  | nil =>
    cases fed
    exact paired
  | cons t ts ih =>
    obtain ⟨first, mid, rest, fedFirst, fedRest, rfl⟩ := feedAll_cons_eq_ok.mp fed
    exact ih (length_parens_feed paired fedFirst) fedRest

/-- Tokens are accepted one by one if none of them is astray. -/
theorem noStray_of_feedAll {ts : List Token} (fed : empty.feedAll ts = .ok (out, s)) :
    NoStray ts := by
  rintro before t behind rfl ⟨kinds, level⟩
  obtain ⟨first, mid, rest, fedFront, fedRest, rfl⟩ := feedAll_append_eq_ok.mp fed
  have depth : some mid.depth = some 0 := (depth_feedAll fedFront).symm.trans level
  have refused := feed_eq_error_iff.mpr ⟨kinds, Option.some.inj depth, rfl⟩
  obtain ⟨_, _, _, accepted, _⟩ := feedAll_cons_eq_ok.mp fedRest
  rw [refused] at accepted
  cases accepted

/-- Behind tokens that are accepted the next one is refused if it is astray. -/
theorem feed_eq_error_iff_isStray {before : List Token}
    (fed : empty.feedAll before = .ok (out, s)) :
    s.feed t = .error fault ↔ IsStray before t ∧ fault = strayFault t := by
  have depth : depthBehind? 0 before = some s.depth := depth_feedAll fed
  rw [feed_eq_error_iff, IsStray, depth, Option.some.injEq, and_assoc]

theorem exists_isStray_of_feedAll {ts : List Token} (h : empty.feedAll ts = .error fault) :
    ∃ before t behind, ts = before ++ t :: behind ∧ NoStray before ∧ IsStray before t ∧
      fault = strayFault t := by
  obtain ⟨before, t, behind, out, s, rfl, fed, refused⟩ := feedAll_eq_error h
  obtain ⟨stray, rfl⟩ := (feed_eq_error_iff_isStray fed).mp refused
  exact ⟨before, t, behind, rfl, noStray_of_feedAll fed, stray, rfl⟩

theorem feedAll_of_noStray {ts : List Token} (h : NoStray ts) :
    ∃ out s, empty.feedAll ts = .ok (out, s) := by
  cases fed : empty.feedAll ts with
  | error fault =>
    obtain ⟨before, t, behind, split, _, stray, _⟩ := exists_isStray_of_feedAll fed
    exact absurd stray (h before t behind split)
  | ok r => exact ⟨r.1, r.2, rfl⟩

/-- The first token that is astray is refused. -/
theorem feedAll_eq_error_iff {ts : List Token} :
    empty.feedAll ts = .error fault ↔
      ∃ before t behind, ts = before ++ t :: behind ∧ NoStray before ∧ IsStray before t ∧
        fault = strayFault t := by
  refine ⟨exists_isStray_of_feedAll, ?_⟩
  rintro ⟨before, t, behind, rfl, none_before, stray⟩
  obtain ⟨out, s, fed⟩ := feedAll_of_noStray none_before
  have refused := (feed_eq_error_iff_isStray fed).mpr stray
  rw [feedAll_append, fed]
  simp only [feedAll, refused, bind, Except.bind]

/-- What is open in the end is open because nothing behind it closes it. -/
theorem find?_open_iff {ts : List Token} (fed : empty.feedAll ts = .ok (out, s)) {p : Token} :
    (s.waiting.find? fun t => t.kind = .leftParen) = some p ↔
      ∃ before behind, ts = before ++ p :: behind ∧ IsLastUnclosed p behind := by
  have last {before behind : List Token} {q : Token} (split : ts = before ++ q :: behind)
      (left_kind : q.kind = .leftParen) (balanced : Token.Balanced behind) :
      (s.waiting.find? fun t => t.kind = .leftParen) = some q := by
    subst split
    obtain ⟨first, mid, rest, _, fedRest, _⟩ := feedAll_append_eq_ok.mp fed
    obtain ⟨_, next, behind_out, fedOpen, fedBehind, _⟩ := feedAll_cons_eq_ok.mp fedRest
    have opened : next.opens = [] ++ q :: mid.opens := opens_leftParen left_kind fedOpen
    obtain ⟨zs, still_open, none_more⟩ := opens_feedAll opened balanced fedBehind
    rw [List.length_eq_zero_iff.mp none_more] at still_open
    rw [← head?_opens, still_open]
    rfl
  constructor
  · intro found
    have deep : depthBehind? 0 ts = some s.depth := depth_feedAll fed
    have some_open : s.depth ≠ 0 := by
      intro none_open
      have waits := List.countP_eq_zero.mp none_open p (List.mem_of_find?_eq_some found)
      have still_open := List.find?_some found
      exact waits still_open
    obtain ⟨depth, hd⟩ := Nat.exists_eq_succ_of_ne_zero some_open
    obtain ⟨before, q, behind, split, hq, _, balanced⟩ := exists_opening ts (hd ▸ deep)
    have same := Option.some.inj (found.symm.trans (last split hq balanced))
    exact ⟨before, behind, same ▸ split, isLastUnclosed_iff.mpr ⟨same ▸ hq, balanced⟩⟩
  · rintro ⟨before, behind, split, unclosed⟩
    obtain ⟨left_kind, balanced⟩ := isLastUnclosed_iff.mp unclosed
    exact last split left_kind balanced

theorem finish_eq_error_iff :
    s.finish = .error fault ↔
      ∃ p, (s.waiting.find? fun t => t.kind = .leftParen) = some p ∧
        fault = .unclosedOpen p.position := by
  unfold finish
  cases s.waiting.find? fun t => t.kind = .leftParen <;> simp [eq_comm]

end State

/-- The tokens that have an order are those without anything astray whose parentheses belong
together in pairs. -/
theorem exists_ofTokens_iff {ts : List Token} :
    (∃ post, ofTokens ts = .ok post) ↔ NoStray ts ∧ Token.Balanced ts := by
  constructor
  · rintro ⟨post, ordered⟩
    obtain ⟨out, s, fed, _, _⟩ := ofTokens_eq_ok_iff.mp ordered
    exact ⟨State.noStray_of_feedAll fed, balanced_of_ofTokens ordered⟩
  · rintro ⟨none_stray, balanced⟩
    obtain ⟨out, s, fed⟩ := State.feedAll_of_noStray none_stray
    have depth : some s.depth = some 0 := (State.depth_feedAll fed).symm.trans balanced
    refine ⟨_, ofTokens_eq_ok_iff.mpr ⟨out, s, fed, fun t ht => ?_, rfl⟩⟩
    simpa using List.countP_eq_zero.mp (Option.some.inj depth) t ht

theorem ofTokens_eq_error_iff {ts : List Token} {fault : SyntaxFault} :
    ofTokens ts = .error fault ↔
      (∃ before t behind, ts = before ++ t :: behind ∧ NoStray before ∧ IsStray before t ∧
        fault = strayFault t) ∨
      NoStray ts ∧ ∃ before p behind, ts = before ++ p :: behind ∧ IsLastUnclosed p behind ∧
        fault = .unclosedOpen p.position := by
  rw [ofTokens, bind_eq_error_iff, State.feedAll_eq_error_iff]
  refine or_congr_right ?_
  constructor
  · rintro ⟨⟨out, s⟩, fed, h⟩
    obtain failed | ⟨rest, _, h⟩ := bind_eq_error_iff.mp h
    · obtain ⟨p, found, rfl⟩ := State.finish_eq_error_iff.mp failed
      obtain ⟨before, behind, split, unclosed⟩ := (State.find?_open_iff fed).mp found
      exact ⟨State.noStray_of_feedAll fed, before, p, behind, split, unclosed, rfl⟩
    · cases h
  · rintro ⟨none_stray, before, p, behind, split, unclosed, rfl⟩
    obtain ⟨out, s, fed⟩ := State.feedAll_of_noStray none_stray
    have found := (State.find?_open_iff fed).mpr ⟨before, behind, split, unclosed⟩
    refine ⟨(out, s), fed, bind_eq_error_iff.mpr (Or.inl ?_)⟩
    exact State.finish_eq_error_iff.mpr ⟨p, found, rfl⟩

/-- **Acceptance goes by open parentheses.** Tokens have an order if and only if their parentheses
belong together in pairs and every comma stands in one. Otherwise the fault is the first comma or
closing parenthesis for which none is open, and if there is no such token, the last parenthesis that
is not closed. At no time is there a count missing or too many for the parentheses that are open. -/
theorem ofTokens_accepts (ts : List Token) :
    ((∃ post, ofTokens ts = .ok post) ↔ Token.Balanced ts ∧ CommasInside ts) ∧
    (∀ fault, ofTokens ts = .error fault ↔
      (∃ before t behind, ts = before ++ t :: behind ∧ NoStray before ∧ IsStray before t ∧
        fault = strayFault t) ∨
      NoStray ts ∧ ∃ before p behind, ts = before ++ p :: behind ∧ IsLastUnclosed p behind ∧
        fault = .unclosedOpen p.position) ∧
    (∀ t, (strayFault t).report.message =
        (if t.kind = .comma then "Mismatched comma or parentheses" else "Mismatched parentheses") ∧
      (strayFault t).report.position = some t.position) ∧
    (∀ p : Token, (SyntaxFault.unclosedOpen p.position).report.message = "Mismatched parentheses" ∧
      (SyntaxFault.unclosedOpen p.position).report.position = some p.position) ∧
    ∀ before behind out s, ts = before ++ behind → State.empty.feedAll before = .ok (out, s) →
      s.parens.length = s.depth := by
  refine ⟨exists_ofTokens_iff.trans noStray_and_balanced_iff, fun fault => ofTokens_eq_error_iff,
    fun t => ?_, fun p => ⟨rfl, rfl⟩, fun before behind out s _ fed => ?_⟩
  · unfold strayFault
    split <;> exact ⟨rfl, rfl⟩
  · exact State.length_parens_feedAll rfl fed

/-- A second closing parenthesis is the fault, although one more is opened behind it that is never
closed. -/
theorem ofTokens_accepts_stray :
    ofTokens [⟨.leftParen, "(", 0, none, none⟩, ⟨.number, "1", 1, some (.integer 1), none⟩,
        ⟨.rightParen, ")", 2, none, none⟩, ⟨.rightParen, ")", 3, none, none⟩,
        ⟨.leftParen, "(", 4, none, none⟩, ⟨.comma, ",", 5, none, none⟩] =
      .error (.unmatchedClose 3) := by
  obtain ⟨_, failed_iff, _⟩ := ofTokens_accepts [⟨.leftParen, "(", 0, none, none⟩,
    ⟨.number, "1", 1, some (.integer 1), none⟩, ⟨.rightParen, ")", 2, none, none⟩,
    ⟨.rightParen, ")", 3, none, none⟩, ⟨.leftParen, "(", 4, none, none⟩,
    ⟨.comma, ",", 5, none, none⟩]
  have group : NoStray [⟨.leftParen, "(", 0, none, none⟩,
      ⟨.number, "1", 1, some (.integer 1), none⟩, ⟨.rightParen, ")", 2, none, none⟩] :=
    State.noStray_of_feedAll (s := .empty) rfl
  exact (failed_iff _).mpr (Or.inl ⟨_, ⟨.rightParen, ")", 3, none, none⟩, _, rfl, group,
    ⟨Or.inr rfl, rfl⟩, rfl⟩)

end PostOrder

end Reckoner
