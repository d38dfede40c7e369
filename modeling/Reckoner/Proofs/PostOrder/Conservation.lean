import Reckoner.Proofs.PostOrder.Calls
import Reckoner.Proofs.PostOrder.Members

/-!
Nothing is lost on the way into the order of evaluation, and nothing is made up, whatever tokens are
accepted. `Accounts` says it for a part of the way: what waited and what is fed has come out or
waits. A function may come out with another number of arguments, and only what has come out is
changed.
-/
namespace Reckoner.PostOrder

open Token

/-- What a token comes out as: itself, or a function with the number of its arguments. -/
def ComesOutAs (t out : Token) : Prop :=
  out = t ∨ t.kind = .function ∧ ∃ count : Nat, out = { t with argCount := some (count : Int) }

theorem comesOutAs_self (ts : List Token) : List.Forall₂ ComesOutAs ts ts :=
  List.forall₂_same.mpr fun _ _ => .inl rfl

namespace State

variable {s s' s'' : State} {t : Token} {out given : List Token}

/-- What waits to come out. Parentheses only wait to be closed. -/
def held (s : State) : List Token :=
  s.waiting.filter fun t => t.kind ≠ .leftParen

theorem held_append {front : List Token} (no_parens : ∀ t ∈ front, t.kind ≠ .leftParen)
    (waiting : List Token) (parens : List Paren) :
    (State.mk (front ++ waiting) parens).held = front ++ (State.mk waiting parens).held := by
  have stays : (front.filter fun t => t.kind ≠ .leftParen) = front := by
    apply List.filter_eq_self.mpr
    intro t ht
    exact decide_eq_true (no_parens t ht)
  simp only [held, List.filter_append, stays]

theorem held_leftParen {p : Token} (hp : p.kind = .leftParen) (waiting : List Token)
    (parens : List Paren) :
    (State.mk (p :: waiting) parens).held = (State.mk waiting parens).held := by
  simp [held, hp]

theorem held_eq_waiting (closed : ∀ t ∈ s.waiting, t.kind ≠ .leftParen) :
    s.held = s.waiting := by
  apply List.filter_eq_self.mpr
  intro t ht
  exact decide_eq_true (closed t ht)

/-- Something waits above the innermost parenthesis, and something below it. -/
theorem held_eq (s : State) (parens : List Paren) :
    s.held = s.above ++ (State.mk s.fromParen parens).held := by
  have no_parens : ∀ t ∈ s.above, t.kind ≠ .leftParen := by
    intro t ht
    simpa using List.mem_takeWhile_imp ht
  have split : s = ⟨s.above ++ s.fromParen, s.parens⟩ := by rw [s.above_append_fromParen]
  calc s.held
      = (State.mk (s.above ++ s.fromParen) s.parens).held := congrArg State.held split
    _ = s.above ++ (State.mk s.fromParen parens).held := held_append no_parens _ _

/-- The tokens `origin` have come out, and what waited and what was given has come out or waits. -/
def Accounts (s : State) (given out : List Token) (s' : State) : Prop :=
  ∃ origin, List.Forall₂ ComesOutAs origin out ∧ (origin ++ s'.held).Perm (s.held ++ given)

theorem accounts_nil (s : State) : Accounts s [] [] s := by
  exists []
  constructor
  · exact .nil
  · simp

theorem Accounts.append {given' out' : List Token} (first : Accounts s given out s')
    (later : Accounts s' given' out' s'') : Accounts s (given ++ given') (out ++ out') s'' := by
  obtain ⟨origin, came, perm⟩ := first
  obtain ⟨origin', came', perm'⟩ := later
  exists origin ++ origin'
  constructor
  · exact List.rel_append came came'
  · calc (origin ++ origin') ++ s''.held
        = origin ++ (origin' ++ s''.held) := List.append_assoc _ _ _
      List.Perm _ (origin ++ (s'.held ++ given')) := perm'.append_left origin
      _ = (origin ++ s'.held) ++ given' := (List.append_assoc _ _ _).symm
      List.Perm _ ((s.held ++ given) ++ given') := perm.append_right given'
      _ = s.held ++ (given ++ given') := List.append_assoc _ _ _

/-- Of a call only its function is changed. -/
theorem comesOutAs_takeFunction (paren : Option Paren) (waiting : List Token) :
    ∃ origin, List.Forall₂ ComesOutAs origin (takeFunction paren waiting).1 ∧
      (∀ t ∈ origin, t.kind = .function) ∧ waiting = origin ++ (takeFunction paren waiting).2 := by
  cases waiting with
  | nil => exact ⟨[], .nil, by simp, rfl⟩
  | cons f rest =>
    by_cases hk : f.kind = .function
    · exists [f]
      cases paren with
      | none => simp [takeFunction, hk, ComesOutAs]
      | some p => by_cases hc : p.isCall <;> simp [takeFunction, hk, hc, ComesOutAs]
    · exact ⟨[], by simp [takeFunction, hk], by simp, by simp [takeFunction, hk]⟩

/-- A token that is no parenthesis only changes what waits above the innermost one. -/
theorem accounts_level (ht : t.IsLevel) (fed : s.feed t = .ok (out, s')) :
    Accounts s (if t.IsMark then [] else [t]) out s' := by
  obtain ⟨same, _, perm⟩ := passes_feed ht fed
  have given : (if t.IsMark then [] else [t]) = if t.kind = .comma then [] else [t] := by
    simp [IsMark, ht.1, ht.2]
  have waited := s.held_eq s.parens
  have waits := s'.held_eq s.parens
  rw [same] at waits
  rw [given]
  generalize (State.mk s.fromParen s.parens).held = below at waited waits
  exists out
  constructor
  · exact comesOutAs_self out
  · calc out ++ s'.held
        = (out ++ s'.above) ++ below := by rw [waits, List.append_assoc]
      List.Perm _ ((s.above ++ if t.kind = .comma then [] else [t]) ++ below) :=
          perm.append_right below
      List.Perm _ (s.above ++ (below ++ if t.kind = .comma then [] else [t])) := by
          rw [List.append_assoc]
          exact List.perm_append_comm.append_left _
      _ = s.held ++ if t.kind = .comma then [] else [t] := by rw [waited, List.append_assoc]

/-- A token comes out or waits, unless it is a mark, and nothing else comes from it. -/
theorem accounts_feed (fed : s.feed t = .ok (out, s')) :
    Accounts s (if t.IsMark then [] else [t]) out s' := by
  by_cases left_kind : t.kind = .leftParen
  · cases (feed_leftParen s left_kind).symm.trans fed
    rw [if_pos (.inl left_kind)]
    exists []
    constructor
    · exact .nil
    · have opened : (s.filled.feedOpen t).held = s.held := held_leftParen left_kind _ _
      rw [opened, List.nil_append, List.append_nil]
  by_cases right_kind : t.kind = .rightParen
  · obtain ⟨p, below, front, rfl, rfl⟩ := (feed_rightParen_eq_ok right_kind).mp fed
    obtain ⟨origin, came, functions, split⟩ := comesOutAs_takeFunction s.parens.head? below
    have waited : (State.mk below s.parens.tail).held =
        origin ++ (State.mk (takeFunction s.parens.head? below).2 s.parens.tail).held := by
      conv_lhs => rw [split]
      apply held_append
      intro f hf hk
      rw [functions f hf] at hk
      cases hk
    rw [if_pos (.inr (.inl right_kind))]
    exists s.above ++ origin
    constructor
    · exact List.rel_append (comesOutAs_self _) came
    · rw [s.held_eq s.parens.tail, front, held_leftParen (kind_of_fromParen front), waited,
        List.append_nil, List.append_assoc]
  · exact accounts_level ⟨left_kind, right_kind⟩ fed

theorem accounts_feedAll {ts : List Token} (fed : s.feedAll ts = .ok (out, s')) :
    Accounts s (ts.filter fun t => ¬ t.IsMark) out s' := by
  induction ts generalizing s out with
  | nil =>
    cases fed
    exact accounts_nil _
  | cons t ts ih =>
    obtain ⟨first, mid, rest, fedFirst, fedRest, rfl⟩ := feedAll_cons_eq_ok.mp fed
    have both := (accounts_feed fedFirst).append (ih fedRest)
    by_cases mark : t.IsMark
    · simpa [mark] using both
    · simpa [mark] using both

/-- No operand waits. -/
def NoOperandWaits (s : State) : Prop :=
  s.AllWaiting fun t => t.isOperand = false

/-- An operand comes out at once, and nothing that comes out later is one. -/
theorem operands_feed (waits : s.NoOperandWaits) (fed : s.feed t = .ok (out, s')) :
    out.filter isOperand = [t].filter isOperand ∧ s'.NoOperandWaits := by
  by_cases operand : t.isOperand
  · cases (feed_operand s operand).symm.trans fed
    exact ⟨rfl, waits⟩
  · have other : t.isOperand = false := Bool.not_eq_true _ ▸ operand
    obtain ⟨others, waits⟩ := feed_members (p := fun t => t.isOperand = false) (fun _ _ h => h)
      waits (fun _ => other) fed
    constructor
    · rw [List.filter_cons_of_neg operand, List.filter_nil, List.filter_eq_nil_iff]
      intro u hu
      simp [others u hu]
    · exact waits

theorem operands_feedAll {ts : List Token} (waits : s.NoOperandWaits)
    (fed : s.feedAll ts = .ok (out, s')) :
    out.filter isOperand = ts.filter isOperand ∧ s'.NoOperandWaits := by
  induction ts generalizing s out with
  | nil =>
    cases fed
    exact ⟨rfl, waits⟩
  | cons t ts ih =>
    obtain ⟨first, mid, rest, fedFirst, fedRest, rfl⟩ := feedAll_cons_eq_ok.mp fed
    obtain ⟨here, waits⟩ := operands_feed waits fedFirst
    obtain ⟨later, waits⟩ := ih waits fedRest
    constructor
    · rw [List.filter_append, here, later, ← List.filter_append, List.singleton_append]
    · exact waits

end State

/-- **Nothing is lost and nothing is made up.** Of tokens that are accepted, well written or not,
each but the marks comes out once, as it is or as a function with the number of its arguments, and
the operands come out in the order in which they were given. -/
theorem conserved_of_accepted {tokens post : List Token} (accepted : ofTokens tokens = .ok post) :
    (∃ origin, origin.Perm (tokens.filter fun t => ¬ t.IsMark) ∧
      List.Forall₂ ComesOutAs origin post) ∧
      post.filter isOperand = tokens.filter isOperand := by
  obtain ⟨out, s, fed, closed, rfl⟩ := ofTokens_eq_ok_iff.mp accepted
  constructor
  · obtain ⟨origin, came, perm⟩ := State.accounts_feedAll fed
    rw [State.held_eq_waiting closed] at perm
    exists origin ++ s.waiting
    constructor
    · simpa [State.held, State.empty] using perm
    · exact List.rel_append came (comesOutAs_self _)
  · have empty : State.empty.NoOperandWaits := List.forall_mem_nil _
    obtain ⟨operands, waits⟩ := State.operands_feedAll empty fed
    have last : s.waiting.filter isOperand = [] := by
      rw [List.filter_eq_nil_iff]
      intro t ht
      simp [waits t ht (closed t ht)]
    rw [List.filter_append, operands, last, List.append_nil]

/-- Operators without operands, a function alone, a call that follows two names, and counts that
some tokens have already. -/
theorem conserved_of_accepted_malformed :
    ∃ tokens post, ofTokens tokens = .ok post ∧
      tokens = [⟨.operator, "*", 0, none, none⟩, ⟨.function, "sin", 1, none, some 5⟩,
        ⟨.function, "max", 4, none, none⟩, ⟨.leftParen, "(", 7, none, none⟩,
        ⟨.number, "1", 8, some (.integer 1), some 7⟩, ⟨.comma, ",", 9, none, none⟩,
        ⟨.variableName, "x", 10, none, none⟩, ⟨.unaryMinus, "u-", 11, none, some 2⟩,
        ⟨.rightParen, ")", 12, none, none⟩, ⟨.constant, "pi", 13, none, none⟩] ∧
      (∃ origin, origin.Perm (tokens.filter fun t => ¬ t.IsMark) ∧
        List.Forall₂ ComesOutAs origin post) ∧
      post.filter isOperand = [⟨.number, "1", 8, some (.integer 1), some 7⟩,
        ⟨.variableName, "x", 10, none, none⟩, ⟨.constant, "pi", 13, none, none⟩] := by
  have accepted : ofTokens
      [⟨.operator, "*", 0, none, none⟩, ⟨.function, "sin", 1, none, some 5⟩,
        ⟨.function, "max", 4, none, none⟩, ⟨.leftParen, "(", 7, none, none⟩,
        ⟨.number, "1", 8, some (.integer 1), some 7⟩, ⟨.comma, ",", 9, none, none⟩,
        ⟨.variableName, "x", 10, none, none⟩, ⟨.unaryMinus, "u-", 11, none, some 2⟩,
        ⟨.rightParen, ")", 12, none, none⟩, ⟨.constant, "pi", 13, none, none⟩] =
      .ok [⟨.number, "1", 8, some (.integer 1), some 7⟩, ⟨.variableName, "x", 10, none, none⟩,
        ⟨.unaryMinus, "u-", 11, none, some 2⟩, ⟨.function, "max", 4, none, some 2⟩,
        ⟨.constant, "pi", 13, none, none⟩, ⟨.function, "sin", 1, none, some 5⟩,
        ⟨.operator, "*", 0, none, none⟩] := by
    rfl
  obtain ⟨comes, operands⟩ := conserved_of_accepted accepted
  exact ⟨_, _, accepted, rfl, comes, operands⟩

end Reckoner.PostOrder
