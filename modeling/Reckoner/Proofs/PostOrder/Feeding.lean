import Reckoner.PostOrder
import Reckoner.Proofs.Fault.Caught
import Reckoner.Proofs.Token.Strength

namespace Reckoner

namespace PostOrder

open Token

namespace Paren

@[simp] theorem fill_comp_fill : fill ∘ fill = fill := rfl

/-- The parenthesis of a call behind so many more of its arguments. -/
def holding (p : Paren) (count : Nat) : Paren :=
  ⟨p.isCall, p.commas + (count - 1), p.hasContent || count != 0⟩

/-- The parenthesis of a call, before any argument. -/
def ofCall : Paren := ⟨true, 0, false⟩

/-- A comma behind one argument leads to one more. -/
theorem holding_more (p : Paren) (count : Nat) :
    p.holding (count + 2) = p.fill.addComma.holding (count + 1) := by
  simp only [holding, fill, addComma, Paren.mk.injEq, true_and]
  exact ⟨by omega, by simp⟩

theorem argCount_holding (count : Nat) : (ofCall.holding count).argCount = count := by
  cases count <;> simp [ofCall, holding, argCount]

end Paren

namespace State

theorem feedAll_nil (s : State) : s.feedAll [] = .ok ([], s) := rfl

theorem feedAll_cons_of_ok {s s' s'' : State} {t : Token} {ts first rest : List Token}
    (h : s.feed t = .ok (first, s')) (hs : s'.feedAll ts = .ok (rest, s'')) :
    s.feedAll (t :: ts) = .ok (first ++ rest, s'') := by
  simp only [feedAll, h, hs, bind, Except.bind, pure, Except.pure]

/-- A list that is fed behind another one goes on from where that one ended. -/
theorem feedAll_append (s : State) (xs ys : List Token) :
    s.feedAll (xs ++ ys) = (do
      let (first, s) ← s.feedAll xs
      let (rest, s) ← s.feedAll ys
      return (first ++ rest, s)) := by
  induction xs generalizing s with
  | nil =>
    simp only [List.nil_append, feedAll, bind, Except.bind]
    cases s.feedAll ys <;> rfl
  | cons x xs ih =>
    simp only [List.cons_append, feedAll, ih, bind, Except.bind, pure, Except.pure]
    cases s.feed x with
    | error fault => rfl
    | ok r =>
      obtain ⟨out, s'⟩ := r
      dsimp only
      cases s'.feedAll xs with
      | error fault => rfl
      | ok r =>
        dsimp only
        cases r.2.feedAll ys with
        | error fault => rfl
        | ok r => simp only [List.append_assoc]

theorem feedAll_append_of_ok {s s' s'' : State} {xs ys first rest : List Token}
    (h : s.feedAll xs = .ok (first, s')) (hs : s'.feedAll ys = .ok (rest, s'')) :
    s.feedAll (xs ++ ys) = .ok (first ++ rest, s'') := by
  simp only [feedAll_append, h, hs, bind, Except.bind, pure, Except.pure]

/-- Feeding a list succeeds if its first token and then the others can be fed. -/
theorem feedAll_cons_eq_ok {s s'' : State} {t : Token} {ts out : List Token} :
    s.feedAll (t :: ts) = .ok (out, s'') ↔
      ∃ first s' rest, s.feed t = .ok (first, s') ∧ s'.feedAll ts = .ok (rest, s'') ∧
        out = first ++ rest := by
  constructor
  · intro h
    obtain ⟨⟨first, s'⟩, fed, h⟩ := bind_eq_ok_iff.mp h
    obtain ⟨⟨rest, last⟩, fedAll, h⟩ := bind_eq_ok_iff.mp h
    cases h
    exact ⟨first, s', rest, fed, fedAll, rfl⟩
  · rintro ⟨first, s', rest, fed, fedAll, rfl⟩
    exact feedAll_cons_of_ok fed fedAll

theorem feedAll_append_eq_ok {s s'' : State} {xs ys out : List Token} :
    s.feedAll (xs ++ ys) = .ok (out, s'') ↔
      ∃ first s' rest, s.feedAll xs = .ok (first, s') ∧ s'.feedAll ys = .ok (rest, s'') ∧
        out = first ++ rest := by
  rw [feedAll_append]
  constructor
  · intro h
    obtain ⟨⟨first, s'⟩, fed, h⟩ := bind_eq_ok_iff.mp h
    obtain ⟨⟨rest, last⟩, fedAll, h⟩ := bind_eq_ok_iff.mp h
    cases h
    exact ⟨first, s', rest, fed, fedAll, rfl⟩
  · rintro ⟨first, s', rest, fed, fedAll, rfl⟩
    simp only [fed, fedAll, bind, Except.bind, pure, Except.pure]

/-- The state with content in its innermost parenthesis. -/
def filled (s : State) : State :=
  { s with parens := s.parens.modifyHead Paren.fill }

/-- Behind what waits on top a tree may stand that binds as tight as `strength` or tighter. -/
def Admits (strength : Nat) (waiting : List Token) : Prop :=
  ∀ top ∈ waiting.head?, top.kind ≠ .function ∧
    (top.isOperator → top.IsConnective ∧ top.rightStrength ≤ strength)

theorem Admits.mono {k l : Nat} {waiting : List Token} (h : Admits k waiting) (hkl : k ≤ l) :
    Admits l waiting := by
  intro top htop
  obtain ⟨hf, hb⟩ := h top htop
  exact ⟨hf, fun ho => ⟨(hb ho).1, Nat.le_trans (hb ho).2 hkl⟩⟩

theorem admits_nil (strength : Nat) : Admits strength [] := by
  intro top htop
  cases htop

theorem admits_leftParen {p : Token} (hp : p.kind = .leftParen) (strength : Nat)
    (waiting : List Token) : Admits strength (p :: waiting) := by
  intro top htop
  cases htop
  simp [isOperator, Kind.isOperator, hp]

theorem admits_connective {t : Token} (ht : t.IsConnective) (waiting : List Token) :
    Admits t.rightStrength (t :: waiting) := by
  intro top htop
  cases htop
  refine ⟨?_, fun _ => ⟨ht, Nat.le_refl _⟩⟩
  intro hk
  have ho := ht.isOperator
  simp [isOperator, Kind.isOperator, hk] at ho

/-- Operators that wait at the right edge of a tree that binds as tight as `strength`. -/
def Edge (strength : Nat) (pending : List Token) : Prop :=
  ∀ t ∈ pending, t.isOperator ∧ strength ≤ t.precedence

theorem Edge.mono {k l : Nat} {pending : List Token} (h : Edge l pending) (hkl : k ≤ l) :
    Edge k pending :=
  fun t ht => ⟨(h t ht).1, Nat.le_trans hkl (h t ht).2⟩

theorem Edge.append_singleton {k : Nat} {pending : List Token} {t : Token} (h : Edge k pending)
    (ho : t.isOperator) (hk : k ≤ t.precedence) : Edge k (pending ++ [t]) := by
  intro u hu
  obtain hu | hu := List.mem_append.mp hu
  · exact h u hu
  · cases List.mem_singleton.mp hu
    exact ⟨ho, hk⟩

theorem Edge.kind_ne {k : Nat} {pending : List Token} (h : Edge k pending) :
    ∀ t ∈ pending, t.kind ≠ .leftParen := by
  intro t ht hk
  have ho := (h t ht).1
  simp [isOperator, Kind.isOperator, hk] at ho

section Pending

variable {pending : List Token} (closed : ∀ t ∈ pending, t.kind ≠ .leftParen)
include closed

theorem above_pending {p : Token} (hp : p.kind = .leftParen) (waiting : List Token)
    (parens : List Paren) : (State.mk (pending ++ p :: waiting) parens).above = pending := by
  have passes : ∀ t ∈ pending, (t.kind != .leftParen) = true :=
    fun t ht => bne_iff_ne.mpr (closed t ht)
  simp [State.above, List.takeWhile_append_of_pos passes, hp]

theorem fromParen_pending {p : Token} (hp : p.kind = .leftParen) (waiting : List Token)
    (parens : List Paren) :
    (State.mk (pending ++ p :: waiting) parens).fromParen = p :: waiting := by
  have passes : ∀ t ∈ pending, (t.kind != .leftParen) = true :=
    fun t ht => bne_iff_ne.mpr (closed t ht)
  simp [State.fromParen, List.dropWhile_append_of_pos passes, hp]

end Pending

/-- Only operators are applied before another one. -/
theorem kind_ne_of_appliedBefore {t top : Token} (h : t.appliedBefore top) :
    top.kind ≠ .leftParen := by
  intro hk
  simp [appliedBefore, isOperator, Kind.isOperator, hk] at h

theorem feed_operand (s : State) {t : Token} (ht : t.isOperand) :
    s.feed t = .ok ([t], s.filled) := by
  cases hk : t.kind <;> simp_all [isOperand, feed, noteContent, filled]

/-- An operator ends the left operand in front of it, and leaves what its right operand is part
of. -/
theorem feed_connective {t : Token} (ht : t.IsConnective) (pending waiting : List Token)
    (parens : List Paren) (hp : Edge t.leftStrength pending) (ha : Admits t.precedence waiting) :
    (State.mk (pending ++ waiting) parens).feed t =
      .ok (pending, ⟨t :: waiting, parens.modifyHead Paren.fill⟩) := by
  have applied : ∀ top ∈ pending, t.appliedBefore top := fun top htop =>
    appliedBefore_of_leftStrength_le (hp top htop).1 (hp top htop).2
  have waits : ∀ top ∈ waiting.head?, ¬ t.appliedBefore top := fun top htop =>
    not_appliedBefore ht (ha top htop).2
  have htake : waiting.takeWhile t.appliedBefore = [] := by
    cases waiting with
    | nil => rfl
    | cons top rest => exact List.takeWhile_cons_of_neg (waits top rfl)
  have hdrop : waiting.dropWhile t.appliedBefore = waiting := by
    cases waiting with
    | nil => rfl
    | cons top rest => exact List.dropWhile_cons_of_neg (waits top rfl)
  have ho := ht.isOperator
  cases hk : t.kind <;>
    simp_all [isOperator, Kind.isOperator, feed, noteContent, feedOperator,
      List.takeWhile_append_of_pos applied, List.dropWhile_append_of_pos applied]

theorem feed_function (s : State) {t : Token} (hk : t.kind = .function) :
    s.feed t = .ok ([], s.filled.wait t) := by
  simp [feed, noteContent, filled, hk]

theorem feed_leftParen (s : State) {t : Token} (hk : t.kind = .leftParen) :
    s.feed t = .ok ([], s.filled.feedOpen t) := by
  simp [feed, noteContent, filled, hk]

/-- All that is pending in a parenthesis comes out at a comma. -/
theorem feed_comma {t p : Token} {pending : List Token} (hk : t.kind = .comma)
    (hp : p.kind = .leftParen) (closed : ∀ t ∈ pending, t.kind ≠ .leftParen)
    (waiting : List Token) (parens : List Paren) :
    (State.mk (pending ++ p :: waiting) parens).feed t =
      .ok (pending, ⟨p :: waiting, parens.modifyHead Paren.addComma⟩) := by
  simp [feed, noteContent, feedComma, hk, above_pending closed hp, fromParen_pending closed hp]

theorem feed_rightParen {t p : Token} {pending : List Token} (hk : t.kind = .rightParen)
    (hp : p.kind = .leftParen) (closed : ∀ t ∈ pending, t.kind ≠ .leftParen)
    (waiting : List Token) (parens : List Paren) :
    (State.mk (pending ++ p :: waiting) parens).feed t =
      .ok (pending ++ (takeFunction parens.head? waiting).1,
        ⟨(takeFunction parens.head? waiting).2, parens.tail⟩) := by
  simp [feed, noteContent, feedClose, hk, above_pending closed hp, fromParen_pending closed hp]

theorem takeFunction_of_admits {k : Nat} {waiting : List Token} (h : Admits k waiting)
    (paren : Option Paren) : takeFunction paren waiting = ([], waiting) := by
  cases waiting with
  | nil => rfl
  | cons top rest => simp [takeFunction, (h top rfl).1]

/-- A call gives out its function with the number of its arguments when it is closed. -/
theorem takeFunction_call {function : Token} (hk : function.kind = .function) {paren : Paren}
    (hc : paren.isCall) (waiting : List Token) :
    takeFunction (some paren) (function :: waiting) =
      ([{ function with argCount := some (paren.argCount : Int) }], waiting) := by
  simp [takeFunction, hk, hc]

/-- The end comes well if no parenthesis is open, and then all that waits comes out. -/
theorem finish_eq_ok_iff {s : State} {rest : List Token} :
    s.finish = .ok rest ↔ (∀ t ∈ s.waiting, t.kind ≠ .leftParen) ∧ rest = s.waiting := by
  unfold finish
  cases found : s.waiting.find? fun t => t.kind = .leftParen with
  | some p =>
    have waits := List.mem_of_find?_eq_some found
    have open_ := List.find?_some found
    exact ⟨nofun, fun h => absurd (of_decide_eq_true open_) (h.1 p waits)⟩
  | none =>
    have closed := List.find?_eq_none.mp found
    simp only [decide_eq_true_eq] at closed
    exact ⟨fun h => ⟨closed, (Except.ok.inj h).symm⟩, fun h => h.2 ▸ rfl⟩

end State

/-- Tokens have an order if they can be fed and no parenthesis is open then. What still waits comes
last. -/
theorem ofTokens_eq_ok_iff {ts post : List Token} :
    ofTokens ts = .ok post ↔
      ∃ out s, State.empty.feedAll ts = .ok (out, s) ∧ (∀ t ∈ s.waiting, t.kind ≠ .leftParen) ∧
        post = out ++ s.waiting := by
  constructor
  · intro h
    obtain ⟨⟨out, s⟩, fed, h⟩ := bind_eq_ok_iff.mp h
    obtain ⟨rest, last, h⟩ := bind_eq_ok_iff.mp h
    obtain ⟨closed, rfl⟩ := State.finish_eq_ok_iff.mp last
    exact ⟨out, s, fed, closed, (Except.ok.inj h).symm⟩
  · rintro ⟨out, s, fed, closed, rfl⟩
    refine bind_eq_ok_iff.mpr ⟨(out, s), fed, ?_⟩
    exact bind_eq_ok_iff.mpr ⟨s.waiting, State.finish_eq_ok_iff.mpr ⟨closed, rfl⟩, rfl⟩

end PostOrder

end Reckoner
