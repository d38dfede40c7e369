import Reckoner.PostOrder

namespace Reckoner

namespace Token

/-- The token without the place where it stands. -/
def unplaced (t : Token) : Token :=
  { t with position := 0 }

@[simp] theorem kind_unplaced (t : Token) : t.unplaced.kind = t.kind := rfl

@[simp] theorem lexeme_unplaced (t : Token) : t.unplaced.lexeme = t.lexeme := rfl

@[simp] theorem appliedBefore_unplaced (t top : Token) :
    t.unplaced.appliedBefore top.unplaced = t.appliedBefore top := rfl

end Token

/-- The fault without the place where it is found. -/
def SyntaxFault.unplaced : SyntaxFault → SyntaxFault
  | invalidCharacter text _ c => .invalidCharacter text 0 c
  | strayComma _ => .strayComma 0
  | unmatchedClose _ => .unmatchedClose 0
  | unclosedOpen _ => .unclosedOpen 0

namespace PostOrder

namespace State

/-- The state with what waits in no place. -/
def unplaced (s : State) : State :=
  { s with waiting := s.waiting.map Token.unplaced }

/-- What feeding gives, without places. -/
def unplacedResult :
    Except SyntaxFault (List Token × State) → Except SyntaxFault (List Token × State)
  | .ok (out, s) => .ok (out.map Token.unplaced, s.unplaced)
  | .error fault => .error fault.unplaced

theorem above_unplaced (s : State) : s.unplaced.above = s.above.map Token.unplaced := by
  simp [above, unplaced, List.takeWhile_map, Function.comp_def]

theorem fromParen_unplaced (s : State) :
    s.unplaced.fromParen = s.fromParen.map Token.unplaced := by
  simp [fromParen, unplaced, List.dropWhile_map, Function.comp_def]

theorem noteContent_unplaced (s : State) (t : Token) :
    s.unplaced.noteContent t.unplaced = (s.noteContent t).unplaced := by
  by_cases h : t.kind = .comma ∨ t.kind = .rightParen <;> simp [noteContent, h, unplaced]

theorem takeFunction_unplaced (paren : Option Paren) (waiting : List Token) :
    takeFunction paren (waiting.map Token.unplaced) =
      ((takeFunction paren waiting).1.map Token.unplaced,
        (takeFunction paren waiting).2.map Token.unplaced) := by
  cases waiting with
  | nil => rfl
  | cons f rest =>
    by_cases hf : f.kind = .function
    · cases paren with
      | none => simp [takeFunction, hf]
      | some p => by_cases hc : p.isCall <;> simp [takeFunction, hf, hc, Token.unplaced]
    · simp [takeFunction, hf]

theorem feedOpen_unplaced (s : State) (t : Token) :
    s.unplaced.feedOpen t.unplaced = (s.feedOpen t).unplaced := by
  cases s with | mk waiting parens => cases waiting <;> rfl

theorem feedComma_unplaced (s : State) (t : Token) :
    s.unplaced.feedComma t.unplaced = unplacedResult (s.feedComma t) := by
  simp only [feedComma, fromParen_unplaced, above_unplaced]
  cases s.fromParen <;> rfl

theorem feedClose_unplaced (s : State) (t : Token) :
    s.unplaced.feedClose t.unplaced = unplacedResult (s.feedClose t) := by
  simp only [feedClose, fromParen_unplaced, above_unplaced]
  cases s.fromParen with
  | nil => rfl
  | cons p below =>
    simp only [List.map_cons, takeFunction_unplaced, ← List.map_append]
    rfl

theorem feed_unplaced (s : State) (t : Token) :
    s.unplaced.feed t.unplaced = unplacedResult (s.feed t) := by
  simp only [feed, noteContent_unplaced, Token.kind_unplaced]
  cases t.kind with
  | number | variableName | constant | function => rfl
  | operator | unaryMinus =>
    simp [feedOperator, unplacedResult, unplaced, List.takeWhile_map, List.dropWhile_map,
      Function.comp_def]
  | leftParen => simp only [feedOpen_unplaced, unplacedResult, List.map_nil]
  | comma => exact feedComma_unplaced _ t
  | rightParen => exact feedClose_unplaced _ t

theorem feedAll_unplaced (s : State) (ts : List Token) :
    s.unplaced.feedAll (ts.map Token.unplaced) = unplacedResult (s.feedAll ts) := by
  induction ts generalizing s with
  | nil => rfl
  | cons t ts ih =>
    simp only [List.map_cons, feedAll, feed_unplaced]
    cases s.feed t with
    | error fault => rfl
    | ok r =>
      simp only [unplacedResult, bind, Except.bind, ih]
      cases r.2.feedAll ts with
      | error fault => rfl
      | ok r' => simp only [pure, Except.pure, List.map_append]

theorem finish_unplaced (s : State) :
    s.unplaced.finish =
      (s.finish.map (List.map Token.unplaced)).mapError SyntaxFault.unplaced := by
  have found : s.unplaced.waiting.find? (fun t => t.kind = .leftParen) =
      (s.waiting.find? fun t => t.kind = .leftParen).map Token.unplaced :=
    List.find?_map
  simp only [finish, found]
  cases s.waiting.find? (fun t => t.kind = .leftParen) <;> rfl

end State

theorem ofTokens_unplaced (ts : List Token) :
    ofTokens (ts.map Token.unplaced) =
      ((ofTokens ts).map (List.map Token.unplaced)).mapError SyntaxFault.unplaced := by
  have fed : State.empty.feedAll (ts.map Token.unplaced) = _ := State.feedAll_unplaced .empty ts
  simp only [ofTokens, fed]
  cases State.empty.feedAll ts with
  | error fault => rfl
  | ok r =>
    simp only [State.unplacedResult, bind, Except.bind, State.finish_unplaced]
    cases r.2.finish with
    | error fault => rfl
    | ok out => exact congrArg Except.ok List.map_append.symm

/-- Tokens that differ from others only in their positions have a post-order if those have one. -/
theorem exists_ofTokens_of_unplaced {ts us post : List Token} (h : ofTokens us = .ok post)
    (same : ts.map Token.unplaced = us.map Token.unplaced) :
    ∃ out, ofTokens ts = .ok out ∧ out.map Token.unplaced = post.map Token.unplaced := by
  have hu := ofTokens_unplaced us
  rw [h, ← same, ofTokens_unplaced ts] at hu
  cases ht : ofTokens ts with
  | error fault =>
    rw [ht] at hu
    cases hu
  | ok out =>
    rw [ht] at hu
    exact ⟨out, rfl, Except.ok.inj hu⟩

end PostOrder

end Reckoner
