import Reckoner.Proofs.PostOrder.Depth
import Reckoner.Proofs.Token.Scanned

/-!
What comes of the tokens of any text that are accepted, well written or not: each comes out exactly
once, parentheses and commas left out, and every function with the number of arguments that stand
between the parentheses behind it.

Open parentheses are counted apart from what waits. `Passes` says that both stay in step: behind
tokens that nest, all from the innermost open parenthesis on waits as before, and that parenthesis
has counted the commas directly among the tokens.
-/
namespace Reckoner.PostOrder

open Token

namespace Paren

/-- The parenthesis behind tokens that stand in it. -/
def reading (p : Paren) (ts : List Token) : Paren :=
  ⟨p.isCall, p.commas + directCommas 0 ts, p.hasContent || ts.any fun t => t.kind ≠ .comma⟩

theorem reading_nil (p : Paren) : p.reading [] = p := by
  simp [reading, directCommas]

theorem reading_append (p : Paren) {ts : List Token} (h : Token.Balanced ts) (us : List Token) :
    p.reading (ts ++ us) = (p.reading ts).reading us := by
  simp only [reading, directCommas_append h, List.any_append, Bool.or_assoc, Nat.add_assoc]

theorem reading_comma (p : Paren) {t : Token} (hk : t.kind = .comma) :
    p.reading [t] = p.addComma := by
  simp [reading, addComma, directCommas, hk]

theorem reading_content (p : Paren) {t : Token} (hk : t.kind ≠ .comma) :
    p.reading [t] = p.fill := by
  simp [reading, fill, directCommas, hk]

/-- Of a group only the fact that it is there counts. -/
theorem reading_group (p : Paren) {left right : Token} {inner : List Token}
    (left_kind : left.kind = .leftParen) (right_kind : right.kind = .rightParen)
    (inside : Nested false inner) : p.reading (left :: (inner ++ [right])) = p.fill := by
  have commas : directCommas 0 (left :: (inner ++ [right])) = 0 :=
    inside.directCommas_group left_kind right_kind
  rw [reading, commas]
  simp [fill, left_kind]

theorem argCount_reading (inner : List Token) :
    (ofCall.reading inner).argCount = argumentsBetween inner := by
  have content : (inner.any fun t => t.kind ≠ .comma) = true ↔ ¬ ∀ t ∈ inner, t.kind = .comma := by
    simp
  simp only [argCount, reading, ofCall, argumentsBetween, Bool.false_or, content, Nat.zero_add,
    ite_not]

end Paren

namespace State

variable {s s' s'' : State} {ts out : List Token}

/-- What tokens that nest lead to. `given` comes out of them, now or later, and nothing else
happens to what waits. -/
structure Passes (s : State) (ts given out : List Token) (s' : State) : Prop where
  fromParen : s'.fromParen = s.fromParen
  parens : s'.parens = s.parens.modifyHead fun p => p.reading ts
  perm : (out ++ s'.above).Perm (s.above ++ given)

theorem passes_nil (s : State) : Passes s [] [] [] s := by
  refine ⟨rfl, ?_, by simp⟩
  have same : (fun p : Paren => p.reading []) = id := funext Paren.reading_nil
  rw [same, List.modifyHead_id, id]

theorem Passes.append {us given given' out' : List Token} (h : Passes s ts given out s')
    (balanced : Token.Balanced ts) (h' : Passes s' us given' out' s'') :
    Passes s (ts ++ us) (given ++ given') (out ++ out') s'' where
  fromParen := h'.fromParen.trans h.fromParen
  parens := by
    rw [h'.parens, h.parens, List.modifyHead_modifyHead]
    exact congrArg (List.modifyHead · s.parens)
      (funext fun p => (p.reading_append balanced us).symm)
  perm := by
    have later : (out ++ (out' ++ s''.above)).Perm (out ++ (s'.above ++ given')) :=
      h'.perm.append_left out
    have first : ((out ++ s'.above) ++ given').Perm ((s.above ++ given) ++ given') :=
      h.perm.append_right given'
    simp only [List.append_assoc] at later first ⊢
    exact later.trans first

/-- No function waits on top. -/
def NoFunctionOnTop (s : State) : Prop :=
  ∀ f ∈ s.waiting.head?, f.kind ≠ .function

/-- An operator that sends others out comes in their place. -/
theorem perm_feedOperator {t : Token} (ht : t.IsLevel) (s : State) :
    ((s.feedOperator t).1 ++ (s.feedOperator t).2.above).Perm (s.above ++ [t]) := by
  have sent := above_eq_takeWhile (p := t.appliedBefore) (fun _ => kind_ne_of_appliedBefore)
    s.waiting s.parens
  calc (s.feedOperator t).1 ++ (s.feedOperator t).2.above
      = (s.feedOperator t).1 ++
          (t :: (State.mk (s.waiting.dropWhile t.appliedBefore) s.parens).above) :=
        congrArg _ (above_wait ht _ _)
    List.Perm _ ((s.feedOperator t).1 ++
          ((State.mk (s.waiting.dropWhile t.appliedBefore) s.parens).above ++ [t])) :=
        (List.perm_append_singleton t _).symm.append_left _
    _ = s.above ++ [t] := by rw [← List.append_assoc]; exact congrArg (· ++ [t]) sent.symm

/-- A token that is no parenthesis comes out, unless it is a comma. -/
theorem passes_feed {t : Token} (ht : t.IsLevel) (fed : s.feed t = .ok (out, s')) :
    Passes s [t] (if t.kind = .comma then [] else [t]) out s' := by
  have below := fromParen_feed ht fed
  have content (hk : t.kind ≠ .comma) : (fun p : Paren => p.reading [t]) = Paren.fill :=
    funext fun p => p.reading_content hk
  obtain ⟨operand, rfl, rfl⟩ | ⟨function_kind, rfl, rfl⟩ | ⟨operator, rfl, rfl⟩ |
      ⟨comma, p, rest, hp, _, rfl, rfl⟩ := feed_level ht fed
  · have hk : t.kind ≠ .comma := fun hk => by simp [isOperand, hk] at operand
    rw [if_neg hk]
    refine ⟨below, by rw [content hk]; rfl, ?_⟩
    exact List.perm_append_comm
  · have hk : t.kind ≠ .comma := fun hk => by simp [function_kind] at hk
    rw [if_neg hk]
    refine ⟨below, by rw [content hk]; rfl, ?_⟩
    have waits : (s.filled.wait t).above = t :: s.above := above_wait ht _ _
    rw [waits]
    exact (List.perm_append_singleton t s.above).symm
  · have hk : t.kind ≠ .comma := fun hk => by simp [isOperator, Kind.isOperator, hk] at operator
    rw [if_neg hk]
    exact ⟨below, by rw [content hk]; rfl, perm_feedOperator ht s.filled⟩
  · have counts : (fun p : Paren => p.reading [t]) = Paren.addComma :=
      funext fun p => p.reading_comma comma
    rw [if_pos comma]
    refine ⟨below, by rw [counts], ?_⟩
    rw [above_leftParen hp]

/-- Behind a token that no parenthesis may follow a function may wait on top. -/
theorem noFunctionOnTop_feed {t : Token} (ht : t.IsLevel) (fed : s.feed t = .ok (out, s'))
    (shut : (t.kind.endsOperand || t.kind == .function) = false) : s'.NoFunctionOnTop := by
  intro f hf
  obtain ⟨operand, _, _⟩ | ⟨function_kind, _, _⟩ | ⟨operator, _, rfl⟩ |
      ⟨_, p, rest, hp, _, _, rfl⟩ := feed_level ht fed
  · cases hk : t.kind <;> simp [isOperand, Kind.endsOperand, hk] at operand shut
  · simp [function_kind] at shut
  · cases hf
    intro hk
    simp [isOperator, Kind.isOperator, hk] at operator
  · cases hf
    simp [hp]

/-- The parenthesis that opens behind what waits. -/
def opened (s : State) : Paren :=
  ⟨s.waiting.head?.any fun f => f.kind = .function, 0, false⟩

/-- Between parentheses all comes out, and behind them a function that waits in front of them. -/
theorem feedAll_parens {left right : Token} {inner : List Token}
    (left_kind : left.kind = .leftParen) (right_kind : right.kind = .rightParen)
    (inside : ∀ {s s' out}, NoFunctionOnTop s → s.feedAll inner = .ok (out, s') →
      Passes s inner (counted inner) out s')
    (fed : s.feedAll (left :: (inner ++ right :: ts)) = .ok (out, s')) :
    ∃ first rest,
      out = first ++ (takeFunction (some (s.opened.reading inner)) s.waiting).1 ++ rest ∧
      first.Perm (counted inner) ∧
      (State.mk (takeFunction (some (s.opened.reading inner)) s.waiting).2
        s.filled.parens).feedAll ts = .ok (rest, s') := by
  obtain ⟨_, _, _, fedLeft, fedTail, rfl⟩ := feedAll_cons_eq_ok.mp fed
  cases (feed_leftParen s left_kind).symm.trans fedLeft
  obtain ⟨first, mid, _, fedInner, fedClosed, rfl⟩ := feedAll_append_eq_ok.mp fedTail
  have top : (s.filled.feedOpen left).NoFunctionOnTop := by
    intro f hf
    cases hf
    simp [left_kind]
  obtain ⟨below, parens, perm⟩ := inside top fedInner
  obtain ⟨_, _, rest, fedRight, fedRest, rfl⟩ := feedAll_cons_eq_ok.mp fedClosed
  obtain ⟨p, waits, front, rfl, rfl⟩ := (feed_rightParen_eq_ok right_kind).mp fedRight
  have bottom : (s.filled.feedOpen left).fromParen = left :: s.waiting :=
    fromParen_leftParen left_kind _ _
  have empty : (s.filled.feedOpen left).above = [] := above_leftParen left_kind _ _
  rw [below, bottom] at front
  cases front
  rw [empty] at perm
  rw [parens] at fedRest ⊢
  refine ⟨first ++ mid.above, rest, ?_, perm, fedRest⟩
  simp only [List.nil_append, List.append_assoc]
  rfl

theorem takeFunction_of_noFunctionOnTop (h : s.NoFunctionOnTop) (paren : Option Paren) :
    takeFunction paren s.waiting = ([], s.waiting) := by
  cases front : s.waiting with
  | nil => rfl
  | cons f rest =>
    have hf : f.kind ≠ .function := h f (by simp [front])
    simp [takeFunction, hf]

/-- A group in front of which no function waits gives out what is in it. -/
theorem passes_group {left right : Token} {inner first : List Token}
    (left_kind : left.kind = .leftParen) (right_kind : right.kind = .rightParen)
    (inside : Nested false inner) (perm : first.Perm (counted inner)) :
    Passes s (left :: (inner ++ [right])) (counted inner) first s.filled where
  fromParen := rfl
  parens := by
    have counts : (fun p : Paren => p.reading (left :: (inner ++ [right]))) = Paren.fill :=
      funext fun p => p.reading_group left_kind right_kind inside
    rw [counts]
    rfl
  perm := (perm.append_right _).trans List.perm_append_comm

/-- A call gives out its arguments and then the function with their number. -/
theorem passes_call {f left right : Token} {inner first : List Token}
    (function_kind : f.kind = .function) (left_kind : left.kind = .leftParen)
    (right_kind : right.kind = .rightParen) (inside : Nested false inner)
    (perm : first.Perm (counted inner)) (count : Option Int) :
    Passes s (f :: left :: (inner ++ [right])) ({ f with argCount := count } :: counted inner)
      (first ++ [{ f with argCount := count }]) s.filled where
  fromParen := rfl
  parens := by
    have level := isLevel_of_function function_kind
    have counts : (fun p : Paren => p.reading (f :: left :: (inner ++ [right]))) = Paren.fill := by
      funext p
      calc p.reading ([f] ++ left :: (inner ++ [right]))
          = (p.reading [f]).reading (left :: (inner ++ [right])) :=
            p.reading_append level.balanced _
        _ = (p.reading [f]).fill := Paren.reading_group _ left_kind right_kind inside
        _ = p.fill := by rw [p.reading_content (by simp [function_kind])]; rfl
    rw [counts]
    rfl
  perm := by
    have given := (perm.append_right [{ f with argCount := count }]).trans
      (List.perm_append_singleton { f with argCount := count } (counted inner))
    exact (given.append_right _).trans List.perm_append_comm

theorem opened_wait {f : Token} (hf : f.kind = .function) (s : State) :
    (s.wait f).opened = Paren.ofCall := by
  simp [opened, wait, hf, Paren.ofCall]

/-- Tokens that nest pass, unless they start with a group behind a function that waits. -/
theorem passes_nested {closed : Bool} (nested : Nested closed ts)
    (uncounted : ∀ t ∈ ts, t.argCount = none) (front : closed = false → s.NoFunctionOnTop)
    (fed : s.feedAll ts = .ok (out, s')) : Passes s ts (counted ts) out s' := by
  induction nested generalizing s s' out with
  | nil =>
    cases fed
    exact passes_nil s
  | single level later ih =>
    obtain ⟨alone, uncounted⟩ := List.forall_mem_cons.mp uncounted
    obtain ⟨first, mid, rest, fedFirst, fedRest, rfl⟩ := feedAll_cons_eq_ok.mp fed
    have behind := ih uncounted (noFunctionOnTop_feed level fedFirst) fedRest
    rw [counted_single level alone later]
    exact (passes_feed level fedFirst).append level.balanced behind
  | @group left right inner ts left_kind right_kind inside later ih_inside ih =>
    obtain ⟨_, uncounted⟩ := List.forall_mem_cons.mp uncounted
    obtain ⟨uncounted_inner, uncounted⟩ := List.forall_mem_append.mp uncounted
    obtain ⟨first, rest, rfl, perm, fedRest⟩ := feedAll_parens left_kind right_kind
      (fun top => ih_inside uncounted_inner fun _ => top) fed
    rw [takeFunction_of_noFunctionOnTop (front rfl)] at fedRest ⊢
    have behind : Passes s.filled ts (counted ts) rest s' :=
      ih (List.forall_mem_cons.mp uncounted).2 nofun fedRest
    have alone : Nested false (left :: (inner ++ [right])) :=
      .group left_kind right_kind inside .nil
    have both := (passes_group left_kind right_kind inside perm).append alone.balanced behind
    rw [inside.countedAlone.group left_kind right_kind]
    simpa using both
  | @call closed f left right inner ts function_kind left_kind right_kind inside later ih_inside
      ih =>
    have level := isLevel_of_function function_kind
    obtain ⟨_, uncounted⟩ := List.forall_mem_cons.mp uncounted
    obtain ⟨_, uncounted⟩ := List.forall_mem_cons.mp uncounted
    obtain ⟨uncounted_inner, uncounted⟩ := List.forall_mem_append.mp uncounted
    obtain ⟨_, mid, _, fedFunction, fedCall, rfl⟩ := feedAll_cons_eq_ok.mp fed
    cases (feed_function s function_kind).symm.trans fedFunction
    obtain ⟨first, rest, rfl, perm, fedRest⟩ := feedAll_parens left_kind right_kind
      (fun top => ih_inside uncounted_inner fun _ => top) fedCall
    rw [opened_wait function_kind] at fedRest ⊢
    have taken : takeFunction (some (Paren.ofCall.reading inner)) (s.filled.wait f).waiting =
        ([{ f with argCount := some (argumentsBetween inner : Int) }], s.waiting) := by
      rw [← Paren.argCount_reading]
      exact takeFunction_call function_kind rfl s.waiting
    rw [taken] at fedRest ⊢
    have closed : State.mk s.waiting (s.filled.wait f).filled.parens = s.filled := by
      simp [filled, wait]
    rw [closed] at fedRest
    have behind : Passes s.filled ts (counted ts) rest s' :=
      ih (List.forall_mem_cons.mp uncounted).2 nofun fedRest
    have alone : Nested false (f :: left :: (inner ++ [right])) :=
      .call function_kind left_kind right_kind inside .nil
    have both := (passes_call function_kind left_kind right_kind inside perm
      (some (argumentsBetween inner : Int))).append alone.balanced behind
    rw [counted_of_function function_kind, inside.countedAlone.group left_kind right_kind,
      writtenCount_call left_kind right_kind inside.balanced]
    simpa using both

end State

variable {lexicon : Lexicon} {text : List Char} {tokens post : List Token}

/-- Of the tokens of a text that are accepted each comes out once, a function with the number of
arguments that its call is written with. -/
theorem perm_counted (scanned : scan lexicon text = .ok tokens)
    (accepted : ofTokens tokens = .ok post) : post.Perm (counted tokens) := by
  have nested : Nested false tokens := nested_of_balanced tokens (balanced_of_ofTokens accepted)
    (isChain_of_scan scanned) nofun
  obtain ⟨out, s, fed, closed, rfl⟩ := ofTokens_eq_ok_iff.mp accepted
  have front : State.empty.NoFunctionOnTop := by
    intro f hf
    cases hf
  have passes := State.passes_nested nested (argCount_of_scan scanned) (fun _ => front) fed
  have above : s.above = s.waiting := by
    rw [State.above, List.takeWhile_eq_self_iff]
    exact fun t ht => bne_iff_ne.mpr (closed t ht)
  rw [← above]
  exact passes.perm

/-- A function of the text comes out at its place, and nothing else does. -/
theorem functionsAt_post (scanned : scan lexicon text = .ok tokens)
    (accepted : ofTokens tokens = .ok post) {before rest : List Token} {f : Token}
    (split : tokens = before ++ f :: rest) (function_kind : f.kind = .function) :
    functionsAt f.position post = [{ f with argCount := writtenCount rest }] := by
  have ordered := pairwise_of_scan scanned
  rw [split, List.pairwise_append, List.pairwise_cons] at ordered
  obtain ⟨_, ⟨ordered_rest, _⟩, ordered_before⟩ := ordered
  have counts : functionsAt f.position (counted tokens) =
      [{ f with argCount := writtenCount rest }] := by
    rw [split]
    refine functionsAt_counted function_kind (fun t ht hk => ?_) fun t ht _ => ?_
    · obtain operator | less := ordered_before t ht f List.mem_cons_self
      · cases hk.symm.trans operator
      · omega
    · obtain operator | less := ordered_rest t ht
      · cases function_kind.symm.trans operator
      · omega
  have perm : (functionsAt f.position post).Perm (functionsAt f.position (counted tokens)) :=
    (perm_counted scanned accepted).filter _
  rw [counts] at perm
  exact List.perm_singleton.mp perm

/-- **Every call keeps its own count.** Of the tokens of a text that are accepted, well written or
not, each comes out exactly once but for parentheses and commas, and each function at its place. A
function with no parenthesis behind it comes out without a number of arguments; one with a
parenthesis behind it has a partner to that parenthesis, and comes out with the number of arguments
that stand between the two. -/
theorem functionsAt_of_accepted (scanned : scan lexicon text = .ok tokens)
    (accepted : ofTokens tokens = .ok post) :
    post.Perm (counted tokens) ∧
      ∀ before f rest, tokens = before ++ f :: rest → f.kind = .function →
        ((∀ t ∈ rest.head?, t.kind ≠ .leftParen) →
          functionsAt f.position post = [{ f with argCount := none }]) ∧
        ∀ left inside, rest = left :: inside → left.kind = .leftParen →
          ∃ inner right behind, inside = inner ++ right :: behind ∧ right.kind = .rightParen ∧
            Token.Balanced inner ∧ functionsAt f.position post =
              [{ f with argCount := some (argumentsBetween inner : Int) }] := by
  refine ⟨perm_counted scanned accepted, fun before f rest split function_kind => ?_⟩
  have post_at := functionsAt_post scanned accepted split function_kind
  constructor
  · intro alone
    rw [post_at, writtenCount_eq_none alone]
  · intro left inside hrest left_kind
    have balanced := balanced_of_ofTokens accepted
    rw [split, hrest, List.append_cons] at balanced
    obtain ⟨right, behind, hinside, right_kind, inner_balanced⟩ :=
      balanced.exists_partner left_kind
    refine ⟨enclosed 0 inside, right, behind, hinside, right_kind, inner_balanced, ?_⟩
    rw [post_at, hrest, writtenCount, if_pos left_kind]

/-- The text writes a call behind an empty argument, a call with nothing but a comma and a function
alone. -/
theorem functionsAt_of_accepted_mixed :
    ∃ tokens post, scan Lexicon.builtin "max(,(a,b))sin(,)cos".toList = .ok tokens ∧
      ofTokens tokens = .ok post ∧ post.Perm (counted tokens) ∧
      (∃ inner right behind, tokens.drop 2 = inner ++ right :: behind ∧
        right.kind = .rightParen ∧ Token.Balanced inner ∧
        functionsAt 0 post = [⟨.function, "max", 0, none, some (argumentsBetween inner : Int)⟩]) ∧
      functionsAt 0 post = [⟨.function, "max", 0, none, some 2⟩] ∧
      functionsAt 11 post = [⟨.function, "sin", 11, none, some 0⟩] ∧
      functionsAt 17 post = [⟨.function, "cos", 17, none, none⟩] := by
  have scanned : scan Lexicon.builtin "max(,(a,b))sin(,)cos".toList =
      .ok [⟨.function, "max", 0, none, none⟩, ⟨.leftParen, "(", 3, none, none⟩,
        ⟨.comma, ",", 4, none, none⟩, ⟨.leftParen, "(", 5, none, none⟩,
        ⟨.variableName, "a", 6, none, none⟩, ⟨.comma, ",", 7, none, none⟩,
        ⟨.variableName, "b", 8, none, none⟩, ⟨.rightParen, ")", 9, none, none⟩,
        ⟨.rightParen, ")", 10, none, none⟩, ⟨.operator, "*", 11, none, none⟩,
        ⟨.function, "sin", 11, none, none⟩, ⟨.leftParen, "(", 14, none, none⟩,
        ⟨.comma, ",", 15, none, none⟩, ⟨.rightParen, ")", 16, none, none⟩,
        ⟨.operator, "*", 17, none, none⟩, ⟨.function, "cos", 17, none, none⟩] := by
    decide +kernel
  have accepted : ofTokens
      [⟨.function, "max", 0, none, none⟩, ⟨.leftParen, "(", 3, none, none⟩,
        ⟨.comma, ",", 4, none, none⟩, ⟨.leftParen, "(", 5, none, none⟩,
        ⟨.variableName, "a", 6, none, none⟩, ⟨.comma, ",", 7, none, none⟩,
        ⟨.variableName, "b", 8, none, none⟩, ⟨.rightParen, ")", 9, none, none⟩,
        ⟨.rightParen, ")", 10, none, none⟩, ⟨.operator, "*", 11, none, none⟩,
        ⟨.function, "sin", 11, none, none⟩, ⟨.leftParen, "(", 14, none, none⟩,
        ⟨.comma, ",", 15, none, none⟩, ⟨.rightParen, ")", 16, none, none⟩,
        ⟨.operator, "*", 17, none, none⟩, ⟨.function, "cos", 17, none, none⟩] =
      .ok [⟨.variableName, "a", 6, none, none⟩, ⟨.variableName, "b", 8, none, none⟩,
        ⟨.function, "max", 0, none, some 2⟩, ⟨.function, "sin", 11, none, some 0⟩,
        ⟨.operator, "*", 11, none, none⟩, ⟨.function, "cos", 17, none, none⟩,
        ⟨.operator, "*", 17, none, none⟩] := by
    decide +kernel
  obtain ⟨perm, calls⟩ := functionsAt_of_accepted scanned accepted
  refine ⟨_, _, scanned, accepted, perm, (calls [] _ _ rfl rfl).2 _ _ rfl rfl, ?_, ?_, ?_⟩
  · decide
  · decide
  · exact (calls [_, _, _, _, _, _, _, _, _, _, _, _, _, _, _] _ [] rfl rfl).1 nofun

end Reckoner.PostOrder
