import Reckoner.Proofs.PostOrder.Feeding

/-!
What feeding does with the tokens of a written tree. Fed to a state in which nothing waits that
binds as tight as the tree, they come out in post-order, except that operators at the right edge of
the tree still wait; `yields_written` says this for any state and any place in an expression. At
the end of all tokens nothing is missing any more, which is `ofTokens_written`.
-/
namespace Reckoner

namespace PostOrder

open Token

namespace State

/-- Fed wherever something may stand that binds as tight as `strength`, the tokens give out `post`,
except that operators at the right edge still wait on top of what waited before. -/
def Yields (strength : Nat) (tokens post : List Token) : Prop :=
  ∀ waiting parens, Admits strength waiting →
    ∃ out pending, (State.mk waiting parens).feedAll tokens =
        .ok (out, ⟨pending ++ waiting, parens.modifyHead Paren.fill⟩) ∧
      out ++ pending = post ∧ Edge strength pending

/-- Fed behind the parenthesis of a call, the tokens are `count` arguments that give out `post`. -/
def YieldsArguments (count : Nat) (tokens post : List Token) : Prop :=
  ∀ open_ waiting paren parens, Token.kind open_ = .leftParen →
    ∃ out pending, (State.mk (open_ :: waiting) (paren :: parens)).feedAll tokens =
        .ok (out, ⟨pending ++ open_ :: waiting, paren.holding count :: parens⟩) ∧
      out ++ pending = post ∧ Edge 0 pending

theorem yields_operand (k : Nat) {t : Token} (ht : t.isOperand) : Yields k [t] [t] := by
  intro waiting parens _
  refine ⟨[t], [], ?_, rfl, by simp [Edge]⟩
  exact feedAll_cons_of_ok (feed_operand _ ht) (feedAll_nil _)

theorem yields_negation {k : Nat} {sign : Token} {tokens post : List Token} (hs : sign.isSign)
    (hk : k ≤ sign.precedence) (h : Yields sign.precedence tokens post) :
    Yields k (sign :: tokens) (post ++ [sign]) := by
  intro waiting parens ha
  have hc : sign.IsConnective := Or.inl hs
  have first := feed_connective hc [] waiting parens (by simp [Edge]) (ha.mono hk)
  obtain ⟨out, pending, rest, hpost, hedge⟩ :=
    h (sign :: waiting) (parens.modifyHead Paren.fill)
      (rightStrength_of_isSign hs ▸ admits_connective hc waiting)
  refine ⟨out, pending ++ [sign], ?_, by simp [← hpost],
    (hedge.mono hk).append_singleton hc.isOperator hk⟩
  simpa using feedAll_cons_of_ok first rest

theorem yields_operation {k : Nat} {operator : Token} {before behind left right : List Token}
    (hb : operator.isBinary) (hk : k ≤ operator.precedence)
    (hl : Yields operator.leftStrength before left)
    (hr : Yields operator.rightStrength behind right) :
    Yields k (before ++ operator :: behind) (left ++ (right ++ [operator])) := by
  intro waiting parens ha
  have hc : operator.IsConnective := Or.inr hb
  obtain ⟨outL, pendingL, fedL, hpostL, hedgeL⟩ :=
    hl waiting parens (ha.mono (Nat.le_trans hk (precedence_le_leftStrength _)))
  have fed := feed_connective hc pendingL waiting (parens.modifyHead Paren.fill) hedgeL
    (ha.mono hk)
  obtain ⟨outR, pendingR, fedR, hpostR, hedgeR⟩ :=
    hr (operator :: waiting) ((parens.modifyHead Paren.fill).modifyHead Paren.fill)
      (admits_connective hc waiting)
  refine ⟨outL ++ (pendingL ++ outR), pendingR ++ [operator], ?_, ?_, ?_⟩
  · simpa using feedAll_append_of_ok fedL (feedAll_cons_of_ok fed fedR)
  · simp [← hpostL, ← hpostR]
  · exact (hedgeR.mono (Nat.le_trans hk (precedence_le_rightStrength _))).append_singleton
      hc.isOperator hk

theorem yields_group {k : Nat} {left right : Token} {tokens post : List Token}
    (hl : left.kind = .leftParen) (hr : right.kind = .rightParen) (h : Yields 0 tokens post) :
    Yields k (left :: (tokens ++ [right])) post := by
  intro waiting parens ha
  have opened := feed_leftParen ⟨waiting, parens⟩ hl
  obtain ⟨out, pending, fed, hpost, hedge⟩ :=
    h (left :: waiting) _ (admits_leftParen hl 0 waiting)
  have closed := feed_rightParen hr hl hedge.kind_ne waiting
  refine ⟨out ++ pending, [], ?_, by simpa using hpost, by simp [Edge]⟩
  rw [feedAll_cons_of_ok opened (feedAll_append_of_ok fed
    (feedAll_cons_of_ok (closed _) (feedAll_nil _)))]
  simp [takeFunction_of_admits ha, State.filled]

theorem yields_call {k count : Nat} {function left right : Token} {tokens post : List Token}
    (hf : function.kind = .function) (hl : left.kind = .leftParen)
    (hr : right.kind = .rightParen) (h : YieldsArguments count tokens post) :
    Yields k (function :: left :: (tokens ++ [right]))
      (post ++ [{ function with argCount := some (count : Int) }]) := by
  intro waiting parens ha
  have opened : (State.mk (function :: waiting) (parens.modifyHead Paren.fill)).feed left =
      .ok ([], ⟨left :: function :: waiting, Paren.ofCall :: parens.modifyHead Paren.fill⟩) := by
    simp [feed_leftParen _ hl, feedOpen, filled, hf, Paren.ofCall]
  obtain ⟨out, pending, fed, hpost, hedge⟩ :=
    h left (function :: waiting) Paren.ofCall (parens.modifyHead Paren.fill) hl
  have closed := feed_rightParen hr hl hedge.kind_ne (function :: waiting)
    (Paren.ofCall.holding count :: parens.modifyHead Paren.fill)
  rw [List.head?_cons, takeFunction_call hf rfl, Paren.argCount_holding, List.tail_cons] at closed
  refine ⟨out ++ (pending ++ [{ function with argCount := some (count : Int) }]), [], ?_,
    by simp [← hpost], by simp [Edge]⟩
  have fedCall := feedAll_cons_of_ok opened
    (feedAll_append_of_ok fed (feedAll_cons_of_ok closed (feedAll_nil _)))
  simpa using feedAll_cons_of_ok (feed_function ⟨waiting, parens⟩ hf) fedCall

theorem yieldsArguments_none : YieldsArguments 0 [] [] := by
  intro p waiting paren parens hp
  refine ⟨[], [], ?_, rfl, by simp [Edge]⟩
  simp [Paren.holding, feedAll_nil]

theorem yieldsArguments_one {tokens post : List Token} (h : Yields 0 tokens post) :
    YieldsArguments 1 tokens post := by
  intro p waiting paren parens hp
  obtain ⟨out, pending, fed, hpost, hedge⟩ :=
    h (p :: waiting) (paren :: parens) (admits_leftParen hp 0 waiting)
  refine ⟨out, pending, ?_, hpost, hedge⟩
  simpa [Paren.holding, Paren.fill] using fed

theorem yieldsArguments_more {count : Nat} {comma : Token} {tokens behind post rest : List Token}
    (h : Yields 0 tokens post) (hc : comma.kind = .comma)
    (hrest : YieldsArguments (count + 1) behind rest) :
    YieldsArguments (count + 2) (tokens ++ comma :: behind) (post ++ rest) := by
  intro p waiting paren parens hp
  obtain ⟨out, pending, fed, hpost, hedge⟩ :=
    h (p :: waiting) (paren :: parens) (admits_leftParen hp 0 waiting)
  have fedComma := feed_comma hc hp hedge.kind_ne waiting (paren.fill :: parens)
  obtain ⟨out', pending', fed', hpost', hedge'⟩ := hrest p waiting paren.fill.addComma parens hp
  refine ⟨out ++ (pending ++ out'), pending', ?_, by simp [← hpost, ← hpost'], hedge'⟩
  rw [feedAll_append_of_ok fed (feedAll_cons_of_ok fedComma fed'), Paren.holding_more]

mutual

/-- A written tree gives out its tokens in post-order but for the operators at its right edge, which
wait on top of what waited before. -/
theorem yields_written : ∀ {k : Nat} {tree : Tree} {tokens : List Token},
    Written k tree tokens → Yields k tokens tree.postOrder
  | _, _, _, .operand ht => yields_operand _ ht
  | _, _, _, .negation hs hk written => yields_negation hs hk (yields_written written)
  | _, _, _, .operation hb hk left right =>
    yields_operation hb hk (yields_written left) (yields_written right)
  | _, _, _, .call hf hl hr written => yields_call hf hl hr (yieldsArguments_written written)
  | _, _, _, .group hl hr written => yields_group hl hr (yields_written written)

theorem yieldsArguments_written : ∀ {trees : List Tree} {tokens : List Token},
    WrittenList trees tokens → YieldsArguments trees.length tokens (Tree.postOrderList trees)
  | _, _, .none => yieldsArguments_none
  | _, _, .one written => by
    simpa [Tree.postOrderList] using yieldsArguments_one (yields_written written)
  | _, _, .more written hc rest => by
    simpa [Tree.postOrderList] using
      yieldsArguments_more (yields_written written) hc (yieldsArguments_written rest)

end

end State

/-- Of tokens that write a tree down, parentheses and commas vanish, operands stay in place, and
every operator and function comes right behind what it is applied to. -/
theorem ofTokens_written {tree : Tree} {tokens : List Token} (h : Written 0 tree tokens) :
    ofTokens tokens = .ok tree.postOrder := by
  obtain ⟨out, pending, fed, hpost, hedge⟩ :=
    State.yields_written h [] [] (State.admits_nil 0)
  have closed : pending.find? (fun t => t.kind = .leftParen) = none :=
    List.find?_eq_none.mpr fun t ht => by simpa using hedge.kind_ne t ht
  simp [ofTokens, State.empty, fed, State.finish, closed, hpost, bind, Except.bind, pure,
    Except.pure]

theorem not_isMark_of_isOperand {t : Token} (h : t.isOperand) : ¬ IsMark t := by
  cases hk : t.kind <;> simp_all [isOperand, IsMark]

theorem not_isMark_of_isConnective {t : Token} (h : t.IsConnective) : ¬ IsMark t := by
  have ho := h.isOperator
  cases hk : t.kind <;> simp_all [Token.isOperator, Kind.isOperator, IsMark]

mutual

theorem not_isMark_of_mem_postOrder : ∀ {k : Nat} {tree : Tree} {tokens : List Token},
    Written k tree tokens → ∀ t ∈ tree.postOrder, ¬ IsMark t
  | _, _, _, .operand ht, t, h => by
    cases List.mem_singleton.mp h
    exact not_isMark_of_isOperand ht
  | _, _, _, .negation hs _ written, t, h => by
    obtain h | h := List.mem_append.mp h
    · exact not_isMark_of_mem_postOrder written t h
    · cases List.mem_singleton.mp h
      exact not_isMark_of_isConnective (Or.inl hs)
  | _, _, _, .operation hb _ left right, t, h => by
    obtain h | h := List.mem_append.mp h
    · exact not_isMark_of_mem_postOrder left t h
    · obtain h | h := List.mem_append.mp h
      · exact not_isMark_of_mem_postOrder right t h
      · cases List.mem_singleton.mp h
        exact not_isMark_of_isConnective (Or.inr hb)
  | _, _, _, .call hf _ _ written, t, h => by
    obtain h | h := List.mem_append.mp h
    · exact not_isMark_of_mem_postOrderList written t h
    · cases List.mem_singleton.mp h
      simp [IsMark, hf]
  | _, _, _, .group _ _ written, t, h => not_isMark_of_mem_postOrder written t h

theorem not_isMark_of_mem_postOrderList : ∀ {trees : List Tree} {tokens : List Token},
    WrittenList trees tokens → ∀ t ∈ Tree.postOrderList trees, ¬ IsMark t
  | _, _, .none, _, h => absurd h List.not_mem_nil
  | _, _, .one written, t, h => by
    obtain h | h := List.mem_append.mp h
    · exact not_isMark_of_mem_postOrder written t h
    · exact absurd h List.not_mem_nil
  | _, _, .more written _ rest, t, h => by
    obtain h | h := List.mem_append.mp h
    · exact not_isMark_of_mem_postOrder written t h
    · exact not_isMark_of_mem_postOrderList rest t h

end

/-- **Finding the post-order inverts the grammar.** Tokens that write a tree down, with parentheses
wherever the tree needs them and anywhere else, have the post-order of the tree, and no parenthesis
or comma is left in it. -/
theorem ofTokens_inverts_written {tree : Tree} {tokens : List Token} (h : Written 0 tree tokens) :
    ofTokens tokens = .ok tree.postOrder ∧ ∀ t ∈ tree.postOrder, ¬ IsMark t :=
  ⟨ofTokens_written h, not_isMark_of_mem_postOrder h⟩

/-- The tokens of `-a ^ max(b, (c - d))`. -/
theorem ofTokens_inverts_written_power :
    ofTokens
        [⟨.unaryMinus, "u-", 0, none, none⟩, ⟨.variableName, "a", 1, none, none⟩,
          ⟨.operator, "^", 3, none, none⟩, ⟨.function, "max", 5, none, none⟩,
          ⟨.leftParen, "(", 8, none, none⟩, ⟨.variableName, "b", 9, none, none⟩,
          ⟨.comma, ",", 10, none, none⟩, ⟨.leftParen, "(", 12, none, none⟩,
          ⟨.variableName, "c", 13, none, none⟩, ⟨.operator, "-", 15, none, none⟩,
          ⟨.variableName, "d", 17, none, none⟩, ⟨.rightParen, ")", 18, none, none⟩,
          ⟨.rightParen, ")", 19, none, none⟩] =
      .ok [⟨.variableName, "a", 1, none, none⟩, ⟨.unaryMinus, "u-", 0, none, none⟩,
        ⟨.variableName, "b", 9, none, none⟩, ⟨.variableName, "c", 13, none, none⟩,
        ⟨.variableName, "d", 17, none, none⟩, ⟨.operator, "-", 15, none, none⟩,
        ⟨.function, "max", 5, none, some 2⟩, ⟨.operator, "^", 3, none, none⟩] := by
  have base : Written 5 (.negation ⟨.unaryMinus, "u-", 0, none, none⟩
      (.operand ⟨.variableName, "a", 1, none, none⟩)) _ :=
    .negation (by decide) (by decide) (.operand rfl)
  have difference : Written 0 (.operation ⟨.operator, "-", 15, none, none⟩
      (.operand ⟨.variableName, "c", 13, none, none⟩)
      (.operand ⟨.variableName, "d", 17, none, none⟩)) _ :=
    .operation (by decide) (by decide) (.operand rfl) (.operand rfl)
  have last : Written 0 _ (⟨.leftParen, "(", 12, none, none⟩ ::
      (_ ++ [⟨.rightParen, ")", 18, none, none⟩])) :=
    .group rfl rfl difference
  have arguments : WrittenList _ ([⟨.variableName, "b", 9, none, none⟩] ++
      ⟨.comma, ",", 10, none, none⟩ :: _) :=
    .more (.operand rfl) rfl (.one last)
  have exponent : Written 4 _ (⟨.function, "max", 5, none, none⟩ ::
      ⟨.leftParen, "(", 8, none, none⟩ :: (_ ++ [⟨.rightParen, ")", 19, none, none⟩])) :=
    .call rfl rfl rfl arguments
  have power : Written 0 (.operation ⟨.operator, "^", 3, none, none⟩ _ _) _ :=
    .operation (by decide) (by decide) base exponent
  exact (ofTokens_inverts_written power).1

end PostOrder

end Reckoner
