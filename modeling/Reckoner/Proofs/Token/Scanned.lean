import Mathlib.Data.List.Chain
import Reckoner.Proofs.Fault.Caught
import Reckoner.Proofs.Token.Layout
import Reckoner.Proofs.Token.Lexemes
import Reckoner.Proofs.Token.Nesting

namespace Reckoner.Token

variable {lexicon : Lexicon} {text cs : List Char} {previous : Option Kind} {position : Nat}
  {tokens : List Token}

theorem kind_ofLexeme (kind : Kind) (position : Nat) (cs : List Char) :
    (ofLexeme kind position cs).kind = kind := by
  cases kind <;> rfl

theorem position_ofLexeme (kind : Kind) (position : Nat) (cs : List Char) :
    (ofLexeme kind position cs).position = position := by
  cases kind <;> rfl

theorem argCount_ofLexeme (kind : Kind) (position : Nat) (cs : List Char) :
    (ofLexeme kind position cs).argCount = none := by
  cases kind <;> rfl

theorem forall_mem_impliedProduct {p : Token → Prop} {kind : Kind}
    (h : p ⟨.operator, "*", position, none, none⟩) :
    ∀ t ∈ impliedProduct previous kind position, p t := by
  unfold impliedProduct
  split
  · exact List.forall_mem_singleton.mpr h
  · exact List.forall_mem_nil p

/-- What the sign of an implied product has in common with all lexemes, all tokens have. -/
theorem forall_mem_of_scanFrom {p : Token → Prop}
    (implied : ∀ position : Nat, p ⟨.operator, "*", position, none, none⟩)
    (read : ∀ {previous c cs kind tail}, lexeme? lexicon previous c cs = some (kind, tail) →
      ∀ position, p (ofLexeme kind position (c :: tail)))
    (h : scanFrom lexicon text previous position cs = .ok tokens) : ∀ t ∈ tokens, p t := by
  have scanned := scanned_of_scanFrom h
  clear h
  induction scanned with
  | nil => exact List.forall_mem_nil p
  | blank _ _ ih => exact ih
  | lexeme found _ ih =>
    rename_i position _ _ _ _ _ _
    rw [List.forall_mem_append, List.forall_mem_cons]
    exact ⟨forall_mem_impliedProduct (implied position), read found position, ih⟩

/-- How many arguments a call has is not known before the tokens are put in order. -/
theorem argCount_of_scan (h : scan lexicon text = .ok tokens) :
    ∀ t ∈ tokens, t.argCount = none :=
  forall_mem_of_scanFrom (fun _ => rfl) (fun _ _ => argCount_ofLexeme _ _ _) h

theorem kindOf_ne_unaryMinus (name : String) : lexicon.kindOf name ≠ .unaryMinus := by
  obtain h | h | h := kindOf_eq lexicon name <;> simp [h]

/-- A minus right behind an operand is no sign. -/
theorem not_endsOperand_of_sign {c : Char} {tail : List Char}
    (h : lexeme? lexicon previous c cs = some (.unaryMinus, tail)) :
    ¬ previous.any Kind.endsOperand := by
  intro ends
  generalize hk : Kind.unaryMinus = kind at h
  cases lexeme_of_lexeme? h with
  | minus =>
    rw [Kind.minusKind_of_endsOperand ends] at hk
    cases hk
  | name => exact kindOf_ne_unaryMinus _ hk.symm
  | number | fraction | leftParen | rightParen | comma | operator => cases hk

/-- A lexeme that starts an operand right behind another one is a number, unless a product is
implied in between. -/
theorem eq_number_of_lexeme? {c : Char} {tail : List Char} {kind : Kind}
    (h : lexeme? lexicon previous c cs = some (kind, tail)) (ends : previous.any Kind.endsOperand)
    (joined : ¬ kind.startsFactor) (starts : kind.startsOperand) : kind = .number := by
  cases kind with
  | number => rfl
  | unaryMinus => exact absurd ends (not_endsOperand_of_sign h)
  | variableName | constant | function | leftParen => exact absurd rfl joined
  | operator | rightParen | comma => cases starts

theorem Scanned.isChain (h : Scanned lexicon previous position cs tokens) :
    tokens.IsChain Apart ∧ (previous.any Kind.endsOperand →
      ∀ t ∈ tokens.head?, t.kind.startsOperand → t.kind = .number) := by
  induction h with
  | nil =>
    refine ⟨.nil, fun _ t ht => ?_⟩
    cases ht
  | blank _ _ ih => exact ih
  | lexeme found _ ih =>
    rename_i previous position c tail behind kind rest _
    obtain ⟨apart, front⟩ := ih
    have hk := kind_ofLexeme kind position (c :: tail)
    have lexeme_apart : (ofLexeme kind position (c :: tail) :: rest).IsChain Apart := by
      refine List.isChain_cons.mpr ⟨fun next hnext ends => ?_, apart⟩
      rw [hk] at ends
      exact front ends next hnext
    by_cases joined : (previous.any Kind.endsOperand && kind.startsFactor) = true
    · rw [impliedProduct, if_pos joined]
      refine ⟨List.isChain_cons_cons.mpr ⟨fun ends => ?_, lexeme_apart⟩, fun _ t ht starts => ?_⟩
      · cases ends
      · cases ht
        cases starts
    · rw [impliedProduct, if_neg joined]
      refine ⟨lexeme_apart, fun ends t ht starts => ?_⟩
      cases ht
      rw [hk] at starts ⊢
      exact eq_number_of_lexeme? found ends (by simpa [ends] using joined) starts

/-- No token of a text but a number starts an operand right behind another one. -/
theorem isChain_of_scan (h : scan lexicon text = .ok tokens) : tokens.IsChain Apart :=
  (scanned_of_scanFrom h).isChain.1

/-- Two tokens of which the first is an operator or stands in front of the second. -/
def InOrder (t u : Token) : Prop :=
  t.kind = .operator ∨ t.position < u.position

theorem Scanned.pairwise (h : Scanned lexicon previous position cs tokens) :
    tokens.Pairwise InOrder ∧ ∀ t ∈ tokens, (position : Int) ≤ t.position := by
  induction h with
  | nil => exact ⟨.nil, List.forall_mem_nil _⟩
  | blank _ _ ih =>
    obtain ⟨ordered, behind⟩ := ih
    refine ⟨ordered, ?_⟩
    intro t ht
    have := behind t ht
    omega
  | lexeme _ _ ih =>
    rename_i previous position c tail _ kind rest _ _
    obtain ⟨ordered, behind⟩ := ih
    rw [List.length_cons] at behind
    have here := position_ofLexeme kind position (c :: tail)
    have lexeme_first : ∀ t ∈ rest, InOrder (ofLexeme kind position (c :: tail)) t := by
      intro t ht
      have := behind t ht
      exact Or.inr (by omega)
    have implied : ∀ t ∈ impliedProduct previous kind position,
        t.kind = .operator ∧ t.position = position :=
      forall_mem_impliedProduct ⟨rfl, rfl⟩
    constructor
    · refine List.pairwise_append.mpr ⟨?_, List.pairwise_cons.mpr ⟨lexeme_first, ordered⟩,
        fun t ht _ _ => Or.inl (implied t ht).1⟩
      exact List.Pairwise.imp_of_mem (fun ht _ _ => Or.inl (implied _ ht).1)
        (List.pairwise_of_forall fun _ _ => trivial)
    · rw [List.forall_mem_append, List.forall_mem_cons]
      refine ⟨fun t ht => Int.le_of_eq (implied t ht).2.symm, Int.le_of_eq here.symm, ?_⟩
      intro t ht
      have := behind t ht
      omega

/-- Every token of a text stands behind those in front of it, except that an implied product stands
where its second factor does. -/
theorem pairwise_of_scan (h : scan lexicon text = .ok tokens) : tokens.Pairwise InOrder :=
  (scanned_of_scanFrom h).pairwise.1

end Reckoner.Token
