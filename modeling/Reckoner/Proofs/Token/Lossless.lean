import Reckoner.Token.Tree
import Reckoner.Proofs.Token.Lexemes
import Reckoner.Proofs.Token.Scanned

namespace Reckoner.Token

/-- In front of `behind` the token is a sign that the text does not show: it stands where the next
token does. -/
def isImplied (t : Token) (behind : List Token) : Bool :=
  t.kind = .operator && t.lexeme = "*" && behind.head?.any fun next => t.position = next.position

/-- The tokens that the text shows. -/
def shown : List Token → List Token
  | [] => []
  | t :: behind => if isImplied t behind then shown behind else t :: shown behind

/-- The tokens are factors of a product when they stand side by side. -/
def AreFactors (left right : Token) : Prop :=
  left.kind ∈ [.number, .variableName, .constant, .rightParen] ∧
    right.kind ∈ [.variableName, .constant, .function, .leftParen]

instance (left right : Token) : Decidable (AreFactors left right) :=
  inferInstanceAs (Decidable (_ ∧ _))

/-- The tokens with a sign between all factors that stand side by side. -/
def joined : List Token → List Token
  | t :: next :: rest =>
    if AreFactors t next then
      t :: ⟨.operator, "*", next.position, none, none⟩ :: joined (next :: rest)
    else t :: joined (next :: rest)
  | [t] => [t]
  | [] => []

/-- The lexeme is as long as it can be, given the text behind it. -/
structure Complete (t : Token) (behind : List Char) : Prop where
  name (kind : t.kind ∈ [.function, .constant, .variableName]) :
    ∀ c ∈ behind.head?, ¬ Text.isLetter c ∧ ¬ c.isDigit
  digits (kind : t.kind = .number) : ∀ c ∈ behind.head?, ¬ c.isDigit
  point (kind : t.kind = .number) : behind.head? = some '.' → '.' ∈ t.spelling

/-- Where the spelling of the token ends. -/
def stop (t : Token) : Int :=
  t.position + t.spelling.length

/-- From `position` on the text consists of the tokens and white space. -/
inductive Laid : Nat → List Char → List Token → Prop where
  | nil {position : Nat} : Laid position [] []
  | blank {position : Nat} {c : Char} {cs : List Char} {tokens : List Token}
      (blank : Text.isBlank c) (rest : Laid (position + 1) cs tokens) :
      Laid position (c :: cs) tokens
  | token {position : Nat} {cs behind : List Char} {t : Token} {tokens : List Token}
      (here : t.position = position) (spelled : cs = t.spelling ++ behind)
      (nonempty : t.spelling ≠ []) (complete : Complete t behind)
      (rest : Laid (position + t.spelling.length) behind tokens) : Laid position cs (t :: tokens)

section Lexemes

variable {lexicon : Lexicon} {previous : Option Kind} {c : Char} {cs tail rest : List Char}
  {kind : Kind}

theorem spelling_ofLexeme (h : Lexeme lexicon previous c cs kind tail) (position : Nat) :
    (ofLexeme kind position (c :: tail)).spelling = c :: tail := by
  cases h with
  | name =>
    obtain hk | hk | hk := kindOf_eq lexicon (String.ofList (c :: cs.takeWhile isNameChar)) <;>
      rw [hk] <;> exact String.toList_ofList
  | minus =>
    obtain hk | hk := minusKind_eq previous <;> rw [hk]
    · rfl
    · exact String.toList_ofList
  | number | fraction | leftParen | rightParen | comma | operator => exact String.toList_ofList

theorem complete_number {position : Nat} (digits : ∀ d ∈ rest.head?, ¬ d.isDigit)
    (point : rest.head? = some '.' → '.' ∈ c :: tail) :
    Complete (ofLexeme .number position (c :: tail)) rest where
  name := nofun
  digits _ := digits
  point _ h := by
    rw [show (ofLexeme .number position (c :: tail)).spelling = c :: tail from
      String.toList_ofList]
    exact point h

/-- Tokens of one character could not be longer. -/
theorem complete_symbol (h : kind ∉ [.number, .function, .constant, .variableName])
    (position : Nat) (cs : List Char) : Complete (ofLexeme kind position cs) rest := by
  rw [← kind_ofLexeme kind position cs, List.mem_cons, not_or] at h
  obtain ⟨no_number, no_name⟩ := h
  exact ⟨fun kind => absurd kind no_name, fun kind => absurd kind no_number,
    fun kind => absurd kind no_number⟩

/-- A lexeme is read to its end. -/
theorem complete_ofLexeme (h : Lexeme lexicon previous c cs kind tail) (hcs : cs = tail ++ rest)
    (position : Nat) : Complete (ofLexeme kind position (c :: tail)) rest := by
  cases h with
  | number =>
    obtain ⟨whole, behind, split, _, ends, kinds⟩ := numeralTail_cases cs
    obtain rfl : rest = behind := List.append_cancel_left (hcs.symm.trans split)
    apply complete_number ends
    intro point
    obtain ⟨_, no_point⟩ | ⟨fraction, htail, _⟩ := kinds
    · exact absurd point no_point
    · rw [htail]
      exact List.mem_cons_of_mem _ (List.mem_append_right _ List.mem_cons_self)
  | fraction =>
    obtain rfl : rest = cs.dropWhile Char.isDigit :=
      List.append_cancel_left (hcs.symm.trans List.takeWhile_append_dropWhile.symm)
    exact complete_number not_of_mem_head?_dropWhile fun _ => List.mem_cons_self
  | name =>
    obtain rfl : rest = cs.dropWhile isNameChar :=
      List.append_cancel_left (hcs.symm.trans List.takeWhile_append_dropWhile.symm)
    have ends : ∀ d ∈ (cs.dropWhile isNameChar).head?, ¬ Text.isLetter d ∧ ¬ d.isDigit := by
      intro d hd
      have := not_of_mem_head?_dropWhile d hd
      rwa [isNameChar, Bool.or_eq_true, not_or] at this
    constructor <;> rw [kind_ofLexeme]
    · exact fun _ => ends
    · exact fun _ d hd => (ends d hd).2
    · obtain hk | hk | hk := kindOf_eq lexicon (String.ofList (c :: cs.takeWhile isNameChar)) <;>
        rw [hk] <;> intro number <;> cases number
  | minus =>
    obtain hk | hk := minusKind_eq previous <;> rw [hk] <;>
      exact complete_symbol (by decide) position _
  | leftParen | rightParen | comma | operator => exact complete_symbol (by decide) position _

end Lexemes

section Scanning

variable {lexicon : Lexicon} {cs : List Char} {previous : Option Kind} {position : Nat}
  {tokens : List Token}

theorem isImplied_sign {t : Token} (h : t.position = position) (rest : List Token) :
    isImplied ⟨.operator, "*", position, none, none⟩ (t :: rest) := by
  simp [isImplied, h]

/-- In front of its second factor the sign of an implied product is not shown. -/
theorem shown_impliedProduct {t : Token} (h : t.position = position) (kind : Kind)
    (rest : List Token) :
    shown (impliedProduct previous kind position ++ t :: rest) = shown (t :: rest) := by
  unfold impliedProduct
  split
  · rw [List.singleton_append, shown, if_pos (isImplied_sign h rest)]
  · rfl

/-- A token in front of all others is shown. -/
theorem shown_cons {t : Token} {rest : List Token} (h : ∀ u ∈ rest, t.position < u.position) :
    shown (t :: rest) = t :: shown rest := by
  have not_implied : ¬ isImplied t rest := by
    intro implied
    rw [isImplied, Bool.and_eq_true, Option.any_eq_true_iff_get] at implied
    obtain ⟨_, some, same⟩ := implied
    have before := h _ (List.mem_of_mem_head? (Option.get_mem some))
    rw [decide_eq_true_iff] at same
    omega
  rw [shown, if_neg not_implied]

/-- What a lexeme adds to the tokens that the text shows. -/
theorem shown_lexeme {kind : Kind} {c : Char} {tail : List Char} {rest : List Token}
    (later : Scanned lexicon (some kind) (position + (c :: tail).length) cs rest) :
    shown (impliedProduct previous kind position ++ ofLexeme kind position (c :: tail) :: rest) =
      ofLexeme kind position (c :: tail) :: shown rest := by
  have here := position_ofLexeme kind position (c :: tail)
  rw [shown_impliedProduct here, shown_cons]
  intro u hu
  have := later.pairwise.2 u hu
  rw [List.length_cons] at this
  omega

theorem Scanned.laid (h : Scanned lexicon previous position cs tokens) :
    Laid position cs (shown tokens) := by
  induction h with
  | nil => exact .nil
  | blank blank _ ih => exact .blank blank ih
  | lexeme found rest ih =>
    rename_i previous position c tail behind kind tokens
    have lexeme := lexeme_of_lexeme? found
    have spelled := spelling_ofLexeme lexeme position
    rw [shown_lexeme rest]
    refine .token (position_ofLexeme kind position (c :: tail)) ?_ ?_
      (complete_ofLexeme lexeme rfl position) ?_ <;> rw [spelled]
    · rfl
    · exact List.cons_ne_nil c tail
    · exact ih

theorem areFactors_iff {t next : Token} :
    AreFactors t next ↔ (t.kind.endsOperand && next.kind.startsFactor) = true := by
  rw [AreFactors, Bool.and_eq_true]
  exact and_congr (by cases t.kind <;> decide) (by cases next.kind <;> decide)

theorem impliedProduct_of_areFactors (t next : Token) (h : next.position = position) :
    impliedProduct (some t.kind) next.kind position =
      if AreFactors t next then [⟨.operator, "*", next.position, none, none⟩] else [] := by
  rw [impliedProduct, h]
  exact if_congr areFactors_iff.symm rfl rfl

/-- The signs that are not shown stand where two factors stand side by side, and nowhere else. Since
a sign belongs to two tokens, the last token in front is part of the statement. -/
theorem Scanned.eq_joined (h : Scanned lexicon previous position cs tokens) (front : Option Token)
    (hfront : previous = front.map Token.kind) :
    front.toList ++ tokens = joined (front.toList ++ shown tokens) := by
  induction h generalizing front with
  | nil => cases front <;> rfl
  | blank _ _ ih => exact ih front hfront
  | lexeme _ later ih =>
    rename_i previous position c tail behind kind rest _
    rw [shown_lexeme later]
    have here := position_ofLexeme kind position (c :: tail)
    have kinds := kind_ofLexeme kind position (c :: tail)
    generalize ofLexeme kind position (c :: tail) = lexeme at here kinds ⊢
    have joined_rest : lexeme :: rest = joined (lexeme :: shown rest) :=
      ih (some lexeme) (congrArg some kinds.symm)
    subst hfront kinds
    -- only behind another token can there be a sign in front of the lexeme
    cases front with
    | none => exact joined_rest
    | some t =>
      change t :: (impliedProduct (some t.kind) lexeme.kind position ++ lexeme :: rest) =
        joined (t :: lexeme :: shown rest)
      rw [joined, impliedProduct_of_areFactors t lexeme here, ← joined_rest]
      split <;> rfl

end Scanning

section Covering

variable {position : Nat} {cs : List Char} {tokens : List Token}

theorem Laid.ordered (h : Laid position cs tokens) :
    (tokens.Pairwise fun t next => t.stop ≤ next.position) ∧
      ∀ t ∈ tokens, (position : Int) ≤ t.position := by
  induction h with
  | nil => exact ⟨.nil, List.forall_mem_nil _⟩
  | blank _ _ ih =>
    obtain ⟨apart, behind⟩ := ih
    refine ⟨apart, ?_⟩
    intro t ht
    have := behind t ht
    omega
  | token here _ _ _ _ ih =>
    obtain ⟨apart, behind⟩ := ih
    rw [List.pairwise_cons, List.forall_mem_cons]
    refine ⟨⟨?_, apart⟩, Int.le_of_eq here.symm, ?_⟩
    · intro next hnext
      have := behind next hnext
      rw [stop]
      omega
    · intro next hnext
      have := behind next hnext
      omega

theorem Laid.spelled (h : Laid position cs tokens) :
    ∀ t ∈ tokens, ∃ before behind, cs = before ++ t.spelling ++ behind ∧
      t.position = (position + before.length : Nat) ∧ t.spelling ≠ [] ∧ Complete t behind := by
  induction h with
  | nil => exact List.forall_mem_nil _
  | blank blank rest ih =>
    rename_i position c cs tokens
    intro t ht
    obtain ⟨before, behind, rfl, here, nonempty, complete⟩ := ih t ht
    refine ⟨c :: before, behind, rfl, ?_, nonempty, complete⟩
    rw [here, List.length_cons]
    omega
  | token here spelled nonempty complete rest ih =>
    rename_i position cs behind t tokens
    rw [List.forall_mem_cons]
    refine ⟨⟨[], behind, spelled, here, nonempty, complete⟩, ?_⟩
    intro next hnext
    obtain ⟨before, behind, rfl, there, nonempty, complete⟩ := ih next hnext
    refine ⟨t.spelling ++ before, behind, ?_, ?_, nonempty, complete⟩
    · simp only [spelled, List.append_assoc]
    · rw [there, List.length_append, Nat.add_assoc]

theorem Laid.blank_or_covered (h : Laid position cs tokens) {before behind : List Char} {c : Char}
    (hcs : cs = before ++ c :: behind) :
    Text.isBlank c ∨ ∃ t ∈ tokens, t.position ≤ (position + before.length : Nat) ∧
      (position + before.length : Nat) < t.stop := by
  induction h generalizing before with
  | nil => cases before <;> cases hcs
  | blank blank rest ih =>
    cases before with
    | nil =>
      cases hcs
      exact Or.inl blank
    | cons d before =>
      cases hcs
      rw [List.length_cons, Nat.add_comm before.length, ← Nat.add_assoc]
      exact ih rfl
  | token here spelled _ _ rest ih =>
    rename_i position cs inside t tokens _ _
    -- the character is one of the token's own, or it stands behind the token
    by_cases inside_first : before.length < t.spelling.length
    · exact Or.inr ⟨t, List.mem_cons_self, by omega, by rw [stop]; omega⟩
    · rw [hcs] at spelled
      obtain ⟨more, rfl⟩ : t.spelling <+: before :=
        List.prefix_of_prefix_length_le ⟨inside, spelled.symm⟩ ⟨c :: behind, rfl⟩ (by omega)
      rw [List.append_assoc] at spelled
      rw [List.length_append, ← Nat.add_assoc]
      exact (ih (List.append_cancel_left spelled).symm).imp_right fun ⟨u, hu, covered⟩ =>
        ⟨u, List.mem_cons_of_mem _ hu, covered⟩

end Covering

/-- The tokens stand in the text, one behind the other, and all of the text but white space belongs
to one of them. -/
structure Covers (text : List Char) (tokens : List Token) : Prop where
  increasing : tokens.Pairwise fun t next => t.position < next.position
  apart : tokens.Pairwise fun t next => t.stop ≤ next.position
  spelled : ∀ t ∈ tokens, ∃ before behind, text = before ++ t.spelling ++ behind ∧
    t.position = before.length ∧ Complete t behind
  blank_or_covered : ∀ before c behind, text = before ++ c :: behind →
    Text.isBlank c ∨ ∃ t ∈ tokens, t.position ≤ before.length ∧ before.length < t.stop

theorem Laid.covers {text : List Char} {tokens : List Token} (h : Laid 0 text tokens) :
    Covers text tokens where
  increasing := by
    apply h.ordered.1.imp_of_mem
    intro t next ht _ apart
    obtain ⟨_, _, _, _, nonempty, _⟩ := h.spelled t ht
    have := List.length_pos_of_ne_nil nonempty
    rw [stop] at apart
    omega
  apart := h.ordered.1
  spelled t ht := by
    obtain ⟨before, behind, split, here, _, complete⟩ := h.spelled t ht
    rw [Nat.zero_add] at here
    exact ⟨before, behind, split, here, complete⟩
  blank_or_covered before c behind split := by
    have covered := h.blank_or_covered split
    rwa [Nat.zero_add] at covered

/-- **No character of a text is lost.** The tokens that the text shows stand in it where they say,
each read to its end, with nothing but white space in between; and the tokens that it does not show
are signs of products, exactly one between any two factors that stand side by side. -/
theorem covers_of_scan {lexicon : Lexicon} {text : List Char} {tokens : List Token}
    (h : scan lexicon text = .ok tokens) :
    Covers text (shown tokens) ∧ tokens = joined (shown tokens) :=
  ⟨(scanned_of_scanFrom h).laid.covers, (scanned_of_scanFrom h).eq_joined none rfl⟩

/-- Between the three factors of `2 c f(-1)` two signs are added. -/
theorem covers_of_scan_factors :
    ∃ tokens, scan ⟨["f"], ["c"]⟩ "2 c f(-1)".toList = .ok tokens ∧ tokens.length = 9 ∧
      (shown tokens).length = 7 ∧ Covers "2 c f(-1)".toList (shown tokens) ∧
      tokens = joined (shown tokens) := by
  have scanned : scan ⟨["f"], ["c"]⟩ "2 c f(-1)".toList =
      .ok [⟨.number, "2", 0, some (.integer 2), none⟩, ⟨.operator, "*", 2, none, none⟩,
        ⟨.constant, "c", 2, none, none⟩, ⟨.operator, "*", 4, none, none⟩,
        ⟨.function, "f", 4, none, none⟩, ⟨.leftParen, "(", 5, none, none⟩,
        ⟨.unaryMinus, "u-", 6, none, none⟩, ⟨.number, "1", 7, some (.integer 1), none⟩,
        ⟨.rightParen, ")", 8, none, none⟩] := by
    decide +kernel
  exact ⟨_, scanned, rfl, by decide, covers_of_scan scanned⟩

end Reckoner.Token
