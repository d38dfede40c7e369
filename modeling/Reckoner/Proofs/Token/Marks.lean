import Reckoner.Proofs.PostOrder.Acceptance
import Reckoner.Proofs.Token.Scanned
import Reckoner.Proofs.Token.Stopped

/-!
Parentheses and commas in a text. They are tokens of one character, and no other token is written
with a parenthesis, so that as many parentheses are open among the characters of a text as among its
tokens. A fault of the text is therefore found at a character that has it: `blames_of_scan` and
`blames_of_ofTokens` say so for the two ways in which a text is refused.
-/
namespace Reckoner

namespace Text

/-- How many parentheses are open behind a character if `depth` are open in front of it. There is no
answer if it closes one that is not open. -/
def depthBehindChar? (depth : Nat) (c : Char) : Option Nat :=
  if c = '(' then some (depth + 1)
  else if c = ')' then
    match depth with
    | 0 => none
    | depth + 1 => some depth
  else some depth

/-- How many parentheses are open behind characters if `depth` are open in front of them. -/
def depthBehind? (depth : Nat) (cs : List Char) : Option Nat :=
  cs.foldlM depthBehindChar? depth

theorem depthBehind?_append (depth : Nat) (cs ds : List Char) :
    depthBehind? depth (cs ++ ds) = depthBehind? depth cs >>= fun depth => depthBehind? depth ds :=
  List.foldlM_append

theorem depthBehind?_level {cs : List Char} (level : ∀ c ∈ cs, c ≠ '(' ∧ c ≠ ')') (depth : Nat) :
    depthBehind? depth cs = some depth := by
  induction cs with
  | nil => rfl
  | cons c cs ih =>
    obtain ⟨⟨left, right⟩, level⟩ := List.forall_mem_cons.mp level
    have here : depthBehindChar? depth c = some depth := by
      simp only [depthBehindChar?, if_neg left, if_neg right]
    rw [depthBehind?, List.foldlM_cons, here]
    exact ih level

theorem depthBehind?_blank {c : Char} (blank : isBlank c) (depth : Nat) (cs : List Char) :
    depthBehind? depth (c :: cs) = depthBehind? depth cs := by
  have level : ∀ d ∈ [c], d ≠ '(' ∧ d ≠ ')' := by
    intro d hd
    cases List.mem_singleton.mp hd
    constructor <;> rintro rfl <;> exact absurd blank (by decide)
  rw [← List.singleton_append, depthBehind?_append, depthBehind?_level level]
  rfl

end Text

/-- The character that a fault of the text is found at. -/
def SyntaxFault.culprit : SyntaxFault → Char
  | invalidCharacter _ _ c => c
  | strayComma _ => ','
  | unmatchedClose _ => ')'
  | unclosedOpen _ => '('

/-- What is wrong with the character, given those in front of it and behind it: it starts no token,
or no parenthesis is open in front of it, or it is a parenthesis and what stands behind it does not
close it. -/
def SyntaxFault.Fits : SyntaxFault → List Char → List Char → Prop
  | invalidCharacter _ _ c, _, behind => Token.IsStrange c behind
  | strayComma _, before, _ | unmatchedClose _, before, _ => Text.depthBehind? 0 before = some 0
  | unclosedOpen _, _, behind => Text.depthBehind? 0 behind = some 0

/-- The fault is found in the text where its report says, at a character that has it. -/
structure SyntaxFault.Blames (fault : SyntaxFault) (text before behind : List Char) : Prop where
  split : text = before ++ fault.culprit :: behind
  position : fault.report.position = some (before.length : Int)
  fits : fault.Fits before behind

namespace Token

/-- The character that parentheses and commas are written with. -/
def Kind.mark? : Kind → Option Char
  | leftParen => some '('
  | rightParen => some ')'
  | comma => some ','
  | _ => none

section Lexemes

variable {lexicon : Lexicon} {previous : Option Kind} {c : Char} {cs tail : List Char} {kind : Kind}

theorem mark?_kindOf (name : String) : (lexicon.kindOf name).mark? = none := by
  obtain hk | hk | hk := kindOf_eq lexicon name <;> rw [hk] <;> rfl

theorem mark?_minusKind (previous : Option Kind) : (minusKind previous).mark? = none := by
  obtain hk | hk := minusKind_eq previous <;> rw [hk] <;> rfl

theorem depthBehind?_of_mark?_eq_none (h : kind.mark? = none) (depth : Nat) :
    kind.depthBehind? depth = some depth := by
  cases kind <;> first | rfl | cases h

/-- Parentheses and commas are tokens of one character. -/
theorem Lexeme.eq_mark (h : Lexeme lexicon previous c cs kind tail) {m : Char}
    (mark : kind.mark? = some m) : c = m ∧ tail = [] := by
  cases h with
  | leftParen | rightParen | comma => exact ⟨Option.some.inj mark, rfl⟩
  | name => rw [mark?_kindOf] at mark; cases mark
  | minus => rw [mark?_minusKind] at mark; cases mark
  | number | fraction | operator => cases mark

theorem level_of_isNameChar (h : isNameChar c) : c ≠ '(' ∧ c ≠ ')' := by
  constructor <;> rintro rfl <;> exact absurd h (by decide)

theorem level_of_isDigit (h : c.isDigit) : c ≠ '(' ∧ c ≠ ')' :=
  level_of_isNameChar (by rw [isNameChar, h, Bool.or_true])

/-- No other token has a parenthesis in it. -/
theorem Lexeme.level (h : Lexeme lexicon previous c cs kind tail) (mark : kind.mark? = none) :
    ∀ d ∈ c :: tail, d ≠ '(' ∧ d ≠ ')' := by
  have class_level {p : Char → Bool} (level : ∀ d, p d → d ≠ '(' ∧ d ≠ ')') (xs : List Char) :
      ∀ d ∈ xs.takeWhile p, d ≠ '(' ∧ d ≠ ')' :=
    fun d hd => level d (List.all_eq_true.mp List.all_takeWhile d hd)
  cases h with
  | leftParen | rightParen | comma => cases mark
  | number digit =>
    obtain ⟨whole, rest, _, whole_digits, _, ⟨htail, _⟩ | ⟨fraction, htail, fraction_digits⟩⟩ :=
      numeralTail_cases cs <;> rw [htail, List.forall_mem_cons]
    · exact ⟨level_of_isDigit digit, fun d hd => level_of_isDigit (whole_digits d hd)⟩
    · rw [List.forall_mem_append, List.forall_mem_cons]
      exact ⟨level_of_isDigit digit, fun d hd => level_of_isDigit (whole_digits d hd), by decide,
        fun d hd => level_of_isDigit (fraction_digits d hd)⟩
  | fraction =>
    exact List.forall_mem_cons.mpr ⟨by decide, class_level (fun _ => level_of_isDigit) cs⟩
  | name letter =>
    have first : isNameChar c := by rw [isNameChar, letter, Bool.true_or]
    exact List.forall_mem_cons.mpr
      ⟨level_of_isNameChar first, class_level (fun _ => level_of_isNameChar) cs⟩
  | minus => exact List.forall_mem_singleton.mpr (by decide)
  | operator symbol =>
    have level : ∀ d ∈ operatorChars, d ≠ '(' ∧ d ≠ ')' := by simp [operatorChars]
    exact List.forall_mem_singleton.mpr (level c (isOperatorChar_iff.mp symbol))

/-- The characters of a lexeme open and close what its token does. -/
theorem Lexeme.depthBehind?_eq (h : Lexeme lexicon previous c cs kind tail) (depth : Nat) :
    Text.depthBehind? depth (c :: tail) = kind.depthBehind? depth := by
  cases mark : kind.mark? with
  | none =>
    rw [Text.depthBehind?_level (h.level mark), depthBehind?_of_mark?_eq_none mark]
  | some m =>
    obtain ⟨rfl, rfl⟩ := h.eq_mark mark
    cases kind <;> cases mark <;> cases depth <;> rfl

end Lexemes

section Scanning

variable {lexicon : Lexicon} {previous : Option Kind} {position : Nat} {text cs : List Char}
  {tokens front rest : List Token} {t : Token} {fault : SyntaxFault}

theorem depthBehind?_impliedProduct (kind : Kind) (depth : Nat) :
    depthBehind? depth (impliedProduct previous kind position) = some depth := by
  unfold impliedProduct
  split <;> rfl

/-- What a lexeme and the signs in front of it do, its characters do. -/
theorem depthBehind?_lexeme {c : Char} {tail : List Char} {kind : Kind}
    (h : Lexeme lexicon previous c cs kind tail) (depth : Nat) (tokens : List Token) :
    depthBehind? depth
        (impliedProduct previous kind position ++ ofLexeme kind position (c :: tail) :: tokens) =
      Text.depthBehind? depth (c :: tail) >>= fun depth => depthBehind? depth tokens := by
  rw [depthBehind?_append, depthBehind?_impliedProduct, h.depthBehind?_eq]
  change depthBehind? depth (ofLexeme kind position (c :: tail) :: tokens) = _
  rw [depthBehind?_cons, kind_ofLexeme]

/-- As many parentheses are open among the characters as among the tokens. -/
theorem Scanned.depthBehind?_eq (h : Scanned lexicon previous position cs tokens) (depth : Nat) :
    Token.depthBehind? depth tokens = Text.depthBehind? depth cs := by
  induction h generalizing depth with
  | nil => rfl
  | blank blank _ ih => rw [Text.depthBehind?_blank blank, ih]
  | lexeme found _ ih =>
    rw [depthBehind?_lexeme (lexeme_of_lexeme? found), ← List.cons_append,
      Text.depthBehind?_append]
    simp only [ih]

/-- A parenthesis or a comma among the tokens is one character of the text, and the tokens on either
side of it are read from the characters there. -/
theorem Scanned.exists_mark (h : Scanned lexicon previous position cs tokens) {m : Char}
    (split : tokens = front ++ t :: rest) (mark : t.kind.mark? = some m) :
    ∃ before behind, cs = before ++ m :: behind ∧ t.position = (position + before.length : Nat) ∧
      (∀ depth, Token.depthBehind? depth front = Text.depthBehind? depth before) ∧
      ∀ depth, Token.depthBehind? depth rest = Text.depthBehind? depth behind := by
  induction h generalizing front with
  | nil => cases front <;> cases split
  | @blank previous position c cs tokens blank _ ih =>
    obtain ⟨before, behind, rfl, place, in_front, at_back⟩ := ih split
    refine ⟨c :: before, behind, rfl, ?_, fun depth => ?_, at_back⟩
    · rw [place, List.length_cons]
      omega
    · rw [Text.depthBehind?_blank blank, in_front]
  | @lexeme previous position c tail cs kind tokens found later ih =>
    have lexeme := lexeme_of_lexeme? found
    -- the token is no sign of a product, which is an operator
    have unmarked : t ∉ impliedProduct previous kind position := by
      intro mem
      have sign : t.kind = .operator :=
        forall_mem_impliedProduct (p := fun t => t.kind = .operator) rfl t mem
      rw [sign] at mark
      cases mark
    obtain ⟨more, rfl, later_split⟩ := exists_append_of_not_mem split unmarked
    cases more with
    | nil =>
      obtain ⟨rfl, rfl⟩ := List.cons.inj later_split
      rw [kind_ofLexeme] at mark
      obtain ⟨rfl, rfl⟩ := lexeme.eq_mark mark
      refine ⟨[], cs, rfl, position_ofLexeme kind position [c], fun depth => ?_,
        later.depthBehind?_eq⟩
      rw [List.append_nil, depthBehind?_impliedProduct]
      rfl
    | cons u more =>
      obtain ⟨rfl, inside⟩ := List.cons.inj later_split
      obtain ⟨before, behind, rfl, place, in_front, at_back⟩ := ih inside
      refine ⟨c :: (tail ++ before), behind, by simp, ?_, fun depth => ?_, at_back⟩
      · rw [place, List.length_cons, List.length_cons, List.length_append]
        omega
      · rw [depthBehind?_lexeme lexeme, ← List.cons_append, Text.depthBehind?_append]
        simp only [in_front]

/-- A text that cannot be read is blamed at a strange character. -/
theorem blames_of_scan (h : scan lexicon text = .error fault) :
    ∃ before behind, fault.Blames text before behind := by
  obtain ⟨before, c, behind, split, stopped, rfl⟩ := stopped_of_scanFrom h
  rw [Nat.zero_add]
  exact ⟨before, behind, split, rfl, stopped.isStrange⟩

/-- Tokens that cannot be put in order are blamed at a parenthesis or a comma of the text. -/
theorem blames_of_ofTokens (scanned : scan lexicon text = .ok tokens)
    (refused : PostOrder.ofTokens tokens = .error fault) :
    ∃ before behind, fault.Blames text before behind := by
  have read := scanned_of_scanFrom scanned
  obtain ⟨front, t, rest, split, _, ⟨kinds, level⟩, rfl⟩ |
      ⟨_, front, t, rest, split, unclosed, rfl⟩ := PostOrder.ofTokens_eq_error_iff.mp refused
  · obtain hk | hk := kinds
    · have mark : t.kind.mark? = some ',' := by rw [hk]; rfl
      obtain ⟨before, behind, split, place, in_front, _⟩ := read.exists_mark split mark
      rw [strayFault, if_pos hk, place, Nat.zero_add]
      exact ⟨before, behind, split, rfl, (in_front 0).symm.trans level⟩
    · have mark : t.kind.mark? = some ')' := by rw [hk]; rfl
      obtain ⟨before, behind, split, place, in_front, _⟩ := read.exists_mark split mark
      rw [strayFault, if_neg (by simp [hk]), place, Nat.zero_add]
      exact ⟨before, behind, split, rfl, (in_front 0).symm.trans level⟩
  · obtain ⟨hk, balanced⟩ := isLastUnclosed_iff.mp unclosed
    have mark : t.kind.mark? = some '(' := by rw [hk]; rfl
    obtain ⟨before, behind, split, place, _, at_back⟩ := read.exists_mark split mark
    rw [place, Nat.zero_add]
    exact ⟨before, behind, split, rfl, (at_back 0).symm.trans balanced⟩

end Scanning

end Token

end Reckoner
