import Reckoner.Token.Scan
import Reckoner.Value.Arithmetic
import Reckoner.Proofs.Fault.Caught
import Reckoner.Proofs.Text.Classes

/-!
What a text that is read consists of: white space and the characters of tokens. The sign of an
assignment is neither, so that an assignment is never read as an expression. `Lexeme` says what
one step of the scan reads, `Scanned` what a scan that ends well has read.
-/
namespace Reckoner.Token

/-- A character that some token is written with. -/
def isTokenChar (c : Char) : Bool :=
  isNameChar c || isOperatorChar c || ['.', '(', ')', ','].contains c

theorem isTokenChar_of_isNameChar {c : Char} (h : isNameChar c) : isTokenChar c := by
  rw [isTokenChar, h, Bool.true_or, Bool.true_or]

theorem isTokenChar_of_isDigit {c : Char} (h : c.isDigit) : isTokenChar c :=
  isTokenChar_of_isNameChar (by rw [isNameChar, h, Bool.or_true])

theorem isTokenChar_of_isLetter {c : Char} (h : Text.isLetter c) : isTokenChar c :=
  isTokenChar_of_isNameChar (by rw [isNameChar, h, Bool.true_or])

theorem takeWhile_spec {p : Char → Bool} (hp : ∀ c, p c → isTokenChar c) (cs : List Char) :
    cs.takeWhile p <+: cs ∧ ∀ c ∈ cs.takeWhile p, isTokenChar c :=
  ⟨List.takeWhile_prefix p, fun c hc => hp c (List.all_eq_true.mp List.all_takeWhile c hc)⟩

theorem not_of_mem_head?_dropWhile {p : Char → Bool} {cs : List Char} :
    ∀ c ∈ (cs.dropWhile p).head?, ¬ p c := by
  intro c hc
  have stopped := List.head?_dropWhile_not p cs
  rw [Option.mem_def.mp hc] at stopped
  simpa using stopped

/-- A numeral goes on with digits as long as there are any, and it has a point among them if there
is one where the first digits end. -/
theorem numeralTail_cases (cs : List Char) :
    ∃ whole rest, cs = numeralTail cs ++ rest ∧ (∀ c ∈ whole, c.isDigit) ∧
      (∀ c ∈ rest.head?, ¬ c.isDigit) ∧
      (numeralTail cs = whole ∧ rest.head? ≠ some '.' ∨
        ∃ fraction, numeralTail cs = whole ++ '.' :: fraction ∧ ∀ c ∈ fraction, c.isDigit) := by
  have digits (xs : List Char) : ∀ c ∈ xs.takeWhile Char.isDigit, c.isDigit :=
    List.all_eq_true.mp List.all_takeWhile
  have split (xs : List Char) : xs = xs.takeWhile Char.isDigit ++ xs.dropWhile Char.isDigit :=
    List.takeWhile_append_dropWhile.symm
  unfold numeralTail
  dsimp only
  split
  · rename_i rest point
    refine ⟨cs.takeWhile Char.isDigit, rest.dropWhile Char.isDigit, ?_, digits cs,
      not_of_mem_head?_dropWhile, Or.inr ⟨rest.takeWhile Char.isDigit, rfl, digits rest⟩⟩
    rw [List.append_assoc, List.cons_append, ← split rest, ← point, ← split cs]
  · rename_i no_point
    refine ⟨cs.takeWhile Char.isDigit, cs.dropWhile Char.isDigit, split cs, digits cs,
      not_of_mem_head?_dropWhile, Or.inl ⟨rfl, fun point => ?_⟩⟩
    obtain ⟨rest, hrest⟩ := List.head?_eq_some_iff.mp point
    exact no_point rest hrest

theorem numeralTail_spec (cs : List Char) :
    numeralTail cs <+: cs ∧ ∀ c ∈ numeralTail cs, isTokenChar c := by
  obtain ⟨whole, rest, split, hw, _, kinds⟩ := numeralTail_cases cs
  refine ⟨⟨rest, split.symm⟩, ?_⟩
  obtain ⟨htail, _⟩ | ⟨fraction, htail, hf⟩ := kinds <;> rw [htail]
  · exact fun c hc => isTokenChar_of_isDigit (hw c hc)
  · refine List.forall_mem_append.mpr ⟨fun c hc => isTokenChar_of_isDigit (hw c hc),
      List.forall_mem_cons.mpr ⟨by decide, fun c hc => isTokenChar_of_isDigit (hf c hc)⟩⟩

theorem minusKind_eq (previous : Option Kind) :
    minusKind previous = .unaryMinus ∨ minusKind previous = .operator := by
  unfold minusKind
  split
  · exact Or.inl rfl
  · split
    · exact Or.inl rfl
    · exact Or.inr rfl

theorem isSome_ofSymbol?_of_isOperatorChar {c : Char} (h : isOperatorChar c) :
    (Operator.ofSymbol? (String.ofList [c])).isSome := by
  have symbols : "+-*/^%".toList.all fun c => (Operator.ofSymbol? (String.ofList [c])).isSome := by
    decide
  exact List.all_eq_true.mp symbols c (List.contains_iff_mem.mp h)

/-- What a lexeme is, by its first character `c` and the characters behind it: its kind and the rest
of its own characters. -/
inductive Lexeme (lexicon : Lexicon) (previous : Option Kind) :
    Char → List Char → Kind → List Char → Prop where
  | number {c : Char} {cs : List Char} (digit : c.isDigit) :
      Lexeme lexicon previous c cs .number (numeralTail cs)
  | fraction {cs : List Char} (digit : cs.head?.any Char.isDigit) :
      Lexeme lexicon previous '.' cs .number (cs.takeWhile Char.isDigit)
  | name {c : Char} {cs : List Char} (letter : Text.isLetter c) :
      Lexeme lexicon previous c cs
        (lexicon.kindOf (String.ofList (c :: cs.takeWhile isNameChar))) (cs.takeWhile isNameChar)
  | leftParen {cs : List Char} : Lexeme lexicon previous '(' cs .leftParen []
  | rightParen {cs : List Char} : Lexeme lexicon previous ')' cs .rightParen []
  | comma {cs : List Char} : Lexeme lexicon previous ',' cs .comma []
  | minus {cs : List Char} : Lexeme lexicon previous '-' cs (minusKind previous) []
  | operator {c : Char} {cs : List Char} (symbol : isOperatorChar c) (other : c ≠ '-') :
      Lexeme lexicon previous c cs .operator []

/-- Every lexeme that is found is one of these. -/
theorem lexeme_of_lexeme? {lexicon : Lexicon} {previous : Option Kind} {c : Char}
    {cs tail : List Char} {kind : Kind}
    (h : lexeme? lexicon previous c cs = some (kind, tail)) :
    Lexeme lexicon previous c cs kind tail := by
  unfold lexeme? at h
  split at h
  · rename_i digit
    cases h
    exact .number digit
  split at h
  · rename_i point
    cases h
    rw [Bool.and_eq_true, decide_eq_true_iff] at point
    obtain ⟨rfl, digit⟩ := point
    exact .fraction digit
  split at h
  · rename_i letter
    cases h
    exact .name letter
  split at h
  · rename_i hc
    subst hc
    cases h
    exact .leftParen
  split at h
  · rename_i hc
    subst hc
    cases h
    exact .rightParen
  split at h
  · rename_i hc
    subst hc
    cases h
    exact .comma
  split at h
  · rename_i hc
    subst hc
    cases h
    exact .minus
  split at h
  · rename_i other symbol
    cases h
    exact .operator symbol other
  · cases h

/-- A lexeme is a piece of the text, and all of it are characters of tokens. -/
theorem lexeme?_spec {lexicon : Lexicon} {previous : Option Kind} {c : Char} {cs tail : List Char}
    {kind : Kind} (h : lexeme? lexicon previous c cs = some (kind, tail)) :
    isTokenChar c ∧ tail <+: cs ∧ ∀ d ∈ tail, isTokenChar d := by
  cases lexeme_of_lexeme? h with
  | number digit => exact ⟨isTokenChar_of_isDigit digit, numeralTail_spec cs⟩
  | fraction => exact ⟨by decide, takeWhile_spec (fun _ => isTokenChar_of_isDigit) cs⟩
  | name letter =>
    exact ⟨isTokenChar_of_isLetter letter, takeWhile_spec (fun _ => isTokenChar_of_isNameChar) cs⟩
  | leftParen | rightParen | comma | minus =>
    exact ⟨by decide, List.nil_prefix, List.forall_mem_nil _⟩
  | operator symbol =>
    refine ⟨?_, List.nil_prefix, List.forall_mem_nil _⟩
    rw [isTokenChar, symbol, Bool.or_true, Bool.true_or]

/-- From `position` on the characters are read as the tokens, lexeme by lexeme. -/
inductive Scanned (lexicon : Lexicon) : Option Kind → Nat → List Char → List Token → Prop where
  | nil {previous : Option Kind} {position : Nat} : Scanned lexicon previous position [] []
  | blank {previous : Option Kind} {position : Nat} {c : Char} {cs : List Char}
      {tokens : List Token} (blank : Text.isBlank c)
      (rest : Scanned lexicon previous (position + 1) cs tokens) :
      Scanned lexicon previous position (c :: cs) tokens
  | lexeme {previous : Option Kind} {position : Nat} {c : Char} {tail behind : List Char}
      {kind : Kind} {tokens : List Token}
      (found : lexeme? lexicon previous c (tail ++ behind) = some (kind, tail))
      (rest : Scanned lexicon (some kind) (position + (c :: tail).length) behind tokens) :
      Scanned lexicon previous position (c :: (tail ++ behind))
        (impliedProduct previous kind position ++ ofLexeme kind position (c :: tail) :: tokens)

section Scanning

variable {lexicon : Lexicon} {text cs : List Char} {previous : Option Kind} {position : Nat}
  {tokens : List Token}

theorem scanned_of_scanFrom (h : scanFrom lexicon text previous position cs = .ok tokens) :
    Scanned lexicon previous position cs tokens := by
  fun_induction scanFrom lexicon text previous position cs generalizing tokens with
  | case1 =>
    cases h
    exact .nil
  | case2 previous position c cs blank ih => exact .blank blank (ih h)
  | case3 => cases h
  | case4 previous position c cs _ kind tail found ih =>
    obtain ⟨rest, later, last⟩ := bind_eq_ok_iff.mp h
    cases last
    have scanned := ih later
    obtain ⟨_, ⟨behind, rfl⟩, _⟩ := lexeme?_spec found
    rw [List.drop_left, Nat.add_assoc, Nat.add_comm 1] at scanned
    exact .lexeme found scanned

/-- **A text that is read has no strange characters.** -/
theorem Scanned.isBlank_or_isTokenChar (h : Scanned lexicon previous position cs tokens) :
    ∀ c ∈ cs, Text.isBlank c ∨ isTokenChar c := by
  induction h with
  | nil => exact List.forall_mem_nil _
  | blank blank _ ih => exact List.forall_mem_cons.mpr ⟨Or.inl blank, ih⟩
  | lexeme found _ ih =>
    obtain ⟨first, _, others⟩ := lexeme?_spec found
    rw [List.forall_mem_cons, List.forall_mem_append]
    exact ⟨Or.inr first, fun c hc => Or.inr (others c hc), ih⟩

/-- The sign of an assignment is in no text that is read. -/
theorem equals_not_mem_of_scan (h : scan lexicon cs = .ok tokens) : '=' ∉ cs := by
  have strange : ¬ (Text.isBlank '=' ∨ isTokenChar '=') := by decide
  exact fun mem => strange ((scanned_of_scanFrom h).isBlank_or_isTokenChar '=' mem)

end Scanning

end Reckoner.Token
