import Reckoner.Expression
import Reckoner.Proofs.PostOrder.Positions
import Reckoner.Proofs.Text.Classes

/-!
Reading tokens back from text. A token is read from its spelling wherever a blank or nothing
follows; `readAs_spelled` puts this together for a whole text in which blanks stand between all
tokens. What is read are the tokens with the signs of products restored that their places imply.
-/
namespace Reckoner.Token

/-- Nothing follows that a lexeme could go on with: the text ends, or a blank comes. -/
def Ends (rest : List Char) : Prop :=
  ∀ c ∈ rest.head?, Text.isBlank c

theorem Ends.not_isDigit {rest : List Char} (h : Ends rest) : ∀ c ∈ rest.head?, ¬ c.isDigit :=
  fun c hc hd => Text.not_isBlank_of_isDigit hd (h c hc)

theorem Ends.not_isNameChar {rest : List Char} (h : Ends rest) :
    ∀ c ∈ rest.head?, ¬ isNameChar c := by
  intro c hc hn
  obtain hl | hd := (Bool.or_eq_true _ _).mp hn
  · exact Text.not_isBlank_of_isLetter hl (h c hc)
  · exact h.not_isDigit c hc hd

theorem Ends.head?_ne_point {rest : List Char} (h : Ends rest) : rest.head? ≠ some '.' := by
  intro point
  exact absurd (h '.' point) (by decide)

theorem takeWhile_append_of_head {p : Char → Bool} {xs rest : List Char} (hxs : ∀ c ∈ xs, p c)
    (hrest : ∀ c ∈ rest.head?, ¬ p c) : (xs ++ rest).takeWhile p = xs := by
  rw [List.takeWhile_append_of_pos hxs]
  cases rest with
  | nil => simp
  | cons c rest => simp [hrest c rfl]

theorem dropWhile_append_of_head {p : Char → Bool} {xs rest : List Char} (hxs : ∀ c ∈ xs, p c)
    (hrest : ∀ c ∈ rest.head?, ¬ p c) : (xs ++ rest).dropWhile p = rest := by
  rw [List.dropWhile_append_of_pos hxs]
  cases rest with
  | nil => rfl
  | cons c rest => simp [hrest c rfl]

/-- An element that is not in the first list is where it is in the second one. -/
theorem exists_append_of_not_mem {α : Type} {x : α} {xs ys before behind : List α}
    (h : xs ++ ys = before ++ x :: behind) (hx : x ∉ xs) :
    ∃ more, before = xs ++ more ∧ ys = more ++ x :: behind := by
  obtain ⟨more, hbefore, hys⟩ | ⟨more, rfl, hbehind⟩ := List.append_eq_append_iff.mp h
  · exact ⟨more, hbefore, hys⟩
  · cases more with
    | nil => exact ⟨[], by simp, hbehind.symm⟩
    | cons y more =>
      obtain ⟨rfl, _⟩ := List.cons.inj hbehind
      exact absurd (List.mem_append_right before List.mem_cons_self) hx

/-- Where the token stands, a minus is what it is: a sign or an operator. -/
def SignFits (previous : Option Kind) (t : Token) : Prop :=
  (t.kind = .unaryMinus → minusKind previous = .unaryMinus) ∧
    (t.kind = .operator → t.lexeme = Operator.sub.symbol → minusKind previous = .operator)

/-- The token is read from `c :: tail`, its spelling. -/
structure ReadFrom (lexicon : Lexicon) (t : Token) (c : Char) (tail : List Char) : Prop where
  spelling_eq : t.spelling = c :: tail
  not_blank : ¬ Text.isBlank c
  ofLexeme_eq (position : Nat) :
    ofLexeme t.kind position (c :: tail) = { t with position := position }
  lexeme?_eq {previous : Option Kind} {rest : List Char} (fits : SignFits previous t)
    (ends : Ends rest) : lexeme? lexicon previous c (tail ++ rest) = some (t.kind, tail)

/-- The token is read back from its spelling. -/
def Readable (lexicon : Lexicon) (t : Token) : Prop :=
  ∃ c tail, ReadFrom lexicon t c tail

section Kinds

variable (lexicon : Lexicon) (position : Int)

theorem numeralTail_of_digits {tail rest : List Char} (hd : ∀ c ∈ tail, c.isDigit)
    (ends : ∀ c ∈ rest.head?, ¬ c.isDigit) (no_point : rest.head? ≠ some '.') :
    numeralTail (tail ++ rest) = tail := by
  unfold numeralTail
  rw [takeWhile_append_of_head hd ends, dropWhile_append_of_head hd ends]
  dsimp only
  split
  · exact absurd rfl no_point
  · rfl

theorem numeralTail_of_point {whole fraction rest : List Char} (hw : ∀ c ∈ whole, c.isDigit)
    (hf : ∀ c ∈ fraction, c.isDigit) (ends : ∀ c ∈ rest.head?, ¬ c.isDigit) :
    numeralTail (whole ++ '.' :: fraction ++ rest) = whole ++ '.' :: fraction := by
  have point : ∀ c ∈ ('.' :: (fraction ++ rest)).head?, ¬ c.isDigit := by
    intro c hc
    cases hc
    decide
  unfold numeralTail
  rw [List.append_assoc, List.cons_append, takeWhile_append_of_head hw point,
    dropWhile_append_of_head hw point]
  simp only [takeWhile_append_of_head hf ends]

theorem lexeme?_of_isDigit {c : Char} (hc : c.isDigit) (previous : Option Kind) (cs : List Char) :
    lexeme? lexicon previous c cs = some (.number, numeralTail cs) := by
  simp [lexeme?, hc]

theorem lexeme?_of_point {cs : List Char} (hcs : cs.head?.any Char.isDigit)
    (previous : Option Kind) :
    lexeme? lexicon previous '.' cs = some (.number, cs.takeWhile Char.isDigit) := by
  have point : ¬ ('.').isDigit := by decide
  simp [lexeme?, hcs]

theorem lexeme?_of_isLetter {c : Char} (hc : Text.isLetter c) (previous : Option Kind)
    (cs : List Char) :
    lexeme? lexicon previous c cs =
      some (lexicon.kindOf (String.ofList (c :: cs.takeWhile isNameChar)),
        cs.takeWhile isNameChar) := by
  have hd : ¬ c.isDigit := Text.not_isDigit_of_isLetter hc
  have hp : c ≠ '.' := by
    rintro rfl
    exact absurd hc (by decide)
  simp only [lexeme?, hd, hp, hc, Bool.false_eq_true, decide_false, Bool.false_and, if_false,
    if_true]

theorem readable_numeral {cs : List Char} (h : Expression.IsNumeral cs) :
    Readable lexicon ⟨.number, String.ofList cs, position, some (literal cs), none⟩ := by
  have read {c : Char} {tail : List Char} (not_blank : ¬ Text.isBlank c)
      (hl : ∀ previous rest, Ends rest →
        lexeme? lexicon previous c (tail ++ rest) = some (.number, tail)) :
      Readable lexicon
        ⟨.number, String.ofList (c :: tail), position, some (literal (c :: tail)), none⟩ :=
    ⟨c, tail, String.toList_ofList, not_blank, fun _ => rfl, fun _ ends => hl _ _ ends⟩
  obtain ⟨hne, hall⟩ | ⟨whole, fraction, rfl, hne, hall⟩ := h
  · obtain ⟨c, tail, rfl⟩ := List.exists_cons_of_ne_nil hne
    obtain ⟨hc, ht⟩ := List.forall_mem_cons.mp (List.all_eq_true.mp hall)
    refine read (Text.not_isBlank_of_isDigit hc) fun previous rest ends => ?_
    rw [lexeme?_of_isDigit lexicon hc,
      numeralTail_of_digits ht ends.not_isDigit ends.head?_ne_point]
  · obtain ⟨hw, hf⟩ := List.forall_mem_append.mp (List.all_eq_true.mp hall)
    cases whole with
    | nil =>
      refine read (by decide) fun previous rest ends => ?_
      obtain ⟨d, tail, rfl⟩ := List.exists_cons_of_ne_nil hne
      have hd : d.isDigit := hf d List.mem_cons_self
      rw [lexeme?_of_point lexicon (by simpa using hd),
        takeWhile_append_of_head hf ends.not_isDigit]
    | cons c whole =>
      obtain ⟨hc, hw⟩ := List.forall_mem_cons.mp hw
      rw [List.cons_append]
      refine read (Text.not_isBlank_of_isDigit hc) fun previous rest ends => ?_
      rw [lexeme?_of_isDigit lexicon hc, numeralTail_of_point hw hf ends.not_isDigit]

theorem kindOf_eq (name : String) :
    lexicon.kindOf name = .function ∨ lexicon.kindOf name = .constant ∨
      lexicon.kindOf name = .variableName := by
  unfold Lexicon.kindOf
  split
  · exact Or.inl rfl
  · split
    · exact Or.inr (Or.inl rfl)
    · exact Or.inr (Or.inr rfl)

theorem readable_name {kind : Kind} {c : Char} {tail : List Char} (hc : Text.isLetter c)
    (ht : ∀ d ∈ tail, isNameChar d) (hk : lexicon.kindOf (String.ofList (c :: tail)) = kind) :
    Readable lexicon ⟨kind, String.ofList (c :: tail), position, none, none⟩ := by
  have hkinds := kindOf_eq lexicon (String.ofList (c :: tail))
  rw [hk] at hkinds
  refine ⟨c, tail, ?_, Text.not_isBlank_of_isLetter hc, fun p => ?_, fun _ ends => ?_⟩
  · obtain rfl | rfl | rfl := hkinds <;> exact String.toList_ofList
  · obtain rfl | rfl | rfl := hkinds <;> rfl
  · rw [lexeme?_of_isLetter lexicon hc, takeWhile_append_of_head ht ends.not_isNameChar, hk]

/-- A token of one character. -/
theorem readable_symbol {t : Token} (c : Char) (spelling_eq : t.spelling = [c])
    (not_blank : ¬ Text.isBlank c)
    (ofLexeme_eq : ∀ p : Nat, ofLexeme t.kind p [c] = { t with position := p })
    (lexeme?_eq : ∀ previous rest, SignFits previous t →
      lexeme? lexicon previous c rest = some (t.kind, [])) : Readable lexicon t :=
  ⟨c, [], spelling_eq, not_blank, ofLexeme_eq, fun fits _ => lexeme?_eq _ _ fits⟩

theorem readable_operator (op : Operator) :
    Readable lexicon ⟨.operator, op.symbol, position, none, none⟩ := by
  have read (c : Char) (h : op.symbol.toList = [c]) (not_blank : ¬ Text.isBlank c)
      (hl : ∀ previous rest, lexeme? lexicon previous c rest = some (.operator, [])) :
      Readable lexicon ⟨.operator, op.symbol, position, none, none⟩ := by
    refine readable_symbol lexicon c h not_blank (fun p => ?_) fun _ _ _ => hl _ _
    rw [← h]
    simp [ofLexeme]
  cases op with
  | add => exact read '+' (by decide) (by decide) fun _ _ => rfl
  | mul => exact read '*' (by decide) (by decide) fun _ _ => rfl
  | div => exact read '/' (by decide) (by decide) fun _ _ => rfl
  | mod => exact read '%' (by decide) (by decide) fun _ _ => rfl
  | pow => exact read '^' (by decide) (by decide) fun _ _ => rfl
  | sub =>
    have spelled : Operator.sub.symbol.toList = ['-'] := by decide
    refine readable_symbol lexicon '-' spelled (by decide) (fun _ => rfl) fun _ _ fits => ?_
    exact congrArg (fun k => some (k, [])) (fits.2 rfl rfl)

theorem readable_sign : Readable lexicon ⟨.unaryMinus, negation, position, none, none⟩ := by
  refine readable_symbol lexicon '-' rfl (by decide) (fun _ => rfl) fun _ _ fits => ?_
  exact congrArg (fun k => some (k, [])) (fits.1 rfl)

theorem readable_leftParen : Readable lexicon ⟨.leftParen, "(", position, none, none⟩ := by
  have spelled : "(".toList = ['('] := by decide
  exact readable_symbol lexicon '(' spelled (by decide) (fun _ => rfl) fun _ _ _ => rfl

theorem readable_rightParen : Readable lexicon ⟨.rightParen, ")", position, none, none⟩ := by
  have spelled : ")".toList = [')'] := by decide
  exact readable_symbol lexicon ')' spelled (by decide) (fun _ => rfl) fun _ _ _ => rfl

theorem readable_comma : Readable lexicon ⟨.comma, ",", position, none, none⟩ := by
  have spelled : ",".toList = [','] := by decide
  exact readable_symbol lexicon ',' spelled (by decide) (fun _ => rfl) fun _ _ _ => rfl

end Kinds

section Scanning

variable {lexicon : Lexicon} {text : List Char}

theorem scanFrom_nil (previous : Option Kind) (position : Nat) :
    scanFrom lexicon text previous position [] = .ok [] := by
  rw [scanFrom]

theorem scanFrom_blank {b : Char} (blank : Text.isBlank b) (previous : Option Kind)
    (position : Nat) (cs : List Char) :
    scanFrom lexicon text previous position (b :: cs) =
      scanFrom lexicon text previous (position + 1) cs := by
  rw [scanFrom, if_pos blank]

theorem scanFrom_blanks {space : List Char} (h : ∀ c ∈ space, Text.isBlank c)
    (previous : Option Kind) (position : Nat) (cs : List Char) :
    scanFrom lexicon text previous position (space ++ cs) =
      scanFrom lexicon text previous (position + space.length) cs := by
  induction space generalizing position with
  | nil => rfl
  | cons c space ih =>
    obtain ⟨hc, hs⟩ := List.forall_mem_cons.mp h
    rw [List.cons_append, scanFrom_blank hc, ih hs, List.length_cons, Nat.add_right_comm,
      Nat.add_assoc position]

theorem scanFrom_of_blank {space : List Char} (h : ∀ c ∈ space, Text.isBlank c)
    (previous : Option Kind) (position : Nat) :
    scanFrom lexicon text previous position space = .ok [] := by
  rw [← List.append_nil space, scanFrom_blanks h, scanFrom_nil]

/-- One lexeme, and then the rest of the text. -/
theorem scanFrom_lexeme {previous : Option Kind} {c : Char} {tail : List Char} {kind : Kind}
    (not_blank : ¬ Text.isBlank c) {cs : List Char}
    (found : lexeme? lexicon previous c (tail ++ cs) = some (kind, tail)) (position : Nat) :
    scanFrom lexicon text previous position (c :: (tail ++ cs)) = (do
      let tokens ← scanFrom lexicon text (some kind) (position + (c :: tail).length) cs
      return impliedProduct previous kind position ++ ofLexeme kind position (c :: tail) :: tokens)
    := by
  rw [scanFrom, if_neg not_blank, found]
  simp only [List.drop_left, List.length_cons, Nat.add_assoc, Nat.add_comm 1]

/-- One token, and then the rest of the text. -/
theorem scanFrom_readable {t : Token} (ht : Readable lexicon t) {previous : Option Kind}
    (fits : SignFits previous t) {rest : List Char} (ends : Ends rest) (position : Nat) :
    scanFrom lexicon text previous position (t.spelling ++ rest) = (do
      let tokens ← scanFrom lexicon text (some t.kind) (position + t.spelling.length) rest
      return impliedProduct previous t.kind position ++ { t with position := position } :: tokens)
    := by
  obtain ⟨c, tail, read⟩ := ht
  rw [read.spelling_eq, List.cons_append,
    scanFrom_lexeme read.not_blank (read.lexeme?_eq fits ends), read.ofLexeme_eq]

/-- The tokens with the signs of products between factors that stand side by side. -/
def restored (previous : Option Kind) : List Token → List Token
  | [] => []
  | t :: ts => impliedProduct previous t.kind 0 ++ t :: restored (some t.kind) ts

/-- Every minus is what its place makes of it. -/
def SignsFit (previous : Option Kind) : List Token → Prop
  | [] => True
  | t :: ts => SignFits previous t ∧ SignsFit (some t.kind) ts

theorem map_unplaced_impliedProduct (previous : Option Kind) (kind : Kind) (p q : Nat) :
    (impliedProduct previous kind p).map unplaced =
      (impliedProduct previous kind q).map unplaced := by
  unfold impliedProduct
  split <;> rfl

/-- From anywhere on, the text is read as the tokens, with the signs of products restored. -/
def ReadAs (lexicon : Lexicon) (text : List Char) (previous : Option Kind) (cs : List Char)
    (tokens : List Token) : Prop :=
  ∀ position, ∃ read, scanFrom lexicon text previous position cs = .ok read ∧
    read.map unplaced = (restored previous tokens).map unplaced

theorem readAs_blank (previous : Option Kind) {space : List Char}
    (h : ∀ c ∈ space, Text.isBlank c) : ReadAs lexicon text previous space [] :=
  fun position => ⟨[], scanFrom_of_blank h previous position, rfl⟩

theorem readAs_cons {previous : Option Kind} {t : Token} {ts : List Token}
    {before rest : List Char} (before_blank : ∀ c ∈ before, Text.isBlank c)
    (ht : Readable lexicon t) (fits : SignFits previous t) (ends : Ends rest)
    (h : ReadAs lexicon text (some t.kind) rest ts) :
    ReadAs lexicon text previous (before ++ (t.spelling ++ rest)) (t :: ts) := by
  intro position
  obtain ⟨read, hread, hsame⟩ := h (position + before.length + t.spelling.length)
  refine ⟨impliedProduct previous t.kind (position + before.length) ++
    { t with position := (position + before.length : Nat) } :: read, ?_, ?_⟩
  · rw [scanFrom_blanks before_blank, scanFrom_readable ht fits ends, hread]
    rfl
  · simp only [restored, List.map_append, List.map_cons, hsame,
      map_unplaced_impliedProduct previous t.kind (position + before.length) 0]
    rfl

/-- **Spelled tokens are read back.** From a text with blanks between all tokens the same tokens are
read, save for their positions, and the signs of products between factors side by side. -/
theorem readAs_spelled {tokens : List Token} {cs : List Char} (h : Spelled tokens cs)
    (readable : ∀ t ∈ tokens, Readable lexicon t) {previous : Option Kind}
    (fits : SignsFit previous tokens) : ReadAs lexicon text previous cs tokens := by
  induction h generalizing previous with
  | blank space_blank => exact readAs_blank previous space_blank
  | last before_blank behind_blank =>
    refine readAs_cons before_blank (readable _ List.mem_cons_self) fits.1 ?_
      (readAs_blank _ behind_blank)
    exact fun c hc => behind_blank c (List.mem_of_mem_head? hc)
  | more before_blank separator_blank spelled ih =>
    rename_i t next rest before cs separator
    refine readAs_cons before_blank (readable _ List.mem_cons_self) fits.1 ?_ ?_
    · intro c hc
      cases hc
      exact separator_blank
    · intro position
      have blank : ∀ c ∈ [separator], Text.isBlank c := by simpa using separator_blank
      have skip : scanFrom lexicon text (some t.kind) position (separator :: cs) =
          scanFrom lexicon text (some t.kind) (position + 1) cs :=
        scanFrom_blanks blank (some t.kind) position cs
      rw [skip]
      exact ih (fun u hu => readable u (List.mem_cons_of_mem _ hu)) fits.2 (position + 1)

end Scanning

end Reckoner.Token
