import Reckoner.Proofs.Token.Lossless
import Reckoner.Proofs.Token.Reading

namespace Reckoner.Token

section Lexemes

variable {lexicon : Lexicon} {previous : Option Kind} {c : Char} {cs tail : List Char}
  {kind : Kind}

theorem isNumeral_of_isDigit (hc : c.isDigit) (cs : List Char) :
    Expression.IsNumeral (c :: numeralTail cs) := by
  obtain ⟨whole, _, _, hw, _, ⟨htail, _⟩ | ⟨fraction, htail, hf⟩⟩ := numeralTail_cases cs <;>
    rw [htail]
  · have digits : ∀ d ∈ c :: whole, d.isDigit := List.forall_mem_cons.mpr ⟨hc, hw⟩
    exact Or.inl ⟨List.cons_ne_nil c whole, List.all_eq_true.mpr digits⟩
  · have digits : ∀ d ∈ c :: whole ++ fraction, d.isDigit :=
      List.forall_mem_append.mpr ⟨List.forall_mem_cons.mpr ⟨hc, hw⟩, hf⟩
    exact Or.inr ⟨c :: whole, fraction, rfl, List.cons_ne_nil c _, List.all_eq_true.mpr digits⟩

theorem isNumeral_of_point (hcs : cs.head?.any Char.isDigit) :
    Expression.IsNumeral ('.' :: cs.takeWhile Char.isDigit) := by
  refine Or.inr ⟨[], cs.takeWhile Char.isDigit, rfl, ?_, List.all_takeWhile⟩
  cases cs with
  | nil => cases hcs
  | cons d cs =>
    have digit : d.isDigit := hcs
    rw [List.nil_append, List.takeWhile_cons, if_pos digit]
    exact List.cons_ne_nil d _

/-- What was read once can be read again from its spelling. -/
theorem readable_ofLexeme (h : Lexeme lexicon previous c cs kind tail) (position : Nat) :
    Readable lexicon (ofLexeme kind position (c :: tail)) := by
  cases h with
  | number digit => exact readable_numeral lexicon position (isNumeral_of_isDigit digit cs)
  | fraction digit => exact readable_numeral lexicon position (isNumeral_of_point digit)
  | name letter =>
    have readable {kind : Kind}
        (hk : lexicon.kindOf (String.ofList (c :: cs.takeWhile isNameChar)) = kind) :=
      readable_name lexicon position letter (List.all_eq_true.mp List.all_takeWhile) hk
    obtain hk | hk | hk := kindOf_eq lexicon (String.ofList (c :: cs.takeWhile isNameChar)) <;>
      rw [hk] <;> exact readable hk
  | leftParen => exact readable_leftParen lexicon position
  | rightParen => exact readable_rightParen lexicon position
  | comma => exact readable_comma lexicon position
  | minus =>
    obtain hk | hk := minusKind_eq previous <;> rw [hk]
    · exact readable_sign lexicon position
    · exact readable_operator lexicon position .sub
  | operator symbol =>
    obtain ⟨op, hop⟩ := Option.isSome_iff_exists.mp (isSome_ofSymbol?_of_isOperatorChar symbol)
    have readable := readable_operator lexicon position op
    rw [Operator.symbol_of_ofSymbol? hop] at readable
    exact readable

theorem readable_of_scan {text : List Char} {tokens : List Token}
    (h : scan lexicon text = .ok tokens) : ∀ t ∈ tokens, Readable lexicon t :=
  forall_mem_of_scanFrom (fun position => readable_operator lexicon position .mul)
    (fun found position => readable_ofLexeme (lexeme_of_lexeme? found) position) h

/-- What is no minus fits anywhere. -/
theorem signFits_of_ne {t : Token} (no_sign : t.kind ≠ .unaryMinus)
    (no_operator : t.kind = .operator → t.lexeme ≠ Operator.sub.symbol) : SignFits previous t :=
  ⟨fun kind => absurd kind no_sign, fun kind minus => absurd minus (no_operator kind)⟩

/-- A minus is what the place makes of it where it was read. -/
theorem signFits_ofLexeme (h : Lexeme lexicon previous c cs kind tail) (position : Nat) :
    SignFits previous (ofLexeme kind position (c :: tail)) := by
  cases h with
  | name =>
    obtain hk | hk | hk := kindOf_eq lexicon (String.ofList (c :: cs.takeWhile isNameChar)) <;>
      rw [hk] <;> exact signFits_of_ne (by nofun) nofun
  | minus =>
    refine ⟨fun kind => ?_, fun kind _ => ?_⟩ <;> rwa [kind_ofLexeme] at kind
  | operator _ other =>
    apply signFits_of_ne (by nofun)
    intro _ minus
    apply other
    have spelled := congrArg String.toList minus
    rw [show (ofLexeme .operator position [c]).lexeme = String.ofList [c] from rfl,
      String.toList_ofList] at spelled
    exact (List.cons.inj spelled).1
  | number | fraction | leftParen | rightParen | comma => exact signFits_of_ne (by nofun) nofun

end Lexemes

section Scanning

variable {lexicon : Lexicon} {text cs : List Char} {previous : Option Kind} {position : Nat}
  {tokens : List Token}

/-- The sign of a product is no minus. -/
theorem signFits_product : SignFits previous ⟨.operator, "*", position, none, none⟩ := by
  apply signFits_of_ne
  · intro sign
    cases sign
  · intro _
    show "*" ≠ "-"
    decide

/-- What starts a factor is no minus. -/
theorem signFits_of_startsFactor {t : Token} (h : t.kind.startsFactor) : SignFits previous t :=
  signFits_of_ne (fun kind => by simp [kind, Kind.startsFactor] at h)
    fun kind => by simp [kind, Kind.startsFactor] at h

theorem Scanned.signsFit (h : Scanned lexicon previous position cs tokens) :
    SignsFit previous tokens := by
  induction h with
  | nil => trivial
  | blank _ _ ih => exact ih
  | lexeme found _ fits_rest =>
    rename_i previous position c tail behind kind rest _
    have fits := signFits_ofLexeme (lexeme_of_lexeme? found) position
    rw [← kind_ofLexeme kind position (c :: tail)] at fits_rest
    unfold impliedProduct
    split
    · rename_i factors
      have starts := ((Bool.and_eq_true _ _).mp factors).2
      rw [← kind_ofLexeme kind position (c :: tail)] at starts
      exact ⟨signFits_product, signFits_of_startsFactor starts, fits_rest⟩
    · exact ⟨fits, fits_rest⟩

/-- Behind a token from which it is apart a token implies no product. -/
theorem impliedProduct_of_apart {t next : Token} (h : Apart t next) (position : Nat) :
    impliedProduct (some t.kind) next.kind position = [] := by
  refine if_neg fun factors => ?_
  obtain ⟨ends, starts⟩ := (Bool.and_eq_true _ _).mp factors
  have starts_operand : next.kind.startsOperand := by
    cases hk : next.kind <;> simp_all [Kind.startsFactor, Kind.startsOperand]
  rw [h ends starts_operand] at starts
  cases starts

/-- Between tokens that are apart no product is left out. -/
theorem restored_of_isChain (front : Option Token) (h : (front.toList ++ tokens).IsChain Apart) :
    restored (front.map Token.kind) tokens = tokens := by
  induction tokens generalizing front with
  | nil => rfl
  | cons t ts ih =>
    have later : restored (some t.kind) ts = ts := ih (some t) h.right_of_append
    have implied : impliedProduct (front.map Token.kind) t.kind 0 = [] := by
      cases front with
      | none => rfl
      | some p => exact impliedProduct_of_apart (List.isChain_cons_cons.mp h).1 0
    rw [restored, implied, later, List.nil_append]

/-- A token that is read from its spelling is shown, in front of those that the text behind it
shows. -/
theorem shown_of_readable {t : Token} (ht : Readable lexicon t) (fits : SignFits previous t)
    {before rest : List Char} (before_blank : ∀ c ∈ before, Text.isBlank c) (ends : Ends rest)
    (h : scanFrom lexicon text previous position (before ++ (t.spelling ++ rest)) = .ok tokens) :
    ∃ (later : Nat) (placed : Token) (behind : List Token), placed.unplaced = t.unplaced ∧
      shown tokens = placed :: shown behind ∧
      scanFrom lexicon text (some t.kind) later rest = .ok behind := by
  rw [scanFrom_blanks before_blank, scanFrom_readable ht fits ends] at h
  obtain ⟨behind, later, last⟩ := bind_eq_ok_iff.mp h
  cases last
  have nonempty : 0 < t.spelling.length := by
    obtain ⟨c, tail, read⟩ := ht
    rw [read.spelling_eq]
    exact Nat.succ_pos tail.length
  refine ⟨_, { t with position := (position + before.length : Nat) }, behind, rfl, ?_, later⟩
  rw [shown_impliedProduct rfl, shown_cons]
  intro u hu
  have := (scanned_of_scanFrom later).pairwise.2 u hu
  dsimp only
  omega

/-- **The tokens that a text shows are those that it was spelled with.** -/
theorem shown_of_spelled {spelled : List Token} (h : Spelled spelled cs)
    (readable : ∀ t ∈ spelled, Readable lexicon t) (fits : SignsFit previous spelled)
    (read : scanFrom lexicon text previous position cs = .ok tokens) :
    (shown tokens).map unplaced = spelled.map unplaced := by
  -- one token at a time: white space, the spelling, and then a blank or the end of the text
  induction h generalizing previous position tokens with
  | blank space_blank =>
    rw [scanFrom_of_blank space_blank] at read
    cases read
    rfl
  | last before_blank behind_blank =>
    obtain ⟨later, placed, behind, same, hshown, read⟩ := shown_of_readable
      (readable _ List.mem_cons_self) fits.1 before_blank
      (fun c hc => behind_blank c (List.mem_of_mem_head? hc)) read
    rw [scanFrom_of_blank behind_blank] at read
    cases read
    rw [hshown, List.map_cons, same]
    rfl
  | more before_blank separator_blank spelled ih =>
    rename_i t next rest before cs separator
    have ends : Ends (separator :: cs) := by
      intro c hc
      cases hc
      exact separator_blank
    obtain ⟨later, placed, behind, same, hshown, read⟩ := shown_of_readable
      (readable _ List.mem_cons_self) fits.1 before_blank ends read
    rw [scanFrom, if_pos separator_blank] at read
    rw [hshown, List.map_cons, List.map_cons, same,
      ih (fun u hu => readable u (List.mem_cons_of_mem t hu)) fits.2 read]

end Scanning

/-- What a text shows is a part of what is read from it. -/
theorem shown_sublist (tokens : List Token) : (shown tokens).Sublist tokens := by
  induction tokens with
  | nil => exact .slnil
  | cons t ts ih =>
    rw [shown]
    split
    · exact ih.cons t
    · exact ih.cons_cons t

/-- **Tokens survive being written down.** However the tokens of a text are spaced when they are
spelled out, the same tokens are read again, and no product is implied any more. -/
theorem scan_of_respelled {lexicon : Lexicon} {text respelled : List Char} {tokens : List Token}
    (h : scan lexicon text = .ok tokens) (spelled : Spelled tokens respelled) :
    ∃ again, scan lexicon respelled = .ok again ∧ again.map unplaced = tokens.map unplaced ∧
      shown again = again := by
  have readable := readable_of_scan h
  have fits := (scanned_of_scanFrom h).signsFit
  -- what is read are the tokens and the products implied between them, of which there are none
  obtain ⟨again, read, same⟩ := readAs_spelled spelled readable fits 0
  rw [show restored none tokens = tokens from restored_of_isChain none (isChain_of_scan h)] at same
  have all_shown : (shown again).map unplaced = again.map unplaced :=
    (shown_of_spelled spelled readable fits read).trans same.symm
  have lengths := congrArg List.length all_shown
  rw [List.length_map, List.length_map] at lengths
  exact ⟨again, read, same, (shown_sublist again).eq_of_length lengths⟩

/-- The sign that `-2x` leaves out is written, and white space put in between. -/
theorem scan_of_respelled_product :
    ∃ again, scan Lexicon.builtin "- 2 *\n x".toList = .ok again ∧
      again.map Token.kind = [.unaryMinus, .number, .operator, .variableName] ∧
      shown again = again := by
  have scanned : scan Lexicon.builtin "-2x".toList =
      .ok [⟨.unaryMinus, "u-", 0, none, none⟩, ⟨.number, "2", 1, some (.integer 2), none⟩,
        ⟨.operator, "*", 2, none, none⟩, ⟨.variableName, "x", 2, none, none⟩] := by
    decide +kernel
  have nothing : ∀ c ∈ ([] : List Char), Text.isBlank c := List.forall_mem_nil _
  have blank : Text.isBlank ' ' := by decide
  have line_end : Text.isBlank '\n' := by decide
  obtain ⟨again, read, same, all_shown⟩ := scan_of_respelled scanned
    (show Spelled _ "- 2 *\n x".toList from .more nothing blank (.more nothing blank
      (.more nothing line_end (.last (List.forall_mem_singleton.mpr blank) nothing))))
  have kinds := congrArg (List.map Token.kind) same
  rw [List.map_map, List.map_map] at kinds
  exact ⟨again, read, kinds, all_shown⟩

end Reckoner.Token
