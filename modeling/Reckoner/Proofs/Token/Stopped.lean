import Reckoner.Proofs.Text.Excerpt
import Reckoner.Proofs.Token.Lexemes
import Reckoner.Proofs.Token.Reading

/-!
Where the scan of a text stops. What a lexeme is depends on nothing behind it but whether the next
character could still belong to it, so everything in front of a character that starts no token is
read, whatever stands behind that character. `Stopped` says what a scan that fails has read, as
`Scanned` does for one that ends well.
-/
namespace Reckoner.Token

/-- The characters of the operators. -/
def operatorChars : List Char :=
  ['+', '-', '*', '/', '^', '%']

/-- Neither white space nor the start of a token, given the characters behind it. -/
structure IsStrange (c : Char) (behind : List Char) : Prop where
  not_blank : ¬ Text.isBlank c
  not_letter : ¬ Text.isLetter c
  not_digit : ¬ c.isDigit
  not_mark : c ∉ ['(', ')', ',']
  not_operator : c ∉ operatorChars
  no_fraction (point : c = '.') : ∀ d ∈ behind.head?, ¬ d.isDigit

theorem isOperatorChar_iff {c : Char} : isOperatorChar c ↔ c ∈ operatorChars := by
  have same : "+-*/^%".toList = operatorChars := by decide
  rw [isOperatorChar, List.contains_iff_mem, same]

section Lexemes

variable {lexicon : Lexicon} {previous : Option Kind} {c : Char} {cs tail behind rest : List Char}
  {kind : Kind}

theorem isStrange_of_lexeme? (not_blank : ¬ Text.isBlank c)
    (h : lexeme? lexicon previous c behind = none) : IsStrange c behind := by
  unfold lexeme? at h
  split_ifs at h with digit point letter left right comma minus operator
  constructor
  · exact not_blank
  · exact letter
  · exact digit
  · simp [left, right, comma]
  · rwa [← isOperatorChar_iff]
  · intro hc d hd hdigit
    apply point
    rw [Option.mem_def] at hd
    simp [hc, hd, hdigit]

theorem IsStrange.lexeme?_eq_none (h : IsStrange c behind) :
    lexeme? lexicon previous c behind = none := by
  have no_point : ¬ (decide (c = '.') && behind.head?.any Char.isDigit) := by
    intro point
    rw [Bool.and_eq_true, decide_eq_true_iff, Option.any_eq_true] at point
    obtain ⟨hc, d, hd, digit⟩ := point
    exact h.no_fraction hc d hd digit
  have no_mark := h.not_mark
  simp only [List.mem_cons, List.not_mem_nil, or_false, not_or] at no_mark
  obtain ⟨left, right, comma⟩ := no_mark
  have minus : c ≠ '-' := by
    rintro rfl
    exact h.not_operator (by decide)
  have operator : ¬ isOperatorChar c := by
    rw [isOperatorChar_iff]
    exact h.not_operator
  rw [lexeme?, if_neg h.not_digit, if_neg no_point, if_neg h.not_letter, if_neg left,
    if_neg right, if_neg comma, if_neg minus, if_neg operator]

/-- What stands behind a character only counts where a numeral or a name starts. -/
theorem lexeme?_congr (no_digit : ¬ c.isDigit) (no_point : c ≠ '.') (no_letter : ¬ Text.isLetter c)
    (cs cs' : List Char) : lexeme? lexicon previous c cs = lexeme? lexicon previous c cs' := by
  simp only [lexeme?, no_digit, no_point, no_letter, decide_false, Bool.false_and,
    Bool.false_eq_true, if_false]

/-- A lexeme is found again if nothing stands behind it any more, or something that starts with the
same character. -/
theorem lexeme?_again (h : lexeme? lexicon previous c (tail ++ behind) = some (kind, tail))
    (same : ∀ d ∈ rest.head?, d ∈ behind.head?) :
    lexeme? lexicon previous c (tail ++ rest) = some (kind, tail) := by
  generalize hcs : tail ++ behind = cs at h
  have again {p : Char → Bool} (ends : ∀ d ∈ behind.head?, ¬ p d) : ∀ d ∈ rest.head?, ¬ p d :=
    fun d hd => ends d (same d hd)
  cases lexeme_of_lexeme? h with
  | number digit =>
    obtain ⟨whole, after, split, whole_digits, ends, kinds⟩ := numeralTail_cases cs
    obtain rfl : behind = after := List.append_cancel_left (hcs.trans split)
    have found := lexeme?_of_isDigit lexicon digit previous (numeralTail cs ++ rest)
    obtain ⟨htail, no_point⟩ | ⟨fraction, htail, fraction_digits⟩ := kinds
    · have no_more : rest.head? ≠ some '.' := fun point => no_point (same '.' point)
      rw [found, htail, numeralTail_of_digits whole_digits (again ends) no_more]
    · rw [found, htail, numeralTail_of_point whole_digits fraction_digits (again ends)]
  | fraction digit =>
    obtain rfl : behind = cs.dropWhile Char.isDigit :=
      List.append_cancel_left (hcs.trans List.takeWhile_append_dropWhile.symm)
    have still_digit : (cs.takeWhile Char.isDigit ++ rest).head?.any Char.isDigit := by
      cases cs with
      | nil => cases digit
      | cons d cs => simp [show d.isDigit from digit]
    rw [lexeme?_of_point lexicon still_digit previous, takeWhile_append_of_head
      (List.all_eq_true.mp List.all_takeWhile) (again not_of_mem_head?_dropWhile)]
  | name letter =>
    obtain rfl : behind = cs.dropWhile isNameChar :=
      List.append_cancel_left (hcs.trans List.takeWhile_append_dropWhile.symm)
    rw [lexeme?_of_isLetter lexicon letter previous, takeWhile_append_of_head
      (List.all_eq_true.mp List.all_takeWhile) (again not_of_mem_head?_dropWhile)]
  | leftParen | rightParen | comma | minus => rfl
  | operator symbol =>
    have plain : ∀ d ∈ operatorChars, ¬ d.isDigit ∧ d ≠ '.' ∧ ¬ Text.isLetter d := by
      simp only [operatorChars, List.forall_mem_cons, List.not_mem_nil, false_implies, implies_true]
      decide
    obtain ⟨no_digit, no_point, no_letter⟩ := plain c (isOperatorChar_iff.mp symbol)
    rw [lexeme?_congr no_digit no_point no_letter ([] ++ rest) cs, h]

end Lexemes

/-- The characters in front of `c` are read, lexeme by lexeme, and `c` starts none. -/
inductive Stopped (lexicon : Lexicon) : Option Kind → List Char → Char → List Char → Prop where
  | strange {previous : Option Kind} {c : Char} {behind : List Char}
      (strange : IsStrange c behind) : Stopped lexicon previous [] c behind
  | blank {previous : Option Kind} {b c : Char} {before behind : List Char}
      (blank : Text.isBlank b) (rest : Stopped lexicon previous before c behind) :
      Stopped lexicon previous (b :: before) c behind
  | lexeme {previous : Option Kind} {d c : Char} {tail before behind : List Char} {kind : Kind}
      (not_blank : ¬ Text.isBlank d)
      (found : lexeme? lexicon previous d (tail ++ (before ++ c :: behind)) = some (kind, tail))
      (rest : Stopped lexicon (some kind) before c behind) :
      Stopped lexicon previous (d :: (tail ++ before)) c behind

section Scanning

variable {lexicon : Lexicon} {text cs before behind other : List Char} {c : Char}
  {previous : Option Kind} {position : Nat}

theorem Stopped.isStrange (h : Stopped lexicon previous before c behind) : IsStrange c behind := by
  induction h with
  | strange strange => exact strange
  | blank _ _ ih => exact ih
  | lexeme _ _ _ ih => exact ih

/-- Behind the character anything may stand that leaves it strange. -/
theorem Stopped.with_behind (h : Stopped lexicon previous before c behind)
    (strange : IsStrange c other) : Stopped lexicon previous before c other := by
  induction h with
  | strange => exact .strange strange
  | blank blank _ ih => exact .blank blank (ih strange)
  | @lexeme _ d c tail before behind kind not_blank found _ ih =>
    refine .lexeme not_blank (lexeme?_again found ?_) (ih strange)
    intro d hd
    cases before <;> exact hd

/-- All in front of the character is read. -/
theorem Stopped.scanFrom_before (h : Stopped lexicon previous before c behind) (text : List Char)
    (position : Nat) : ∃ tokens, scanFrom lexicon text previous position before = .ok tokens := by
  induction h generalizing position with
  | strange => exact ⟨[], scanFrom_nil _ _⟩
  | blank blank _ ih =>
    rw [scanFrom_blank blank]
    exact ih (position + 1)
  | @lexeme previous d c tail before behind kind not_blank found _ ih =>
    have alone : lexeme? lexicon previous d (tail ++ before) = some (kind, tail) := by
      apply lexeme?_again found
      intro e he
      cases before with
      | nil => cases he
      | cons b before => exact he
    obtain ⟨tokens, read⟩ := ih (position + (d :: tail).length)
    rw [scanFrom_lexeme not_blank alone, read]
    exact ⟨_, rfl⟩

/-- The scan fails at the character. -/
theorem Stopped.scanFrom_eq_error (h : Stopped lexicon previous before c behind)
    (text : List Char) (position : Nat) :
    scanFrom lexicon text previous position (before ++ c :: behind) =
      .error (.invalidCharacter text (position + before.length) c) := by
  induction h generalizing position with
  | strange strange =>
    rw [List.nil_append, scanFrom, if_neg strange.not_blank, strange.lexeme?_eq_none]
    rfl
  | blank blank _ ih =>
    rw [List.cons_append, scanFrom_blank blank, ih, List.length_cons, Nat.add_assoc,
      Nat.add_comm 1]
  | @lexeme previous d c tail before behind kind not_blank found _ ih =>
    have place : position + (d :: tail).length + before.length =
        position + (d :: (tail ++ before)).length := by
      simp only [List.length_cons, List.length_append]
      omega
    rw [List.cons_append, List.append_assoc, scanFrom_lexeme not_blank found, ih, place]
    rfl

/-- There is no other way for a scan to fail. -/
theorem stopped_of_scanFrom {fault : SyntaxFault}
    (h : scanFrom lexicon text previous position cs = .error fault) :
    ∃ before c behind, cs = before ++ c :: behind ∧ Stopped lexicon previous before c behind ∧
      fault = .invalidCharacter text (position + before.length) c := by
  fun_induction scanFrom lexicon text previous position cs with
  | case1 => cases h
  | case2 previous position b cs blank ih =>
    obtain ⟨before, c, behind, rfl, stopped, rfl⟩ := ih h
    refine ⟨b :: before, c, behind, rfl, .blank blank stopped, ?_⟩
    rw [List.length_cons, Nat.add_assoc, Nat.add_comm 1]
  | case3 previous position c cs not_blank nothing =>
    cases h
    exact ⟨[], c, cs, rfl, .strange (isStrange_of_lexeme? not_blank nothing), rfl⟩
  | case4 previous position d cs not_blank kind tail found ih =>
    obtain failed | ⟨_, _, last⟩ := bind_eq_error_iff.mp h
    · obtain ⟨before, c, behind, split, stopped, rfl⟩ := ih failed
      obtain ⟨_, ⟨after, rfl⟩, _⟩ := lexeme?_spec found
      rw [List.drop_left] at split
      subst split
      refine ⟨d :: (tail ++ before), c, behind, by simp, .lexeme not_blank found stopped, ?_⟩
      congr 1
      simp only [List.length_cons, List.length_append]
      omega
    · cases last

end Scanning

/-- **A text that cannot be read is refused at its first strange character.** All in front of that
character is read, and the report shows the character, its place, and ten characters on either side.
What stands behind it makes no difference, save for a digit behind a point. -/
theorem invalidCharacter_of_scan {lexicon : Lexicon} {text : List Char} {fault : SyntaxFault}
    (h : scan lexicon text = .error fault) :
    ∃ before c behind, text = before ++ c :: behind ∧
      fault = .invalidCharacter text before.length c ∧
      (∃ tokens, scan lexicon before = .ok tokens) ∧ IsStrange c behind ∧
      fault.report.message =
        "Invalid character: " ++ c.toString ++ " at position " ++ toString before.length ∧
      fault.report.position = some (before.length : Int) ∧
      fault.report.context = some ("..." ++ String.ofList (before.drop (before.length - 10)) ++
        "→" ++ String.ofList [c] ++ "←" ++ String.ofList (behind.take 10) ++ "...") ∧
      ∀ other, (c = '.' → ∀ d ∈ other.head?, ¬ d.isDigit) →
        ∃ fault', scan lexicon (before ++ c :: other) = .error fault' ∧
          fault'.report.message = fault.report.message ∧
          fault'.report.position = fault.report.position := by
  obtain ⟨before, c, behind, rfl, stopped, rfl⟩ := stopped_of_scanFrom h
  rw [Nat.zero_add] at h ⊢
  refine ⟨before, c, behind, rfl, rfl, stopped.scanFrom_before before 0, stopped.isStrange, rfl,
    rfl, congrArg some (Text.excerpt_append before c behind 10), ?_⟩
  intro other fraction
  have strange : IsStrange c other := { stopped.isStrange with no_fraction := fraction }
  have failed := (stopped.with_behind strange).scanFrom_eq_error (before ++ c :: other) 0
  rw [Nat.zero_add] at failed
  exact ⟨_, failed, rfl, rfl⟩

/-- Only the last point starts no numeral, and with a digit behind it it would. -/
theorem invalidCharacter_of_scan_points :
    scan Lexicon.builtin "x1 .5 1..5 1.5.".toList =
        .error (.invalidCharacter "x1 .5 1..5 1.5.".toList 14 '.') ∧
      (∃ tokens, scan Lexicon.builtin "x1 .5 1..5 1.5".toList = .ok tokens) ∧
      ∃ fault, scan Lexicon.builtin "x1 .5 1..5 1.5.) # 2".toList = .error fault ∧
        fault.report.message = "Invalid character: . at position 14" ∧
        fault.report.position = some 14 := by
  have failed : scan Lexicon.builtin "x1 .5 1..5 1.5.".toList =
      .error (.invalidCharacter "x1 .5 1..5 1.5.".toList 14 '.') := by
    decide +kernel
  obtain ⟨before, c, behind, split, same, read, _, _, _, _, others⟩ :=
    invalidCharacter_of_scan failed
  obtain ⟨_, place, rfl⟩ := SyntaxFault.invalidCharacter.inj same
  have front := congrArg (List.take before.length) split
  rw [List.take_left, ← place] at front
  subst front
  have no_digit : ∀ d ∈ ") # 2".toList.head?, ¬ d.isDigit := by
    intro d hd
    cases hd
    decide
  obtain ⟨fault, refused, message, position⟩ := others ") # 2".toList fun _ => no_digit
  exact ⟨failed, read, fault, refused, message, position⟩

end Reckoner.Token
