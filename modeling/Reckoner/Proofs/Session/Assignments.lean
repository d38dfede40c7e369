import Reckoner.Proofs.Session.Calculation
import Reckoner.Proofs.Session.Parts
import Reckoner.Proofs.Token.Lexemes

namespace Reckoner

namespace Assignment

/-- The text in front of the sign. -/
def Parts.left (p : Parts) : List Char :=
  p.before ++ (p.name.toList ++ p.between)

theorem Parts.text_eq (p : Parts) : p.text = p.left ++ '=' :: p.right := by
  rw [text, left, List.append_assoc, List.append_assoc]

theorem equals_not_mem_of_blank {cs : List Char} (h : ∀ c ∈ cs, Text.isBlank c) : '=' ∉ cs := by
  intro mem
  exact absurd (h '=' mem) (by decide)

theorem Parts.equals_not_mem_left (p : Parts) : '=' ∉ p.left := by
  rw [left, List.mem_append, List.mem_append]
  rintro (mem | mem | mem)
  · exact equals_not_mem_of_blank p.before_blank mem
  · exact absurd (p.isNamePart_of_mem_name '=' mem) (by decide)
  · exact equals_not_mem_of_blank p.between_blank mem

/-- Only white space of the right side is left out. -/
theorem Parts.exists_right_eq (p : Parts) :
    ∃ blanks, (∀ c ∈ blanks, Text.isBlank c) ∧ p.right = blanks ++ p.body := by
  unfold body
  split
  · rename_i blank
    refine ⟨p.right.dropLast, fun c hc => ?_, (List.dropLast_append_getLast p.right_ne_nil).symm⟩
    exact List.all_eq_true.mp blank c ((List.dropLast_sublist _).mem hc)
  · exact ⟨p.right.takeWhile Text.isBlank, List.all_eq_true.mp List.all_takeWhile,
      List.takeWhile_append_dropWhile.symm⟩

theorem Parts.body_suffix (p : Parts) : p.body <:+ p.text := by
  obtain ⟨blanks, _, hright⟩ := p.exists_right_eq
  rw [p.text_eq, hright]
  exact ⟨p.left ++ '=' :: blanks, by simp⟩

/-- The text is that many assignments, each in the right side of the one before, around an
expression. -/
inductive Nested : List Char → List Parts → List Char → Prop where
  | expression {cs : List Char} (no_parts : ∀ p : Parts, p.text ≠ cs) : Nested cs [] cs
  | assignment {p : Parts} {cs expression : List Char} {ps : List Parts} (text : p.text = cs)
      (inner : Nested p.body ps expression) : Nested cs (p :: ps) expression

theorem exists_nested (cs : List Char) :
    ∃ ps, Nested cs ps (chain cs).2 ∧ ps.map Parts.name = (chain cs).1 := by
  fun_induction chain cs with
  | case1 cs found => exact ⟨[], .expression (split?_eq_none_iff.mp found), rfl⟩
  | case2 cs name right found names body rest ih =>
    obtain ⟨p, text, rfl, rfl⟩ := exists_parts found
    obtain ⟨ps, inner, named⟩ := ih
    rw [rest] at inner named
    exact ⟨p :: ps, .assignment text inner, by rw [List.map_cons, named]⟩

theorem Nested.unique {cs expression expression' : List Char} {ps ps' : List Parts}
    (h : Nested cs ps expression) (h' : Nested cs ps' expression') :
    ps' = ps ∧ expression' = expression := by
  induction h generalizing ps' with
  | expression no_parts =>
    cases h' with
    | expression => exact ⟨rfl, rfl⟩
    | assignment text => exact absurd text (no_parts _)
  | assignment text _ ih =>
    cases h' with
    | expression no_parts => exact absurd text (no_parts _)
    | assignment text' inner' =>
      obtain rfl := Parts.eq_of_text_eq (text.trans text'.symm)
      obtain ⟨rfl, rfl⟩ := ih inner'
      exact ⟨rfl, rfl⟩

/-- If the expression has no sign of an assignment, each sign in the text is the one of an
assignment around it. -/
theorem Nested.exists_of_equals {cs expression : List Char} {ps : List Parts}
    (h : Nested cs ps expression) (no_sign : '=' ∉ expression) {before after : List Char}
    (split : cs = before ++ '=' :: after) : ∃ p ∈ ps, p.text <:+ cs ∧ p.right = after := by
  induction h generalizing before with
  | expression =>
    rw [split] at no_sign
    exact absurd (List.mem_append_right before List.mem_cons_self) no_sign
  | assignment text inner ih =>
    rename_i p cs expression ps
    subst text
    rw [p.text_eq] at split
    obtain ⟨more, _, behind⟩ := Token.exists_append_of_not_mem split p.equals_not_mem_left
    cases more with
    | nil => exact ⟨p, List.mem_cons_self, List.suffix_rfl, (List.cons.inj behind).2⟩
    | cons d more =>
      -- the sign is no blank of the right side, so that it stands in what is evaluated
      obtain ⟨blanks, blank, hright⟩ := p.exists_right_eq
      have inside := (List.cons.inj behind).2
      rw [hright] at inside
      obtain ⟨_, _, hbody⟩ :=
        Token.exists_append_of_not_mem inside (equals_not_mem_of_blank blank)
      obtain ⟨q, hq, suffix, same⟩ := ih no_sign hbody
      exact ⟨q, List.mem_cons_of_mem p hq, suffix.trans p.body_suffix, same⟩

end Assignment

namespace Session

open Assignment

/-- What the evaluation of an assignment makes of the one of its right side: only if that has a
number, this is bound to the name. -/
structure Assigns (name : String) (inner outer : Except Fault Value × Session) : Prop where
  fails {fault : Fault} (h : inner.1 = .error fault) : outer = inner
  outcome {v : Value} (h : inner.1 = .ok v) : outer.1 = .ok v
  binds {v : Value} (h : inner.1 = .ok v) (other : String) :
    outer.2.get? other = if name = other then some v else inner.2.get? other
  only_binds : outer.2 = { inner.2 with bindings := outer.2.bindings }

theorem assigns_of_error {name : String} {fault : Fault} {failed : Except Fault Value × Session}
    (h : failed.1 = .error fault) : Assigns name failed failed where
  fails _ := rfl
  outcome ok := by cases h.symm.trans ok
  binds ok := by cases h.symm.trans ok
  only_binds := rfl

theorem assigns_of_text (s : Session) {text : String} {p : Parts} (h : p.text = text.toList) :
    Assigns p.name (s.evaluate (String.ofList p.body)) (s.evaluate text) := by
  have whole := s.calculate_of_some (h ▸ p.split?_text)
  have body : s.evaluate (String.ofList p.body) =
      ((s.calculate p.body).1.map Marked.content, (s.calculate p.body).2) := by
    rw [evaluate, String.toList_ofList]
  cases inner : s.calculate p.body with
  | mk result later =>
    rw [inner] at whole body
    cases result with
    | error fault =>
      have same : s.evaluate text = s.evaluate (String.ofList p.body) := by
        rw [body, evaluate, whole]
      have failed : (s.evaluate (String.ofList p.body)).1 = .error fault := by
        rw [body]
        rfl
      rw [same]
      exact assigns_of_error failed
    | ok w =>
      have same : s.evaluate text =
          (.ok w.content, { later with bindings := later.bindings.put p.name w }) := by
        rw [evaluate, whole]
        exact congrArg (fun v => (Except.ok v, _)) (later.bindings.content_kept w)
      have number {v : Value} (ok : (s.evaluate (String.ofList p.body)).1 = .ok v) :
          w.content = v := by
        rw [body] at ok
        exact Except.ok.inj ok
      refine ⟨fun failed => ?_, fun ok => ?_, fun ok name => ?_, ?_⟩
      · rw [body] at failed
        cases failed
      · rw [same, number ok]
      · rw [same, body, ← number ok]
        simp only [get?, Bindings.get?_put]
        split
        · rw [Option.map_some, Bindings.content_kept]
        · rfl
      · rw [same, body]

/-- Where there is room for all names, what a text comes to does not depend on the room. -/
theorem evaluateWithin_of_le (s : Session) {text : String} {room : Nat}
    (h : (chain text.toList).1.length ≤ room) : s.evaluateWithin room text = s.evaluate text :=
  if_pos h

theorem evaluateWithin_of_lt (s : Session) {text : String} {room : Nat}
    (h : room < (chain text.toList).1.length) :
    s.evaluateWithin room text = (.error (.uncaught .tooDeep), s) :=
  if_neg (Nat.not_le.mpr h)

/-- An assignment takes one place more than its right side. -/
theorem assigns_within (s : Session) (room : Nat) {text : String} {p : Parts}
    (h : p.text = text.toList) :
    Assigns p.name (s.evaluateWithin room (String.ofList p.body))
      (s.evaluateWithin (room + 1) text) := by
  have names : (chain text.toList).1.length =
      (chain (String.ofList p.body).toList).1.length + 1 := by
    rw [String.toList_ofList, ← h, chain_of_some p.split?_text, List.length_cons]
  obtain tooDeep | fits := Nat.lt_or_ge room (chain (String.ofList p.body).toList).1.length
  · rw [s.evaluateWithin_of_lt tooDeep, s.evaluateWithin_of_lt (by omega)]
    exact assigns_of_error rfl
  · rw [s.evaluateWithin_of_le fits, s.evaluateWithin_of_le (by omega)]
    exact s.assigns_of_text h

/-- A text that is no assignment is evaluated as an expression, and binds nothing. -/
theorem evaluateWithin_of_no_parts (s : Session) (room : Nat) {text : String}
    (h : ∀ p : Parts, p.text ≠ text.toList) :
    s.evaluateWithin room text =
      ((s.expressionOutcome text.toList).1.map Marked.content,
        { s with random := (s.expressionOutcome text.toList).2 }) := by
  have no_assignment : split? text.toList = none := split?_eq_none_iff.mpr h
  rw [s.evaluateWithin_of_le (by rw [chain_of_none no_assignment]; exact Nat.zero_le room),
    evaluate, s.calculate_of_none no_assignment]

/-- A sign of an assignment in the expression behind all names is a fault of the syntax. -/
theorem exists_syntactic_of_equals (s : Session) {text : String}
    (h : '=' ∈ (chain text.toList).2) :
    ∃ fault, (s.evaluate text).1 = .error (.syntactic fault) := by
  cases scanned : Token.scan Lexicon.builtin (chain text.toList).2 with
  | error fault =>
    refine ⟨fault, (s.evaluate_eq_error_iff text).mpr ⟨s.random, ?_⟩⟩
    rw [expressionOutcome, expressionValue, compile, scanned]
    rfl
  | ok tokens => exact absurd h (Token.equals_not_mem_of_scan scanned)

/-- **Assignments.** A text is evaluated as an assignment if and only if it has the parts of one,
which are what the pattern finds; it has them in one way only, and what is left to evaluate is
shorter. Taken apart again and again, the text comes to an expression. If there are more assignments
around that than there is room for, nothing is evaluated, and the trap gets through. Otherwise a
sign of an assignment that is left in the expression is a fault of the syntax, so that in a text
that has a number every sign is the one of an assignment. -/
theorem evaluate_assignments (text : String) :
    (∀ name body, groups? text.toList = some (name, body) ↔
      ∃ p : Parts, p.text = text.toList ∧ p.name = name ∧ p.body = body) ∧
    (∀ p q : Parts, p.text = text.toList → q.text = text.toList → p = q) ∧
    (∀ p : Parts, p.text = text.toList → p.body.length < text.toList.length ∧
      ∀ (s : Session) (room : Nat),
        Assigns p.name (s.evaluateWithin room (String.ofList p.body))
          (s.evaluateWithin (room + 1) text)) ∧
    ((∀ p : Parts, p.text ≠ text.toList) → ∀ (s : Session) (room : Nat),
      s.evaluateWithin room text =
        ((s.expressionOutcome text.toList).1.map Marked.content,
          { s with random := (s.expressionOutcome text.toList).2 })) ∧
    ∃ ps expression, Nested text.toList ps expression ∧
      (∀ ps' expression', Nested text.toList ps' expression' →
        ps' = ps ∧ expression' = expression) ∧
      ∀ (s : Session) (room : Nat),
        (room < ps.length → s.evaluateWithin room text = (.error (.uncaught .tooDeep), s)) ∧
        (ps.length ≤ room → s.evaluateWithin room text = s.evaluate text ∧
          ('=' ∈ expression →
            ∃ fault, (s.evaluateWithin room text).1 = .error (.syntactic fault))) ∧
        ∀ v, (s.evaluateWithin room text).1 = .ok v →
          ∀ before after, text.toList = before ++ '=' :: after →
            ∃ p ∈ ps, p.text <:+ text.toList ∧ p.right = after := by
  refine ⟨fun name body => ?_, fun p q hp hq => Parts.eq_of_text_eq (hp.trans hq.symm),
    fun p hp => ⟨?_, fun s room => s.assigns_within room hp⟩,
    fun h s room => s.evaluateWithin_of_no_parts room h, ?_⟩
  · rw [groups?_eq_split?]
    exact split?_eq_some_iff
  · exact length_lt_of_split? (hp ▸ p.split?_text)
  obtain ⟨ps, nested, named⟩ := exists_nested text.toList
  have length : (chain text.toList).1.length = ps.length := by rw [← named, List.length_map]
  refine ⟨ps, _, nested, fun _ _ other => nested.unique other, fun s room => ?_⟩
  obtain tooDeep | fits := Nat.lt_or_ge room ps.length
  · rw [s.evaluateWithin_of_lt (by omega)]
    refine ⟨fun _ => rfl, fun fits => absurd fits (Nat.not_le.mpr tooDeep), fun v ok => ?_⟩
    cases ok
  · have same : s.evaluateWithin room text = s.evaluate text := s.evaluateWithin_of_le (by omega)
    rw [same]
    refine ⟨fun tooDeep => absurd fits (Nat.not_le.mpr tooDeep),
      fun _ => ⟨rfl, s.exists_syntactic_of_equals⟩, fun v ok before after split => ?_⟩
    refine nested.exists_of_equals (fun mem => ?_) split
    obtain ⟨fault, failed⟩ := s.exists_syntactic_of_equals mem
    cases failed.symm.trans ok

/-- The second sign in `x == 3` is left in the expression. -/
theorem evaluate_assignments_left_over :
    ∃ fault, ((fresh defaultFactorialLimit (.cycle [])).evaluateWithin defaultRoom "x == 3").1 =
      .error (.syntactic fault) := by
  obtain ⟨_, _, _, _, ps, expression, _, unique, outcomes⟩ := evaluate_assignments "x == 3"
  let p : Parts := {
    before := []
    name := "x"
    between := [' ']
    right := ['=', ' ', '3']
    before_blank := List.forall_mem_nil _
    named := ⟨'x', [], by decide, by decide, List.forall_mem_nil _⟩
    between_blank := List.forall_mem_singleton.mpr (by decide)
    right_ne_nil := List.cons_ne_nil _ _ }
  have inner : Nested p.body [] ['=', ' ', '3'] :=
    .expression (split?_eq_none_iff.mp (by decide +kernel))
  have text : p.text = "x == 3".toList := by decide
  obtain ⟨rfl, rfl⟩ := unique [p] _ (.assignment text inner)
  exact ((outcomes _ _).2.1 (by decide)).2 List.mem_cons_self

/-- One name is assigned to that many times, and a sign is left over. -/
def repeated (n : Nat) : List Char :=
  (List.replicate n ['a', '=']).flatten ++ ['=', '1']

theorem chain_repeated (n : Nat) : chain (repeated n) = (List.replicate n "a", ['=', '1']) := by
  induction n with
  | zero => exact chain_of_none (by decide +kernel)
  | succ n ih =>
    have found : split? (repeated (n + 1)) = some ("a", repeated n) := by
      cases n <;> rfl
    rw [chain_of_some found, ih, List.replicate_succ]

/-- A sign is left over behind a thousand names, but there is no room to come to it. -/
theorem evaluateWithin_repeated_uncaught :
    '=' ∈ (chain (String.ofList (repeated 1000)).toList).2 ∧
    ((fresh defaultFactorialLimit (.cycle [])).evaluateWithin defaultRoom
      (String.ofList (repeated 1000))).1 = .error (.uncaught .tooDeep) := by
  rw [evaluateWithin_of_lt, String.toList_ofList, chain_repeated]
  · exact ⟨List.mem_cons_self, rfl⟩
  · rw [String.toList_ofList, chain_repeated, List.length_replicate]
    decide

end Session

end Reckoner
