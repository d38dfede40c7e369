import Reckoner.Proofs.Evaluation.Related
import Reckoner.Proofs.PostOrder.Members
import Reckoner.Proofs.Session.Calculation
import Reckoner.Proofs.Token.Scanned

namespace Reckoner

namespace Bindings

/-- Both names are bound to one and the same undefined number. -/
def isSame (b : Bindings) (m n : String) : Bool :=
  (b.get? m).any fun v => (b.get? n).any fun w => v.isSame w

/-- The place among the random numbers from which the name got its undefined number. -/
def drawnFrom? (b : Bindings) (name : String) : Option Nat :=
  (b.get? name).bind fun v =>
    match v.mark with
    | some (.drawn place) => some place
    | _ => none

/-- Each of the names is bound to the same number in both, or in neither, and those that are bound
to one and the same undefined number in one of them are so in the other. -/
structure AgreeOn (names : List String) (b b' : Bindings) : Prop where
  content_eq : ∀ name ∈ names,
    (b.get? name).map Marked.content = (b'.get? name).map Marked.content
  isSame_eq : ∀ m ∈ names, ∀ n ∈ names, b.isSame m n = b'.isSame m n
  drawnFrom?_eq : ∀ name ∈ names, b.drawnFrom? name = b'.drawnFrom? name

instance (names : List String) (b b' : Bindings) : Decidable (AgreeOn names b b') :=
  decidable_of_iff
    ((∀ name ∈ names, (b.get? name).map Marked.content = (b'.get? name).map Marked.content) ∧
      (∀ m ∈ names, ∀ n ∈ names, b.isSame m n = b'.isSame m n) ∧
      ∀ name ∈ names, b.drawnFrom? name = b'.drawnFrom? name)
    ⟨fun h => ⟨h.1, h.2.1, h.2.2⟩, fun h => ⟨h.content_eq, h.isSame_eq, h.drawnFrom?_eq⟩⟩

variable {names : List String} {b b' : Bindings}

theorem agreeOn_of_get?_eq (h : ∀ name ∈ names, b.get? name = b'.get? name) :
    AgreeOn names b b' where
  content_eq name hname := by rw [h name hname]
  isSame_eq m hm n hn := by rw [isSame, isSame, h m hm, h n hn]
  drawnFrom?_eq name hname := by rw [drawnFrom?, drawnFrom?, h name hname]

/-- The marks of numbers that one of the names is bound to, and those that both evaluations come
by on their own. -/
inductive Marks (names : List String) (b b' : Bindings) : Option Mark → Option Mark → Prop where
  | unmarked : Marks names b b' none none
  | drawn (place : Nat) : Marks names b b' (some (.drawn place)) (some (.drawn place))
  | bound {name : String} {v v' : Marked Value} (named : name ∈ names)
      (left : b.get? name = some v) (right : b'.get? name = some v') :
      Marks names b b' v.mark v'.mark

theorem isSame_of_bound {m n : String} {v w : Marked Value} (hm : b.get? m = some v)
    (hn : b.get? n = some w) : b.isSame m n ↔ v.mark.isSome ∧ v.mark = w.mark := by
  rw [isSame, hm, hn, Option.any_some, Option.any_some, Marked.isSame, Bool.and_eq_true, beq_iff_eq]

theorem drawnFrom?_of_bound {name : String} {v : Marked Value} (h : b.get? name = some v)
    {place : Nat} : b.drawnFrom? name = some place ↔ v.mark = some (.drawn place) := by
  rw [drawnFrom?, h, Option.bind_some]
  split
  · rename_i drawn
    rw [drawn, Option.some.injEq, Option.some.injEq, Mark.drawn.injEq]
  · rename_i other
    exact ⟨nofun, fun drawn => absurd drawn (other place)⟩

variable {m m' n n' : Option Mark}

theorem Marks.drawn_iff (agree : AgreeOn names b b') (h : Marks names b b' m m') (place : Nat) :
    m = some (.drawn place) ↔ m' = some (.drawn place) := by
  cases h with
  | unmarked | drawn => rfl
  | bound named left right =>
    rw [← drawnFrom?_of_bound left, ← drawnFrom?_of_bound right, agree.drawnFrom?_eq _ named]

theorem Marks.same_iff (agree : AgreeOn names b b') (hm : Marks names b b' m m')
    (hn : Marks names b b' n n') : (m.isSome ∧ m = n) ↔ (m'.isSome ∧ m' = n') := by
  cases hm with
  | unmarked => simp
  | drawn place =>
    exact and_congr_right fun _ => eq_comm.trans ((hn.drawn_iff agree place).trans eq_comm)
  | bound named left right =>
    cases hn with
    | unmarked =>
      have never (m : Option Mark) : ¬ (m.isSome ∧ m = none) := by cases m <;> simp
      exact iff_of_false (never _) (never _)
    | drawn place =>
      -- A number that is drawn now may be one that the name has got before.
      have drawn := (Marks.bound named left right).drawn_iff agree place
      constructor
      · rintro ⟨_, here⟩
        exact ⟨by rw [drawn.mp here]; rfl, drawn.mp here⟩
      · rintro ⟨_, here⟩
        exact ⟨by rw [drawn.mpr here]; rfl, drawn.mpr here⟩
    | bound named' left' right' =>
      rw [← isSame_of_bound left left', ← isSame_of_bound right right',
        agree.isSame_eq _ named _ named']

/-- Bindings that agree pair the marks of their numbers. -/
def AgreeOn.pairing (agree : AgreeOn names b b') : Pairing where
  rel := Marks names b b'
  unmarked := .unmarked
  drawn := .drawn
  same_iff := Marks.same_iff agree

theorem AgreeOn.get?_rel (agree : AgreeOn names b b') {name : String} (named : name ∈ names) :
    Option.Rel (Marked.Paired agree.pairing) (b.get? name) (b'.get? name) := by
  have content := agree.content_eq name named
  cases left : b.get? name with
  | none =>
    rw [left, Option.map_none, eq_comm, Option.map_eq_none_iff] at content
    rw [content]
    exact .none
  | some v =>
    rw [left, Option.map_some, eq_comm, Option.map_eq_some_iff] at content
    obtain ⟨v', right, same⟩ := content
    rw [right]
    exact .some ⟨same.symm, .bound named left right⟩

end Bindings

namespace Token

variable {lexicon : Lexicon}

/-- What is read as a variable is neither a function nor a constant. -/
theorem kindOf_of_lexeme? {previous : Option Kind} {c : Char} {cs tail : List Char} {kind : Kind}
    (h : lexeme? lexicon previous c cs = some (kind, tail)) (position : Nat) :
    (ofLexeme kind position (c :: tail)).kind = .variableName →
      lexicon.kindOf (ofLexeme kind position (c :: tail)).lexeme = .variableName := by
  intro hk
  rw [kind_ofLexeme] at hk
  cases lexeme_of_lexeme? h with
  | name =>
    rw [hk]
    exact hk
  | minus =>
    obtain minus | minus := minusKind_eq previous <;> rw [minus] at hk <;> cases hk
  | number | fraction | leftParen | rightParen | comma | operator => cases hk

theorem kindOf_of_scan {text : List Char} {tokens : List Token}
    (h : scan lexicon text = .ok tokens) :
    ∀ t ∈ tokens, t.kind = .variableName → lexicon.kindOf t.lexeme = .variableName :=
  forall_mem_of_scanFrom (fun _ => nofun) kindOf_of_lexeme? h

end Token

namespace Session

open Evaluation

/-- The names of the variables in the expression of a text, if it can be read. -/
def variablesIn (text : String) : List String :=
  match Token.scan Lexicon.builtin (Assignment.chain text.toList).2 with
  | .ok tokens => (tokens.filter fun t => t.kind = .variableName).map Token.lexeme
  | .error _ => []

theorem mem_variablesIn {text name : String} :
    name ∈ variablesIn text ↔
      ∃ tokens, Token.scan Lexicon.builtin (Assignment.chain text.toList).2 = .ok tokens ∧
        ∃ t ∈ tokens, t.kind = .variableName ∧ t.lexeme = name := by
  unfold variablesIn
  cases Token.scan Lexicon.builtin (Assignment.chain text.toList).2 with
  | error fault => simp
  | ok tokens => simp [and_assoc]

theorem kindOf_of_mem_variablesIn {text name : String} (h : name ∈ variablesIn text) :
    Lexicon.builtin.kindOf name = .variableName := by
  obtain ⟨tokens, scanned, t, ht, variable_kind, rfl⟩ := mem_variablesIn.mp h
  exact Token.kindOf_of_scan scanned t ht variable_kind

/-- The variables that are evaluated are those of the expression. -/
theorem mem_variablesIn_of_compile {text : String} {post : List Token}
    (h : compile (Assignment.chain text.toList).2 = .ok post) :
    ∀ t ∈ post, t.kind = .variableName → t.lexeme ∈ variablesIn text := by
  obtain ⟨tokens, scanned, ordered⟩ := bind_eq_ok_iff.mp h
  exact PostOrder.forall_mem_ofTokens (fun _ _ listed => listed) ordered
    fun t ht variable_kind => mem_variablesIn.mpr ⟨tokens, scanned, t, ht, variable_kind, rfl⟩

variable {s s' : Session} {text : String}

theorem together_expressionValue (limit : s.factorialLimit = s'.factorialLimit)
    (agree : Bindings.AgreeOn (variablesIn text) s.bindings s'.bindings) :
    Together (Marked.Paired agree.pairing)
      (expressionValue s.environment (Assignment.chain text.toList).2)
      (expressionValue s'.environment (Assignment.chain text.toList).2) := by
  unfold expressionValue
  cases compiled : compile (Assignment.chain text.toList).2 with
  | error fault =>
    exact Together.bind (R := fun _ _ => False) (together_ofExcept (.error rfl)) fun _ _ => nofun
  | ok post =>
    have envs : PairedAt agree.pairing (· ∈ variablesIn text) s.environment s'.environment :=
      ⟨limit, fun _ => agree.get?_rel⟩
    exact together_value envs (mem_variablesIn_of_compile compiled)

/-- Two sessions that agree on the variables of a text evaluate it in the same way. -/
theorem related_evaluate (limit : s.factorialLimit = s'.factorialLimit)
    (random : s.random = s'.random)
    (agree : Bindings.AgreeOn (variablesIn text) s.bindings s'.bindings) :
    Related Fault.AlikeButHint Eq (s.evaluate text).1 (s'.evaluate text).1 ∧
      (s.evaluate text).2.random = (s'.evaluate text).2.random := by
  obtain ⟨results, later⟩ := together_expressionValue limit agree s.random
  rw [evaluate_fst, evaluate_fst, random_evaluate, random_evaluate]
  refine ⟨Related.map (R := Marked.Paired agree.pairing) ?_ fun _ _ hv => hv.content_eq, ?_⟩
  · rw [expressionOutcome, expressionOutcome, ← random]
    exact results
  · rw [expressionOutcome, expressionOutcome, ← random]
    exact later

/-- **Nothing but the variables of its expression matters to a text.** In two sessions with the same
limit of factorials and the same random numbers that agree on these variables, a text has the same
value, or it fails in the same way but for the suggestion; and it leaves the same random numbers. A
variable that has the name of a function or a constant never matters. -/
theorem evaluate_agrees (text : String) :
    (∀ s s' : Session, s.factorialLimit = s'.factorialLimit → s.random = s'.random →
      Bindings.AgreeOn (variablesIn text) s.bindings s'.bindings →
      Related Fault.AlikeButHint Eq (s.evaluate text).1 (s'.evaluate text).1 ∧
        (s.evaluate text).2.random = (s'.evaluate text).2.random) ∧
    ∀ (s : Session) (b : Bindings),
      (∀ name, Lexicon.builtin.kindOf name = .variableName →
        b.get? name = s.bindings.get? name) →
      Related Fault.AlikeButHint Eq ({ s with bindings := b }.evaluate text).1
        (s.evaluate text).1 := by
  refine ⟨fun s s' => related_evaluate, fun s b unreserved => ?_⟩
  have agree : Bindings.AgreeOn (variablesIn text) b s.bindings :=
    Bindings.agreeOn_of_get?_eq fun name hname =>
      unreserved name (kindOf_of_mem_variablesIn hname)
  let other : Session := { s with bindings := b }
  have limit : other.factorialLimit = s.factorialLimit := rfl
  exact (related_evaluate limit rfl agree).1

/-- A session in which two names are bound to one and the same undefined number. -/
def shared : Session :=
  (((fresh defaultFactorialLimit (.cycle [])).set "x" (.double Binary64.nan)).evaluate "y = x").2

/-- The same with two undefined numbers. -/
def apart : Session :=
  shared.set "y" (.double Binary64.nan)

/-- Two sessions in which all names stand for equal numbers can still be told apart, by whether an
undefined number occurs twice. -/
theorem evaluate_mode_apart :
    shared.factorialLimit = apart.factorialLimit ∧ shared.random = apart.random ∧
      (∀ name, shared.get? name = apart.get? name) ∧
      (shared.evaluate "mode(1, x, y)").1 = .ok (.double Binary64.nan) ∧
      (apart.evaluate "mode(1, x, y)").1 = .ok (.integer 1) := by
  have undefined : shared.get? "y" = some (.double Binary64.nan) := by decide +kernel
  refine ⟨rfl, rfl, fun name => ?_, by decide +kernel, by decide +kernel⟩
  unfold apart set get? Bindings.bind
  rw [Bindings.get?_put]
  split
  · rename_i same
    rw [← same]
    exact undefined
  · rfl

/-- Which names got the undefined number first, and what other variables there are, does not matter.
-/
theorem evaluate_agrees_mode :
    Bindings.AgreeOn (variablesIn "z = mode(1, x, y)") shared.bindings
        ((((shared.clear.set "pi" (.integer 3)).set "y" (.double Binary64.nan)).evaluate
          "x = y").2.bindings) ∧
      Related Fault.AlikeButHint Eq (shared.evaluate "z = mode(1, x, y)").1
        ((((shared.clear.set "pi" (.integer 3)).set "y" (.double Binary64.nan)).evaluate
          "x = y").2.evaluate "z = mode(1, x, y)").1 := by
  have agree : Bindings.AgreeOn (variablesIn "z = mode(1, x, y)") shared.bindings
      ((((shared.clear.set "pi" (.integer 3)).set "y" (.double Binary64.nan)).evaluate
        "x = y").2.bindings) := by
    decide +kernel
  exact ⟨agree, ((evaluate_agrees _).1 _ _ (by decide +kernel) (by decide +kernel) agree).1⟩

end Session

end Reckoner
