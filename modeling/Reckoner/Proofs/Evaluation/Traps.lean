import Reckoner.Proofs.Builtin.Traps
import Reckoner.Proofs.Evaluation.Outcome

namespace Reckoner.Evaluation

section Never

variable {α β : Type}

/-- The computation has no trap that nothing catches. -/
def NeverTraps (m : Evaluation α) : Prop :=
  ∀ random trap later, outcome m random ≠ (.error (.uncaught trap), later)

theorem neverTraps_pure (a : α) : NeverTraps (pure a) := nofun

theorem neverTraps_naming (fault : NameFault) :
    NeverTraps (throw (.naming fault) : Evaluation α) := nofun

theorem neverTraps_structural (fault : StructureFault) :
    NeverTraps (throw (.structural fault) : Evaluation α) := nofun

theorem neverTraps_domain (fault : DomainFault) :
    NeverTraps (throw (.domain fault) : Evaluation α) := nofun

theorem neverTraps_ofExcept {result : Except Fault α} (h : Caught result) :
    NeverTraps (ofExcept result) := by
  intro random trap later hu
  rw [outcome_ofExcept, Prod.mk.injEq] at hu
  exact h trap hu.1

theorem NeverTraps.bind {m : Evaluation α} {f : α → Evaluation β} (h : NeverTraps m)
    (hf : ∀ a, NeverTraps (f a)) : NeverTraps (m >>= f) := by
  intro random trap later hu
  obtain hm | ⟨a, mid, _, hfa⟩ := outcome_bind_eq_error.mp hu
  · exact h _ _ _ hm
  · exact hf a _ _ _ hfa

end Never

theorem areNumbers_nil : AreNumbers [] := List.forall_mem_nil _

theorem AreNumbers.cons {x : Operand} {stack : Stack} (hx : x.content.IsNumber)
    (h : AreNumbers stack) : AreNumbers (x :: stack) :=
  List.forall_mem_cons.mpr ⟨hx, h⟩

theorem isNumber_operand (v : Marked Value) : (operand v).content.IsNumber :=
  ⟨v.content, rfl⟩

/-- A token that stands for a number has a value. -/
def Valued (t : Token) : Prop :=
  t.kind = .number → t.number.isSome

theorem isNumber_numberOf {t : Token} (hk : t.kind = .number) (h : Valued t) :
    (numberOf t).content.IsNumber := by
  obtain ⟨v, hv⟩ := Option.isSome_iff_exists.mp (h hk)
  rw [numberOf, hv]
  exact isNumber_operand _

theorem reckoned_ensures_number (result : Except Fault Value) :
    Ensures (reckoned result) fun x => x.content.IsNumber := by
  exact ensures_bind fun v => ensures_pure ⟨v, rfl⟩

/-- What comes on top of numbers is a number. -/
theorem ensures_numbers_push {m : Evaluation Operand} {stack : Stack} (numbers : AreNumbers stack)
    (h : Ensures m fun x => x.content.IsNumber) :
    Ensures (m >>= fun x => pure (x :: stack)) AreNumbers :=
  h.bind fun _ hx => ensures_pure (AreNumbers.cons hx numbers)

variable (env : Environment)

theorem variableNamed_ensures_number (name : String) :
    Ensures (variableNamed env name) fun x => x.content.IsNumber := by
  unfold variableNamed
  split
  · exact ensures_pure (isNumber_operand _)
  · exact ensures_throw _ _

theorem constantNamed_ensures_number (name : String) :
    Ensures (constantNamed name) fun x => x.content.IsNumber := by
  unfold constantNamed
  split
  · exact ensures_pure (isNumber_operand _)
  · exact ensures_throw _ _

theorem applyBuiltin_ensures_numbers {stack : Stack} (numbers : AreNumbers stack) (t : Token)
    (f : Builtin) : Ensures (applyBuiltin env t f stack) AreNumbers := by
  by_cases missing : stack.length < argumentCount f t
  · rw [applyBuiltin_of_missing env t f missing]
    exact ensures_throw _ _
  by_cases few : argumentCount f t < f.arity.least
  · rw [applyBuiltin_of_tooFew env t f missing few]
    exact ensures_throw _ _
  rw [applyBuiltin_of_enough env t f missing few]
  refine ensures_bind fun v => ?_
  refine ensures_pure (AreNumbers.cons (isNumber_operand v) fun x hx => ?_)
  exact numbers x (List.mem_of_mem_drop hx)

/-- On a stack of numbers a step leaves numbers. -/
theorem step_ensures_numbers {stack : Stack} (numbers : AreNumbers stack) {t : Token}
    (valued : Valued t) : Ensures (step env stack t) AreNumbers := by
  unfold step
  cases hk : t.kind with
  | number => exact ensures_pure (AreNumbers.cons (isNumber_numberOf hk valued) numbers)
  | constant => exact ensures_numbers_push numbers (constantNamed_ensures_number _)
  | variableName => exact ensures_numbers_push numbers (variableNamed_ensures_number env _)
  | unaryMinus =>
    cases stack with
    | nil => exact ensures_throw _ _
    | cons x stack =>
      have rest : AreNumbers stack := (List.forall_mem_cons.mp numbers).2
      exact ensures_numbers_push rest (reckoned_ensures_number _)
  | operator =>
    match stack, numbers with
    | [], _ => exact ensures_throw _ _
    | [_], _ => exact ensures_throw _ _
    | r :: l :: stack, numbers =>
      have rest : AreNumbers stack :=
        (List.forall_mem_cons.mp (List.forall_mem_cons.mp numbers).2).2
      simp only [applyOperator]
      cases Operator.ofSymbol? t.lexeme with
      | none => exact ensures_throw _ _
      | some op => exact ensures_numbers_push rest (reckoned_ensures_number _)
  | function =>
    dsimp only
    unfold applyFunction
    split
    · exact applyBuiltin_ensures_numbers env numbers t _
    · exact ensures_throw _ _
  | leftParen | rightParen | comma => exact ensures_throw _ _

/-- A step on numbers that is no call has no trap. -/
theorem neverTraps_step {stack : Stack} (numbers : AreNumbers stack) {t : Token}
    (hk : t.kind ≠ .function) : NeverTraps (step env stack t) := by
  unfold step
  cases h : t.kind with
  | number => exact neverTraps_pure _
  | constant =>
    refine NeverTraps.bind ?_ fun x => neverTraps_pure _
    unfold constantNamed
    split
    · exact neverTraps_pure _
    · exact neverTraps_naming _
  | variableName =>
    refine NeverTraps.bind ?_ fun x => neverTraps_pure _
    unfold variableNamed
    split
    · exact neverTraps_pure _
    · exact neverTraps_naming _
  | unaryMinus =>
    cases stack with
    | nil => exact neverTraps_structural _
    | cons x stack =>
      obtain ⟨v, hv⟩ := numbers x List.mem_cons_self
      refine NeverTraps.bind ?_ fun y => neverTraps_pure _
      refine (neverTraps_ofExcept ?_).bind fun w => neverTraps_pure _
      rw [hv]
      exact caught_ok _
  | operator =>
    match stack, numbers with
    | [], _ => exact neverTraps_structural _
    | [_], _ => exact neverTraps_structural _
    | r :: l :: stack, numbers =>
      obtain ⟨⟨w, hw⟩, ⟨v, hv⟩, _⟩ :=
        List.forall_mem_cons.mp numbers |>.imp id List.forall_mem_cons.mp
      simp only [applyOperator]
      cases Operator.ofSymbol? t.lexeme with
      | none => exact neverTraps_structural _
      | some op =>
        refine NeverTraps.bind ?_ fun y => neverTraps_pure _
        refine (neverTraps_ofExcept ?_).bind fun w => neverTraps_pure _
        rw [hv, hw, Datum.apply_number]
        exact caught_domain _
  | function => exact absurd h hk
  | leftParen | rightParen | comma => exact neverTraps_structural _

/-- The token calls the variance or the standard deviation on numbers at the top of the stack, of
which a deviation has too large a square. -/
def OverflowsAt (t : Token) (stack : Stack) : Prop :=
  t.kind = .function ∧ (t.lexeme = "variance" ∨ t.lexeme = "stdev") ∧
    ∃ count : Nat, t.argCount = some (count : Int) ∧ 2 ≤ count ∧ count ≤ stack.length ∧
      SpreadOverflows (stack.take count).reverse

/-- The token calls the factorial, and the number at the top of the stack does not fit into a word,
but is admitted by the limit. -/
def WideFactorialAt (limit : Int) (t : Token) (stack : Stack) : Prop :=
  t.kind = .function ∧ t.lexeme = "fact" ∧ WideFactorial limit stack

/-- The token is a call that leads into a trap on this stack. -/
inductive TrapsAt (limit : Int) (t : Token) (stack : Stack) : Trap → Prop where
  | square (overflows : OverflowsAt t stack) : TrapsAt limit t stack .square
  | wideFactorial (wide : WideFactorialAt limit t stack) : TrapsAt limit t stack .wideFactorial

/-- A limit in a word admits no argument that does not fit into one. -/
theorem trapsAt_iff_of_lt {limit : Int} (h : limit < Elementary.wordBound) {t : Token}
    {stack : Stack} {trap : Trap} :
    TrapsAt limit t stack trap ↔ trap = .square ∧ OverflowsAt t stack := by
  constructor
  · intro traps
    cases traps with
    | square overflows => exact ⟨rfl, overflows⟩
    | wideFactorial wide =>
      obtain ⟨_, _, _, _, _, _, _, n, _, hn, within⟩ := wide
      omega
  · rintro ⟨rfl, overflows⟩
    exact .square overflows

/-- A call that gets its arguments gets as many as the function can be written with. -/
theorem admits_argumentCount {f : Builtin} {t : Token}
    (enough : ¬ argumentCount f t < f.arity.least) :
    f.arity.Admits (argumentCount f t).toNat ∧ f.arity.least ≤ (argumentCount f t).toNat := by
  refine ⟨?_, by omega⟩
  unfold argumentCount
  cases f.arity with
  | exactly n => exact Int.toNat_natCast n
  | atLeast n => trivial

/-- Variance and standard deviation take as many values as they are written with, and two at least.
-/
theorem argumentCount_of_isSpread {f : Variadic} (h : f.IsSpread) (t : Token) :
    argumentCount (.variadic f) t = t.argCount.getD 0 ∧ (Builtin.variadic f).arity.least = 2 := by
  obtain rfl | rfl := h <;> exact ⟨rfl, rfl⟩

theorem argCount_eq_of_least {t : Token} {least : Nat} (h : ¬ t.argCount.getD 0 < least)
    (pos : 0 < least) : t.argCount = some ((t.argCount.getD 0).toNat : Int) := by
  cases hc : t.argCount with
  | none =>
    rw [hc, Option.getD_none] at h
    omega
  | some n =>
    rw [hc, Option.getD_some] at h
    rw [Option.getD_some, Int.toNat_of_nonneg (by omega)]

/-- The function that is called gets what it takes, and fails with the trap. -/
theorem exists_trapsOn_of_trapsAt {limit : Int} {t : Token} {stack : Stack} {trap : Trap}
    (h : TrapsAt limit t stack trap) :
    t.kind = .function ∧ ∃ f, Builtin.ofName? t.lexeme = some f ∧
      ¬ stack.length < argumentCount f t ∧ ¬ argumentCount f t < f.arity.least ∧
      f.TrapsOn limit (stack.take (argumentCount f t).toNat).reverse trap := by
  cases h with
  | square overflows =>
    obtain ⟨hk, name, count, hcount, several, present, overflows⟩ := overflows
    obtain ⟨g, hg, spread⟩ : ∃ g, Builtin.ofName? t.lexeme = some (.variadic g) ∧ g.IsSpread := by
      obtain name | name := name
      · exact ⟨.variance, by rw [name]; rfl, .inl rfl⟩
      · exact ⟨.stdev, by rw [name]; rfl, .inr rfl⟩
    obtain ⟨taken, least⟩ := argumentCount_of_isSpread spread t
    rw [hcount, Option.getD_some] at taken
    refine ⟨hk, _, hg, by omega, by omega, .square spread ?_⟩
    rw [taken, Int.toNat_natCast]
    exact overflows
  | wideFactorial wide =>
    obtain ⟨hk, name, x, rest, v, rfl, wide⟩ := wide
    refine ⟨hk, .unary .fact, by rw [name]; rfl, ?_, Int.lt_irrefl 1, ?_⟩
    · change ¬ (((x :: rest).length : Int) < 1)
      rw [List.length_cons]
      omega
    · exact .wideFactorial ⟨x, [], v, rfl, wide⟩

theorem trapsAt_of_trapsOn {limit : Int} {t : Token} {stack : Stack} {trap : Trap}
    (hk : t.kind = .function) {f : Builtin} (hf : Builtin.ofName? t.lexeme = some f)
    (present : ¬ stack.length < argumentCount f t) (enough : ¬ argumentCount f t < f.arity.least)
    (h : f.TrapsOn limit (stack.take (argumentCount f t).toNat).reverse trap) :
    TrapsAt limit t stack trap := by
  have name := (Builtin.name_of_ofName? hf).symm
  cases h with
  | square spread overflows =>
    obtain ⟨taken, least⟩ := argumentCount_of_isSpread spread t
    rw [least, taken] at enough
    rw [taken] at present overflows
    have named : t.lexeme = "variance" ∨ t.lexeme = "stdev" := by
      obtain rfl | rfl := spread
      · exact .inl name
      · exact .inr name
    exact .square ⟨hk, named, _, argCount_eq_of_least enough Nat.two_pos, by omega, by omega,
      overflows⟩
  | wideFactorial wide =>
    obtain ⟨x, rest, v, top, number, wide⟩ := wide
    cases stack with
    | nil => cases top
    | cons y stack =>
      cases top
      exact .wideFactorial ⟨hk, name, _, stack, v, rfl, number, wide⟩

/-- A call fails with a trap where it leads into one. -/
theorem applyBuiltin_eq_uncaught_iff {stack : Stack} (numbers : AreNumbers stack) {t : Token}
    (hk : t.kind = .function) {f : Builtin} (hf : Builtin.ofName? t.lexeme = some f) {trap : Trap}
    {random later : RandomSource} :
    outcome (applyBuiltin env t f stack) random = (.error (.uncaught trap), later) ↔
      later = random ∧ TrapsAt env.factorialLimit t stack trap := by
  by_cases missing : stack.length < argumentCount f t
  · rw [applyBuiltin_of_missing env t f missing]
    refine ⟨fun h => absurd h (neverTraps_structural _ _ _ _), fun ⟨_, traps⟩ => ?_⟩
    obtain ⟨_, g, hg, present, _⟩ := exists_trapsOn_of_trapsAt traps
    cases hf.symm.trans hg
    exact absurd missing present
  by_cases few : argumentCount f t < f.arity.least
  · rw [applyBuiltin_of_tooFew env t f missing few]
    refine ⟨fun h => absurd h (neverTraps_domain _ _ _ _), fun ⟨_, traps⟩ => ?_⟩
    obtain ⟨_, g, hg, _, enough, _⟩ := exists_trapsOn_of_trapsAt traps
    cases hf.symm.trans hg
    exact absurd few enough
  obtain ⟨admits, least⟩ := admits_argumentCount few
  have length : (stack.take (argumentCount f t).toNat).reverse.length =
      (argumentCount f t).toNat := by
    rw [List.length_reverse, List.length_take]
    omega
  have arguments : AreNumbers (stack.take (argumentCount f t).toNat).reverse := fun x hx =>
    numbers x (List.mem_of_mem_take (List.mem_reverse.mp hx))
  have called : outcome (f.call env.factorialLimit (stack.take (argumentCount f t).toNat).reverse)
      random = (.error (.uncaught trap), later) ↔ _ :=
    Builtin.call_eq_uncaught_iff arguments (by rwa [length]) (by rwa [length])
  rw [applyBuiltin_of_enough env t f missing few, outcome_bind_eq_error, called]
  constructor
  · rintro (⟨hlater, traps⟩ | ⟨v, mid, _, h⟩)
    · exact ⟨hlater, trapsAt_of_trapsOn hk hf missing few traps⟩
    · exact absurd h (neverTraps_pure _ _ _ _)
  · rintro ⟨hlater, traps⟩
    obtain ⟨_, g, hg, _, _, failing⟩ := exists_trapsOn_of_trapsAt traps
    cases hf.symm.trans hg
    exact .inl ⟨hlater, failing⟩

/-- **A step into a trap.** On a stack of numbers only a call of the variance, of the standard
deviation or of the factorial can be one. -/
theorem step_eq_uncaught_iff {stack : Stack} (numbers : AreNumbers stack) {t : Token} {trap : Trap}
    {random later : RandomSource} :
    outcome (step env stack t) random = (.error (.uncaught trap), later) ↔
      later = random ∧ TrapsAt env.factorialLimit t stack trap := by
  by_cases hk : t.kind = .function
  · have called : step env stack t = applyFunction env t stack := by rw [step, hk]
    rw [called, applyFunction]
    cases hf : Builtin.ofName? t.lexeme with
    | some f => exact applyBuiltin_eq_uncaught_iff env numbers hk hf
    | none =>
      refine ⟨fun h => absurd h (neverTraps_naming _ _ _ _), fun ⟨_, traps⟩ => ?_⟩
      obtain ⟨_, f, found, _⟩ := exists_trapsOn_of_trapsAt traps
      cases hf.symm.trans found
  · refine ⟨fun h => absurd h (neverTraps_step env numbers hk _ _ _), fun ⟨_, traps⟩ => ?_⟩
    exact absurd (exists_trapsOn_of_trapsAt traps).1 hk

/-- On a stack of numbers all tokens leave numbers. -/
theorem execute_ensures_numbers {stack : Stack} (numbers : AreNumbers stack) {tokens : List Token}
    (valued : ∀ t ∈ tokens, Valued t) : Ensures (execute env stack tokens) AreNumbers := by
  induction tokens generalizing stack with
  | nil => exact ensures_pure numbers
  | cons t tokens ih =>
    obtain ⟨ht, htokens⟩ := List.forall_mem_cons.mp valued
    exact (step_ensures_numbers env numbers ht).bind fun stack hstack => ih hstack htokens

/-- **A run into a trap.** Tokens lead into a trap if one of them is a call that does on the stack
that those before it leave. -/
theorem execute_eq_uncaught_iff {stack : Stack} (numbers : AreNumbers stack) {tokens : List Token}
    (valued : ∀ t ∈ tokens, Valued t) {trap : Trap} {random later : RandomSource} :
    outcome (execute env stack tokens) random = (.error (.uncaught trap), later) ↔
      ∃ before t behind left, tokens = before ++ t :: behind ∧
        outcome (execute env stack before) random = (.ok left, later) ∧
        TrapsAt env.factorialLimit t left trap := by
  induction tokens generalizing stack random with
  | nil =>
    constructor
    · exact fun h => absurd h (neverTraps_pure _ _ _ _)
    · rintro ⟨before, t, behind, _, split, _⟩
      cases before <;> cases split
  | cons t tokens ih =>
    obtain ⟨ht, htokens⟩ := List.forall_mem_cons.mp valued
    have first : execute env stack (t :: tokens) =
        step env stack t >>= fun stack => execute env stack tokens := rfl
    rw [first, outcome_bind_eq_error, step_eq_uncaught_iff env numbers]
    constructor
    · rintro (⟨rfl, traps⟩ | ⟨next, mid, hstep, h⟩)
      · exact ⟨[], t, tokens, stack, rfl, rfl, traps⟩
      · have hnext := step_ensures_numbers env numbers ht _ _ _ hstep
        obtain ⟨before, u, behind, left, rfl, hbefore, traps⟩ := (ih hnext htokens).mp h
        refine ⟨t :: before, u, behind, left, rfl, ?_, traps⟩
        exact (outcome_bind_of_ok hstep _).trans hbefore
    · rintro ⟨before, u, behind, left, split, hbefore, traps⟩
      cases before with
      | nil =>
        cases split
        cases hbefore
        exact Or.inl ⟨rfl, traps⟩
      | cons t' before =>
        cases split
        obtain ⟨next, mid, hstep, hbefore⟩ := outcome_bind_eq_ok.mp hbefore
        have hnext := step_ensures_numbers env numbers ht _ _ _ hstep
        exact Or.inr ⟨next, mid, hstep,
          (ih hnext htokens).mpr ⟨before, u, behind, left, rfl, hbefore, traps⟩⟩

/-- What is left at the end is no trap. -/
theorem value_eq_uncaught_iff {tokens : List Token} (valued : ∀ t ∈ tokens, Valued t) {trap : Trap}
    {random later : RandomSource} :
    outcome (value env tokens) random = (.error (.uncaught trap), later) ↔
      outcome (execute env [] tokens) random = (.error (.uncaught trap), later) := by
  rw [value, outcome_bind_eq_error]
  constructor
  · rintro (h | ⟨stack, mid, hstack, h⟩)
    · exact h
    · have numbers := execute_ensures_numbers env areNumbers_nil valued _ _ _ hstack
      match stack, numbers, h with
      | [x], numbers, h =>
        have part := Datum.caught_withPart (numbers x List.mem_cons_self) "describe"
        exact absurd h ((neverTraps_ofExcept part).bind (fun _ => neverTraps_pure _) _ _ _)
      | [], _, h => exact absurd h (neverTraps_structural _ _ _ _)
      | _ :: _ :: _, _, h => exact absurd h (neverTraps_structural _ _ _ _)
  · exact Or.inl

end Reckoner.Evaluation
