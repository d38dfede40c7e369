import Reckoner.Proofs.Evaluation.Faults

/-!
The shape of tokens in post-order. How many operands each token needs and how many it leaves tells
the height of the stack all along, before anything is evaluated, and with it whether the structure
of the expression is at fault, and where.
-/
namespace Reckoner.Evaluation

open Token

/-- The height of the stack behind a token, if the stack is high enough for it. -/
def heightAfter? (height : Int) (t : Token) : Option Int :=
  if height < needed t then none else some (height + growth t)

/-- The height of the stack behind tokens, if it is always high enough. -/
def heightBehind? (height : Int) (ts : List Token) : Option Int :=
  ts.foldlM heightAfter? height

theorem heightBehind?_cons (height : Int) (t : Token) (ts : List Token) :
    heightBehind? height (t :: ts) =
      heightAfter? height t >>= fun height => heightBehind? height ts := rfl

theorem heightAfter?_eq_some {height next : Int} {t : Token} :
    heightAfter? height t = some next ↔ needed t ≤ height ∧ next = height + growth t := by
  unfold heightAfter?
  split
  · simp only [reduceCtorEq, false_iff]
    omega
  · simp only [Option.some.injEq]
    omega

theorem heightBehind?_cons_eq_some {height last : Int} {t : Token} {ts : List Token} :
    heightBehind? height (t :: ts) = some last ↔
      needed t ≤ height ∧ heightBehind? (height + growth t) ts = some last := by
  rw [heightBehind?_cons, Option.bind_eq_bind, Option.bind_eq_some_iff]
  constructor
  · rintro ⟨next, first, rest⟩
    obtain ⟨high, rfl⟩ := heightAfter?_eq_some.mp first
    exact ⟨high, rest⟩
  · rintro ⟨high, rest⟩
    exact ⟨_, heightAfter?_eq_some.mpr ⟨high, rfl⟩, rest⟩

/-- Tokens without a height behind them have a first one for which the stack is too low. -/
theorem exists_low_of_heightBehind? {height : Int} {ts : List Token}
    (h : heightBehind? height ts = none) :
    ∃ before t behind low, ts = before ++ t :: behind ∧
      heightBehind? height before = some low ∧ low < needed t := by
  induction ts generalizing height with
  | nil => cases h
  | cons t ts ih =>
    by_cases low : height < needed t
    · exact ⟨[], t, ts, height, rfl, rfl, low⟩
    · have first : heightAfter? height t = some (height + growth t) := if_neg low
      rw [heightBehind?_cons, first] at h
      obtain ⟨before, u, behind, last, rfl, reached, starved⟩ := ih h
      refine ⟨t :: before, u, behind, last, rfl, ?_, starved⟩
      exact heightBehind?_cons_eq_some.mpr ⟨Int.not_lt.mp low, reached⟩

variable (env : Environment) {stack : Stack} {ts : List Token}

theorem kind_of_ofOperands {fault : Fault} (h : fault.OfOperands) : fault.kind ≠ .structural := by
  cases fault <;> simp_all [Fault.OfOperands, Fault.kind]

/-- A step for which the stack is high enough does not fail for the structure. -/
theorem step_stopsWith_of_high {t : Token} (instruction : t.isInstruction)
    (high : needed t ≤ stack.length) :
    StopsWith (fun fault => fault.kind ≠ .structural) (step env stack t) := by
  refine (step_stopsWith env instruction).mono fun fault reason => ?_
  cases reason with
  | shortage low => exact absurd low (Int.not_lt.mpr high)
  | undefinedVariable | unknownConstant => simp [Fault.kind]
  | operands _ blamed => exact kind_of_ofOperands blamed

/-- Where the stack is always high enough, tokens do not fail for the structure. -/
theorem execute_stopsWith_of_height (instructions : ∀ t ∈ ts, t.isInstruction) {last : Int}
    (h : heightBehind? stack.length ts = some last) :
    StopsWith (fun fault => fault.kind ≠ .structural) (execute env stack ts) := by
  induction ts generalizing stack with
  | nil => exact stopsWith_pure _
  | cons t ts ih =>
    obtain ⟨instruction, later⟩ := List.forall_mem_cons.mp instructions
    obtain ⟨high, rest⟩ := heightBehind?_cons_eq_some.mp h
    rw [execute_cons]
    refine (step_stopsWith_of_high env instruction high).bind_of_ensures
      (step_ensures_higher env) fun next higher => ih later ?_
    have height : (next.length : Int) = stack.length + growth t := higher
    rw [height, rest]

/-- A run that is not stopped leaves the stack as high as the tokens tell. -/
theorem length_of_execute {last : Int} (h : heightBehind? stack.length ts = some last)
    {random later : RandomSource} {next : Stack}
    (ran : outcome (execute env stack ts) random = (.ok next, later)) :
    (next.length : Int) = last := by
  induction ts generalizing stack random with
  | nil =>
    cases ran
    exact Option.some.inj h
  | cons t ts ih =>
    obtain ⟨_, rest⟩ := heightBehind?_cons_eq_some.mp h
    obtain ⟨mid, between, first, second⟩ := outcome_bind_eq_ok.mp ran
    have height : (mid.length : Int) = stack.length + growth t :=
      step_ensures_higher env _ _ _ first
    exact ih (height ▸ rest) second

/-- The tokens stop before they come to anything behind them, and not for the structure. -/
def StopsEarlier (before ts : List Token) (random : RandomSource) : Prop :=
  ∃ fault later, fault.kind ≠ .structural ∧
    outcome (execute env [] before) random = (.error fault, later) ∧
    outcome (value env ts) random = (.error fault, later)

theorem outcome_value_of_stopped {before behind : List Token} {random later : RandomSource}
    {fault : Fault} (stopped : outcome (execute env [] before) random = (.error fault, later)) :
    outcome (value env (before ++ behind)) random = (.error fault, later) := by
  rw [value, execute_append]
  exact outcome_bind_of_error (outcome_bind_of_error stopped _) _

/-- Tokens that the stack is always high enough for are stopped earlier or all executed. -/
theorem stopsEarlier_or_executed {before : List Token} (behind : List Token)
    (instructions : ∀ t ∈ before, t.isInstruction) {height : Int}
    (h : heightBehind? 0 before = some height) (random : RandomSource) :
    StopsEarlier env before (before ++ behind) random ∨
      ∃ stack later, outcome (execute env [] before) random = (.ok stack, later) ∧
        (stack.length : Int) = height := by
  have start : heightBehind? (([] : Stack).length : Int) before = some height := h
  cases ran : outcome (execute env [] before) random with
  | mk result later =>
    cases result with
    | error fault =>
      have other := execute_stopsWith_of_height env instructions start _ _ _ ran
      exact Or.inl ⟨fault, later, other, ran, outcome_value_of_stopped env ran⟩
    | ok stack => exact Or.inr ⟨stack, later, rfl, length_of_execute env start ran⟩

/-- At the first token for which the stack is too low, that is the fault. -/
theorem value_of_low {before behind : List Token} {t : Token}
    (instructions : ∀ u ∈ before ++ t :: behind, u.isInstruction) {height : Int}
    (h : heightBehind? 0 before = some height) (low : height < needed t) (random : RandomSource) :
    StopsEarlier env before (before ++ t :: behind) random ∨
      ∃ (available : Nat) (later : RandomSource), (available : Int) = height ∧
        outcome (value env (before ++ t :: behind)) random =
          (.error (.structural (shortage t available)), later) := by
  obtain ⟨front, rest⟩ := List.forall_mem_append.mp instructions
  obtain ⟨instruction, _⟩ := List.forall_mem_cons.mp rest
  obtain stopped | ⟨stack, later, ran, length⟩ := stopsEarlier_or_executed env _ front h random
  · exact Or.inl stopped
  · refine Or.inr ⟨stack.length, later, length, ?_⟩
    have starved := step_of_low env instruction (length ▸ low)
    have executed : outcome (execute env [] (before ++ t :: behind)) random =
        (.error (.structural (shortage t stack.length)), later) := by
      rw [execute_append, outcome_bind_of_ok ran, execute_cons, starved, throw_bind]
      rfl
    rw [value]
    exact outcome_bind_of_error executed _

/-- At the end anything but one operand is the fault. -/
theorem value_of_height (instructions : ∀ t ∈ ts, t.isInstruction) {height : Int}
    (h : heightBehind? 0 ts = some height) (not_one : height ≠ 1) (random : RandomSource) :
    StopsEarlier env ts ts random ∨
      ∃ (left : Nat) (later : RandomSource), (left : Int) = height ∧
        outcome (value env ts) random = (.error (.structural (.notOneValue left)), later) := by
  obtain stopped | ⟨stack, later, ran, length⟩ :=
    stopsEarlier_or_executed env [] instructions h random
  · rw [List.append_nil] at stopped
    exact Or.inl stopped
  · refine Or.inr ⟨stack.length, later, length, ?_⟩
    rw [value, outcome_bind_of_ok ran]
    match stack with
    | [] | _ :: _ :: _ => rfl
    | [x] =>
      rw [List.length_singleton] at length
      omega

theorem StopsEarlier.not_ok {before : List Token} {random : RandomSource}
    (h : StopsEarlier env before ts random) (v : Marked Value) (later : RandomSource) :
    outcome (value env ts) random ≠ (.ok v, later) := by
  obtain ⟨fault, other, _, _, stopped⟩ := h
  rw [stopped]
  nofun

/-- Tokens whose shape is that of one value are never at fault for their structure. -/
theorem value_stopsWith_of_height (instructions : ∀ t ∈ ts, t.isInstruction)
    (h : heightBehind? 0 ts = some 1) :
    StopsWith (fun fault => fault.kind ≠ .structural) (value env ts) := by
  have start : heightBehind? (([] : Stack).length : Int) ts = some 1 := h
  have executed := execute_stopsWith_of_height env instructions start
  intro random fault later stopped
  obtain first | ⟨stack, mid, ran, last⟩ := outcome_bind_eq_error.mp stopped
  · exact executed _ _ _ first
  · have length := length_of_execute env start ran
    match stack with
    | [x] => exact kind_of_ofOperands (stopsWith_result x _ _ _ last)
    | [] | _ :: _ :: _ =>
      simp only [List.length_cons, List.length_nil] at length
      omega

/-- **The structure is decided by the shape alone.** If the stack is always high enough and is left
with one operand, the structure is not at fault, whatever the values are. Otherwise there is no
value, and unless the tokens in front stop for another reason, the fault is a shortage at the first
token for which the stack is too low, or, if there is none, the number of operands that are left. -/
theorem value_of_shape (instructions : ∀ t ∈ ts, t.isInstruction) (random : RandomSource) :
    (heightBehind? 0 ts = some 1 → ∀ fault later,
      outcome (value env ts) random = (.error fault, later) → fault.kind ≠ .structural) ∧
    (heightBehind? 0 ts ≠ some 1 → ∀ v later,
      outcome (value env ts) random ≠ (.ok v, later)) ∧
    (∀ before t behind height, ts = before ++ t :: behind →
      heightBehind? 0 before = some height → height < needed t →
      StopsEarlier env before ts random ∨
        ∃ (available : Nat) (later : RandomSource), (available : Int) = height ∧
          outcome (value env ts) random =
            (.error (.structural (shortage t available)), later) ∧
          (shortage t available).report.position = some t.position) ∧
    (∀ height, heightBehind? 0 ts = some height → height ≠ 1 →
      StopsEarlier env ts ts random ∨
        ∃ (left : Nat) (later : RandomSource), (left : Int) = height ∧
          outcome (value env ts) random = (.error (.structural (.notOneValue left)), later)) := by
  refine ⟨fun one => value_stopsWith_of_height env instructions one random, ?_, ?_, ?_⟩
  · intro not_one v later
    cases h : heightBehind? 0 ts with
    | none =>
      obtain ⟨before, t, behind, low, rfl, reached, starved⟩ := exists_low_of_heightBehind? h
      obtain stopped | ⟨available, other, _, failed⟩ :=
        value_of_low env instructions reached starved random
      · exact stopped.not_ok env v later
      · rw [failed]
        nofun
    | some height =>
      have different : height ≠ 1 := fun same => not_one (same ▸ h)
      obtain stopped | ⟨left, other, _, failed⟩ :=
        value_of_height env instructions h different random
      · exact stopped.not_ok env v later
      · rw [failed]
        nofun
  · rintro before t behind height rfl reached low
    obtain stopped | ⟨available, later, same, failed⟩ :=
      value_of_low env instructions reached low random
    · exact Or.inl stopped
    · exact Or.inr ⟨available, later, same, failed, position_shortage t available⟩
  · exact fun height reached not_one => value_of_height env instructions reached not_one random

/-- A call that is written with three arguments finds two. -/
theorem value_of_shape_starved :
    ∃ later, outcome (value ⟨170, .empty⟩
        [⟨.number, "1", 0, some (.integer 1), none⟩, ⟨.number, "2", 2, some (.integer 2), none⟩,
          ⟨.function, "max", 4, none, some 3⟩, ⟨.operator, "+", 7, none, none⟩]) (.cycle []) =
      (.error (.structural (.missingArguments "max" 4 2 3)), later) := by
  have instructions : ∀ t ∈ [⟨.number, "1", 0, some (.integer 1), none⟩,
      ⟨.number, "2", 2, some (.integer 2), none⟩, ⟨.function, "max", 4, none, some 3⟩,
      ⟨.operator, "+", 7, none, none⟩], isInstruction t := by
    decide
  obtain ⟨_, _, starved, _⟩ := value_of_shape ⟨170, .empty⟩ instructions (.cycle [])
  obtain ⟨fault, later, _, stopped, _⟩ | ⟨available, later, height, failed, _⟩ :=
    starved [⟨.number, "1", 0, some (.integer 1), none⟩, ⟨.number, "2", 2, some (.integer 2), none⟩]
      ⟨.function, "max", 4, none, some 3⟩ [_] 2 rfl rfl (by decide)
  · cases stopped
  · cases Int.ofNat.inj height
    exact ⟨later, failed⟩

end Reckoner.Evaluation
