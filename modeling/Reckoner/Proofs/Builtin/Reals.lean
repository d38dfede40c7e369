import Reckoner.Proofs.Builtin.Traps

/-!
Functions that are defined on real numbers only. Each of them looks at all its arguments before it
reckons with any, so a complex one among them is refused, wherever it stands and whatever the others
are: the call fails with a fault of the domain that names an argument (`Builtin.call_of_complex`).
-/
namespace Reckoner

/-- A function of one argument that has no values off the real line. -/
def Unary.isRealOnly : Unary → Bool
  | acos | acosh | asin | atanh | ceil | fact | factorial2 | floor | gamma | round | sign | trunc =>
    true
  | abs | asinh | atan | cos | cosh | exp | ln | sin | sinh | sqrt | tan | tanh => false

/-- A function that has no values off the real line: all of several arguments, and some of one. -/
def Builtin.isRealOnly : Builtin → Bool
  | unary f => f.isRealOnly
  | binary _ | variadic _ | clamp => true
  | random => false

/-- Why a function of real numbers refuses a number: it is complex, it is not whole where a whole
number is asked for, or it is an integer that is too large where a double is. -/
inductive Refuses (function : String) : Value → DomainFault → Prop where
  | complex (z : Complex) : Refuses function (.complex z) (.notReal function (.complex z))
  | fraction {a : Scalar} (not_whole : a.whole? = none) :
      Refuses function a.toValue (.notWhole function a.toValue)
  | wide {n : Int} (too_wide : Binary64.ofInt? n = none) :
      Refuses function (.integer n) (.wideInteger n)

/-- What comes of looking at a number by itself. A complex one is never accepted. -/
inductive Checked {α : Type} (function : String) (v : Value) : Except DomainFault α → Prop where
  | accepted {a : Scalar} (real : v.scalar? = some a) (b : α) : Checked function v (.ok b)
  | refused {reason : DomainFault} (refuses : Refuses function v reason) :
      Checked function v (.error reason)

section Checks

variable (function : String) (v : Value)

theorem checked_real : Checked function v (v.real function) := by
  cases v with
  | complex z => exact .refused (.complex z)
  | integer n => exact .accepted rfl _
  | double x => exact .accepted rfl _

theorem checked_nearest : Checked function v (v.real function >>= Scalar.nearest) := by
  cases v with
  | complex z => exact .refused (.complex z)
  | double x => exact .accepted rfl x
  | integer n =>
    change Checked function (.integer n) (Scalar.integer n).nearest
    cases found : Binary64.ofInt? n with
    | some x =>
      have nearest : (Scalar.integer n).nearest = .ok x := by rw [Scalar.nearest, found]
      rw [nearest]
      exact .accepted rfl x
    | none =>
      have too_wide : (Scalar.integer n).nearest = .error (.wideInteger n) := by
        rw [Scalar.nearest, found]
      rw [too_wide]
      exact .refused (.wide found)

theorem checked_whole : Checked function v (v.whole function) := by
  have on_line (a : Scalar) : Checked function a.toValue (a.toValue.whole function) := by
    have real : a.toValue.real function = .ok a := by rw [Value.real, Value.scalar?_toValue]
    cases found : a.whole? with
    | some n =>
      have whole : a.toValue.whole function = .ok n := by
        simp only [Value.whole, real, found, bind, Except.bind, pure, Except.pure]
      rw [whole]
      exact .accepted (Value.scalar?_toValue a) n
    | none =>
      have not_whole : a.toValue.whole function = .error (.notWhole function a.toValue) := by
        simp only [Value.whole, real, found, bind, Except.bind, throw, throwThe,
          MonadExceptOf.throw]
      rw [not_whole]
      exact .refused (.fraction found)
  cases v with
  | complex z => exact .refused (.complex z)
  | integer n => exact on_line (.integer n)
  | double x => exact on_line (.double x)

end Checks

namespace Marked

variable (function : String) (v : Value) (mark : Option Mark)

theorem real_number : Marked.real function ⟨.number v, mark⟩ =
    (fun a => ⟨a, mark⟩) <$> (v.real function).mapError .domain := by
  cases v <;> rfl

theorem nearest_number : Marked.nearest function ⟨.number v, mark⟩ =
    (fun x => ⟨x, mark⟩) <$> (v.real function >>= Scalar.nearest).mapError .domain := by
  cases v with
  | complex z => rfl
  | double x => rfl
  | integer n =>
    have taken (result : Except DomainFault Float) :
        (result.mapError Fault.domain >>= fun x => pure ⟨x, mark⟩) =
          (fun x => (⟨x, mark⟩ : Marked Float)) <$> result.mapError .domain := by
      cases result <;> rfl
    exact taken _

end Marked

/-- One of the arguments is a complex number. It is one even where its imaginary part is zero. -/
def HasComplex (arguments : List Operand) : Prop :=
  ∃ x ∈ arguments, ∃ z, x.content = .number (.complex z)

/-- The result is that one of the arguments is refused. -/
def RefusesOneOf {α : Type} (function : String) (arguments : List Operand)
    (result : Except Fault α) : Prop :=
  ∃ x ∈ arguments, ∃ v reason, x.content = .number v ∧ Refuses function v reason ∧
    result = .error (.domain reason)

section Arguments

variable {α β : Type} {function : String} {arguments : List Operand}

theorem RefusesOneOf.bind {result : Except Fault α} (h : RefusesOneOf function arguments result)
    (f : α → Except Fault β) : RefusesOneOf function arguments (result >>= f) := by
  obtain ⟨x, hx, v, reason, number, refuses, rfl⟩ := h
  exact ⟨x, hx, v, reason, number, refuses, rfl⟩

/-- A computation that passes the failure on fails with it. -/
theorem RefusesOneOf.exists_throw {result : Except Fault α} {m : Evaluation β}
    (h : RefusesOneOf function arguments result)
    (passes_on : ∀ fault, result = .error fault → m = throw fault) :
    ∃ x ∈ arguments, ∃ v reason, x.content = .number v ∧ Refuses function v reason ∧
      m = throw (.domain reason) := by
  obtain ⟨x, hx, v, reason, number, refuses, failed⟩ := h
  exact ⟨x, hx, v, reason, number, refuses, passes_on _ failed⟩

/-- Of numbers that are looked at one after the other one is refused, if one of them is complex. It
need not be the complex one, if there is another before it that is refused too. -/
theorem refusesOneOf_mapM {check : Operand → Except Fault (Marked α)}
    {look : Value → Except DomainFault α} (checked : ∀ v, Checked function v (look v))
    (looks : ∀ v mark, check ⟨.number v, mark⟩ = (fun a => ⟨a, mark⟩) <$> (look v).mapError .domain)
    (numbers : AreNumbers arguments) (complex : HasComplex arguments) :
    RefusesOneOf function arguments (arguments.mapM check) := by
  cases made : arguments.mapM check with
  | ok as =>
    obtain ⟨⟨content, mark⟩, mem, z, rfl⟩ := complex
    obtain ⟨a, _, accepted⟩ := exists_of_mapM_eq_ok made _ mem
    rw [looks] at accepted
    have single := checked (.complex z)
    generalize look (.complex z) = result at accepted single
    cases single with
    | accepted real => cases real
    | refused refuses => cases accepted
  | error fault =>
    obtain ⟨⟨content, mark⟩, mem, failed⟩ := mem_of_mapM_eq_error made
    obtain ⟨v, rfl⟩ := numbers _ mem
    rw [looks] at failed
    have single := checked v
    generalize look v = result at failed single
    cases single with
    | accepted => cases failed
    | refused refuses =>
      cases failed
      exact ⟨_, mem, v, _, rfl, refuses, rfl⟩

end Arguments

/-- Of two numbers that are looked at one after the other one is refused, if one is complex. -/
theorem exists_refused_of_pair {α : Type} {function : String} {v w : Value}
    {first second : Except DomainFault α} (left : Checked function v first)
    (right : Checked function w second) (complex : v.scalar? = none ∨ w.scalar? = none)
    (rest : α → α → Except DomainFault Value) :
    ∃ u ∈ [v, w], ∃ reason, Refuses function u reason ∧
      (do rest (← first) (← second)) = .error reason := by
  cases left with
  | refused refuses => exact ⟨v, List.mem_cons_self, _, refuses, rfl⟩
  | accepted v_real =>
    cases right with
    | refused refuses =>
      exact ⟨w, List.mem_cons_of_mem _ List.mem_cons_self, _, refuses, rfl⟩
    | accepted w_real => simp [v_real, w_real] at complex

theorem Unary.apply_complex {f : Unary} (real_only : f.isRealOnly) (limit : Int) (z : Complex) :
    f.apply limit (.complex z) = .error (.domain (.notReal f.name (.complex z))) := by
  cases f with
  | acos | acosh | asin | atanh | ceil | fact | factorial2 | floor | gamma | round | sign | trunc =>
    rfl
  | abs | asinh | atan | cos | cosh | exp | ln | sin | sinh | sqrt | tan | tanh => cases real_only

theorem Binary.exists_refused (f : Binary) {v w : Value}
    (complex : v.scalar? = none ∨ w.scalar? = none) :
    ∃ u ∈ [v, w], ∃ reason, Refuses f.name u reason ∧ f.apply v w = .error reason := by
  cases f with
  | complex | fraction | log | pow =>
    exact exists_refused_of_pair (checked_real _ v) (checked_real _ w) complex _
  | gcd | lcm => exact exists_refused_of_pair (checked_whole _ v) (checked_whole _ w) complex _

section Calls

variable {arguments : List Operand}

theorem Unary.refusesOneOf_call {f : Unary} (real_only : f.isRealOnly) (limit : Int)
    (one : arguments.length = 1) (complex : HasComplex arguments) :
    RefusesOneOf f.name arguments (f.call limit (arguments.map Marked.content)) := by
  obtain ⟨x, rfl⟩ := List.length_eq_one_iff.mp one
  obtain ⟨y, mem, z, hz⟩ := complex
  cases List.mem_singleton.mp mem
  refine ⟨x, mem, .complex z, _, hz, .complex z, ?_⟩
  rw [List.map_singleton, hz, call_number, apply_complex real_only]

theorem Binary.refusesOneOf_call (f : Binary) (two : arguments.length = 2)
    (numbers : AreNumbers arguments) (complex : HasComplex arguments) :
    RefusesOneOf f.name arguments (f.call (arguments.map Marked.content)) := by
  obtain ⟨⟨_, mark⟩, ⟨_, mark'⟩, rfl⟩ := List.length_eq_two.mp two
  obtain ⟨v, rfl⟩ := numbers _ List.mem_cons_self
  obtain ⟨w, rfl⟩ := numbers _ (List.mem_cons_of_mem _ List.mem_cons_self)
  have off_line : v.scalar? = none ∨ w.scalar? = none := by
    obtain ⟨x, mem, z, hz⟩ := complex
    obtain rfl | mem := List.mem_cons.mp mem
    · cases hz
      exact .inl rfl
    · cases List.mem_singleton.mp mem
      cases hz
      exact .inr rfl
  obtain ⟨u, mem, reason, refuses, failed⟩ := f.exists_refused off_line
  have call_eq : f.call [.number v, .number w] = .error (.domain reason) := by
    rw [call_numbers, failed, mapError_error]
  obtain rfl | mem := List.mem_cons.mp mem
  · exact ⟨_, List.mem_cons_self, _, reason, rfl, refuses, call_eq⟩
  · cases List.mem_singleton.mp mem
    exact ⟨_, List.mem_cons_of_mem _ List.mem_cons_self, _, reason, rfl, refuses, call_eq⟩

theorem Variadic.refusesOneOf_call (f : Variadic) (numbers : AreNumbers arguments)
    (complex : HasComplex arguments) : RefusesOneOf f.name arguments (f.call arguments) := by
  have real : RefusesOneOf f.name arguments (arguments.mapM (Marked.real f.name)) :=
    refusesOneOf_mapM (checked_real f.name) (Marked.real_number f.name) numbers complex
  have nearest : RefusesOneOf f.name arguments (arguments.mapM (Marked.nearest f.name)) :=
    refusesOneOf_mapM (checked_nearest f.name) (Marked.nearest_number f.name) numbers complex
  cases f with
  | max | min | mode => exact real.bind _
  | average | median | stdev | variance => exact nearest.bind _

theorem Builtin.refusesOneOf_clampCall (three : arguments.length = 3)
    (numbers : AreNumbers arguments) (complex : HasComplex arguments) :
    RefusesOneOf clamp.name arguments (clampCall arguments) := by
  have all : arguments.take 4 = arguments := List.take_of_length_le (by omega)
  unfold clampCall
  rw [all]
  have real : RefusesOneOf "clamp" arguments (arguments.mapM (Marked.real "clamp")) :=
    refusesOneOf_mapM (checked_real "clamp") (Marked.real_number "clamp") numbers complex
  exact real.bind _

/-- **Complex arguments.** A function of real numbers that gets as many numbers as it takes refuses
one of them if any is complex, wherever that stands and whatever the others are: it draws no random
number and has no value, and no trap goes uncaught. -/
theorem Builtin.call_of_complex (limit : Int) {f : Builtin} (real_only : f.isRealOnly)
    (numbers : AreNumbers arguments) (admits : f.arity.Admits arguments.length)
    (complex : HasComplex arguments) :
    ∃ x ∈ arguments, ∃ v reason, x.content = .number v ∧ Refuses f.name v reason ∧
      f.call limit arguments = throw (.domain reason) := by
  cases f with
  | unary f =>
    have refused := Unary.refusesOneOf_call real_only limit admits complex
    exact refused.exists_throw fun fault failed => by
      rw [call, failed]
      rfl
  | binary f =>
    have refused := f.refusesOneOf_call admits numbers complex
    exact refused.exists_throw fun fault failed => by
      rw [call, failed]
      rfl
  | variadic f =>
    have refused := f.refusesOneOf_call numbers complex
    exact refused.exists_throw fun fault failed => by
      rw [call, failed]
      rfl
  | clamp =>
    have refused := refusesOneOf_clampCall admits numbers complex
    exact refused.exists_throw fun fault failed => by
      rw [call, failed]
      rfl
  | random => cases real_only

/-- A huge integer and a number that is none stand before the complex one. -/
theorem Builtin.call_of_complex_behind_wide :
    ∃ reason, (variadic .variance).call 170
      [.plain (.number (.integer (Int.pow 10 400))), .plain (.number (.double (0.0 / 0.0))),
        .plain (.number (.complex ⟨0.0, 1.0⟩))] = throw (.domain reason) := by
  have numbers : AreNumbers [.plain (.number (.integer (Int.pow 10 400))),
      .plain (.number (.double (0.0 / 0.0))), .plain (.number (.complex ⟨0.0, 1.0⟩))] := by
    intro x mem
    simp only [List.mem_cons, List.not_mem_nil, or_false] at mem
    obtain rfl | rfl | rfl := mem <;> exact ⟨_, rfl⟩
  obtain ⟨_, _, _, reason, _, _, refused⟩ :=
    call_of_complex 170 (f := variadic .variance) rfl numbers trivial
      ⟨_, List.mem_cons_of_mem _ (List.mem_cons_of_mem _ List.mem_cons_self), _, rfl⟩
  exact ⟨reason, refused⟩

end Calls

end Reckoner
