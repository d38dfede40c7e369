import Reckoner.Builtin.Call
import Reckoner.Proofs.Value.Operands
import Reckoner.Proofs.Value.Powers
import Reckoner.Proofs.Value.Traps

/-!
Quotients and powers have both an operator and a function, which are reckoned apart. The operator
rounds its operands to doubles first and stays with the integers while it can; the function leaves
the rounding to the primitive and reports what this fails with. They come to the same double, and
to a failure together (`operators_agree`).
-/
namespace Reckoner

/-- The outcome of an operator between two real numbers. -/
def Operator.ofReals (op : Operator) (a b : Scalar) : Except Fault Value :=
  Datum.apply op (.number a.toValue) (.number b.toValue)

/-- The outcome of a function that is called with two real numbers. -/
def Binary.ofReals (f : Binary) (a b : Scalar) : Except Fault Value :=
  f.call [.number a.toValue, .number b.toValue]

theorem Operator.ofReals_eq (op : Operator) (a b : Scalar) :
    op.ofReals a b = (op.apply a.toValue b.toValue).mapError .domain :=
  Datum.apply_number op _ _

theorem Binary.ofReals_eq (f : Binary) (a b : Scalar) :
    f.ofReals a b = (f.apply a.toValue b.toValue).mapError .domain :=
  f.call_numbers _ _

/-- Of two real numbers one is a double, or both are integers. -/
theorem Value.mixed_or_integers (a b : Scalar) :
    Mixed a b ∨ ∃ m n, a = .integer m ∧ b = .integer n := by
  cases a with
  | double x => exact .inl (.left x b)
  | integer m =>
    cases b with
    | double y => exact .inl (.right (.integer m) y)
    | integer n => exact .inr ⟨m, n, rfl, rfl⟩

namespace Scalar

/-- A real number as a double, as an operation has it and as a primitive has it. -/
inductive Rounded : Except DomainFault Float → Except Trap Float → Prop where
  | near (x : Float) : Rounded (.ok x) (.ok x)
  | wide (n : Int) : Rounded (.error (.wideInteger n)) (.error .wideInteger)

theorem rounded (a : Scalar) : Rounded a.nearest a.toDouble := by
  cases a with
  | double x => exact .near x
  | integer n =>
    rw [nearest, toDouble]
    cases Binary64.ofInt? n with
    | some x => exact .near x
    | none => exact .wide n

end Scalar

namespace Exposed

/-- The quotient that the primitive has for two real numbers. That of integers is rounded once. -/
def ratio : Scalar → Scalar → Except Trap Float
  | .integer m, .integer n => quotient m n
  | a, b => do Elementary.div (← a.toDouble) (← b.toDouble)

/-- A fraction with the failures of its primitive in view: only results and operands beyond the
finite doubles are reported. -/
def fraction (a b : Scalar) : Except Fault Value := do
  if b.isZero then throw (.domain (.fractionByZero a.toValue b.toValue))
  return .double (← handled (overflow (.wideFraction a.toValue b.toValue)) (ratio a b))

/-- A power by its function, with the failures of its primitive in view. -/
def powCall (a b : Scalar) : Except Fault Value := do
  return .double (← powReals a b)

end Exposed

namespace Binary

open Value (Mixed mixed_or_integers)

variable {a b : Scalar}

theorem fraction_integers (m n : Int) :
    fraction.apply (.integer m) (.integer n) =
      if n = 0 then .error (.fractionByZero (.integer m) (.integer n))
      else
        match Binary64.quotient? m n with
        | some x => .ok (.double x)
        | none => .error (.wideFraction (.integer m) (.integer n)) := by
  change (if n == 0 then _ else _) = _
  by_cases zero : n = 0
  · rw [if_pos zero, if_pos (by simpa using zero)]
    rfl
  · rw [if_neg zero, if_neg (by simpa using zero)]
    rfl

theorem fraction_mixed (mixed : Mixed a b) :
    fraction.apply a.toValue b.toValue =
      if b.isZero then .error (.fractionByZero a.toValue b.toValue)
      else
        match a.toDouble, b.toDouble with
        | .ok x, .ok y => .ok (.double (x / y))
        | _, _ => .error (.wideFraction a.toValue b.toValue) := by
  cases mixed with
  | left x b => cases b <;> rfl
  | right a y => cases a <;> rfl

theorem pow_reals (a b : Scalar) :
    pow.apply a.toValue b.toValue = (do return .double (← a.pow b)) := by
  cases a <;> cases b <;> rfl

/-- What a quotient comes to by its operator and by its function. Of a quotient that is an integer
nothing more is said. -/
inductive Quotients (a b : Scalar) : Except Fault Value → Except Fault Value → Prop where
  | double (x : Float) : Quotients a b (.ok (.double x)) (.ok (.double x))
  | refused (fault other : DomainFault) :
    Quotients a b (.error (.domain fault)) (.error (.domain other))
  | exact {m n q : Int} (left : a = .integer m) (right : b = .integer n) (divides : n ∣ m)
    (fraction : Except Fault Value) : Quotients a b (.ok (.integer q)) fraction

theorem quotients_integers (m n : Int) :
    Quotients (.integer m) (.integer n) (Operator.div.ofReals (.integer m) (.integer n))
      (fraction.ofReals (.integer m) (.integer n)) := by
  rw [Operator.ofReals_eq, ofReals_eq]
  change Quotients _ _ ((Value.divInt m n).mapError .domain)
    ((fraction.apply (.integer m) (.integer n)).mapError .domain)
  rw [Value.divInt, fraction_integers]
  by_cases zero : n = 0
  · rw [if_pos zero, if_pos zero]
    exact .refused _ _
  rw [if_neg zero, if_neg zero]
  by_cases divides : m % n = 0
  · rw [if_pos divides]
    exact .exact rfl rfl (Int.dvd_of_emod_eq_zero divides) _
  · rw [if_neg divides]
    cases Binary64.quotient? m n with
    | some x => exact .double x
    | none => exact .refused _ _

theorem quotients_mixed (mixed : Mixed a b) :
    Quotients a b (Operator.div.ofReals a b) (fraction.ofReals a b) := by
  rw [Operator.ofReals_eq, ofReals_eq, Operator.apply, Value.div_reals mixed, fraction_mixed mixed]
  split
  case isTrue => exact .refused _ _
  case isFalse =>
    have left := a.rounded
    have right := b.rounded
    generalize a.nearest = p, a.toDouble = p' at left
    generalize b.nearest = q, b.toDouble = q' at right
    cases left with
    | wide m => exact .refused _ _
    | near x =>
      cases right with
      | wide n => exact .refused _ _
      | near y => exact .double (x / y)

theorem quotients (a b : Scalar) :
    Quotients a b (Operator.div.ofReals a b) (fraction.ofReals a b) := by
  obtain mixed | ⟨m, n, rfl, rfl⟩ := mixed_or_integers a b
  · exact quotients_mixed mixed
  · exact quotients_integers m n

section

variable {p q : Except Fault Value} {fault : Fault} {v : Value} {x : Float}

theorem Quotients.eq_double (h : Quotients a b p q) (made : p = .ok (.double x)) :
    q = .ok (.double x) := by
  cases h with
  | double y => exact made
  | refused => cases made
  | exact => cases made

theorem Quotients.fails (h : Quotients a b p q) (failed : p = .error fault) :
    ∃ other, q = .error (.domain other) := by
  cases h with
  | double y => cases failed
  | refused _ other => exact ⟨other, rfl⟩
  | exact => cases failed

theorem Quotients.divides (h : Quotients a b p q) (failed : q = .error fault) (made : p = .ok v) :
    ∃ m n, a = .integer m ∧ b = .integer n ∧ n ∣ m := by
  cases h with
  | double y => cases failed
  | refused => cases made
  | exact left right divides => exact ⟨_, _, left, right, divides⟩

end

/-- A power of integers that is a double is one of doubles. -/
theorem pow_of_powInt_eq_double {m n : Int} {x : Float} (h : Value.powInt m n = .ok (.double x)) :
    (Scalar.integer m).pow (.integer n) = .ok x := by
  obtain natural | negative : 0 ≤ n ∨ n < 0 := by omega
  · obtain ⟨k, rfl⟩ := Int.eq_ofNat_of_zero_le natural
    obtain ⟨_, power⟩ | ⟨_, power⟩ := Value.powInt_natural m k
    all_goals
      rw [power] at h
      cases h
  · obtain ⟨_, power⟩ | ⟨k, _, _, power⟩ | ⟨_, power⟩ := Value.powInt_negative negative
    all_goals rw [power] at h
    · cases h
    · cases h
    · obtain ⟨y, made, same⟩ := bind_eq_ok_iff.mp h
      cases same
      exact made

end Binary

namespace Exposed

open Value (Mixed)

variable {a b : Scalar}

theorem handled_quotient {m n : Int} (filled : n ≠ 0) (fault : DomainFault) :
    handled (overflow fault) (quotient m n) =
      match Binary64.quotient? m n with
      | some x => .ok x
      | none => .error (.domain fault) := by
  rw [quotient, if_neg filled]
  cases Binary64.quotient? m n <;> rfl

theorem ratio_mixed (mixed : Mixed a b) :
    ratio a b = (do Elementary.div (← a.toDouble) (← b.toDouble)) := by
  cases mixed with
  | left x b => cases b <;> rfl
  | right a y => cases a <;> rfl

/-- A divisor that is not refused is no zero as a double either, so that no division fails for its
divisor. -/
theorem fraction_eq_mixed (mixed : Mixed a b) :
    fraction a b = Binary.fraction.ofReals a b := by
  rw [Binary.ofReals_eq, Binary.fraction_mixed mixed, fraction, ratio_mixed mixed]
  cases zero : b.isZero with
  | true => rfl
  | false =>
    have left := a.rounded
    have right := b.rounded
    generalize a.nearest = p, a.toDouble = p' at left ⊢
    generalize near : b.nearest = q, b.toDouble = q' at right ⊢
    cases left with
    | wide m => rfl
    | near x =>
      cases right with
      | wide n => rfl
      | near y =>
        have filled := nearest_beq_zero zero near
        simp only [bind, Except.bind, Elementary.div, filled]
        rfl

theorem fraction_eq_integers (m n : Int) :
    fraction (.integer m) (.integer n) = Binary.fraction.ofReals (.integer m) (.integer n) := by
  rw [Binary.ofReals_eq, Scalar.toValue, Scalar.toValue, Binary.fraction_integers, fraction]
  by_cases zero : n = 0
  · rw [if_pos zero, if_pos (by simpa [Scalar.isZero] using zero)]
    rfl
  · rw [if_neg zero, if_neg (by simpa [Scalar.isZero] using zero), ratio, handled_quotient zero]
    cases Binary64.quotient? m n <;> rfl

/-- No trap of a fraction gets through. -/
theorem fraction_eq (a b : Scalar) : fraction a b = Binary.fraction.ofReals a b := by
  obtain mixed | ⟨m, n, rfl, rfl⟩ := Value.mixed_or_integers a b
  · exact fraction_eq_mixed mixed
  · exact fraction_eq_integers m n

theorem powCall_eq (a b : Scalar) : powCall a b = Binary.pow.ofReals a b := by
  rw [powCall, powReals_eq, Binary.ofReals_eq, Binary.pow_reals, mapError_bind]
  rfl

end Exposed

namespace Binary

variable {a b : Scalar}

theorem pow_ofReals_mixed (mixed : Value.Mixed a b) :
    pow.ofReals a b = Operator.pow.ofReals a b := by
  rw [ofReals_eq, Operator.ofReals_eq, pow_reals, Operator.apply, Value.pow_reals mixed]

theorem pow_ofReals_integers {m n : Int} {x : Float}
    (h : Operator.pow.ofReals (.integer m) (.integer n) = .ok (.double x)) :
    pow.ofReals (.integer m) (.integer n) = .ok (.double x) := by
  rw [Operator.ofReals_eq] at h
  change (Value.powInt m n).mapError Fault.domain = _ at h
  cases power : Value.powInt m n with
  | error fault =>
    rw [power] at h
    cases h
  | ok v =>
    rw [power] at h
    cases h
    rw [ofReals_eq, pow_reals, pow_of_powInt_eq_double power]
    rfl

/-- **Operators and their functions agree** on any two real numbers, with all failures of the
primitives in view. Where a quotient is a double, so is the fraction, and it is the same one; where
there is no quotient, there is no fraction; and a fraction may fail by itself only for integers of
which the second divides the first. Where a power is a double, the function gives the same one, and
of two numbers that are not both integers it gives the same in any case, also when it fails. -/
theorem operators_agree (a b : Scalar) :
    (fraction.ofReals a b = Exposed.fraction a b ∧ pow.ofReals a b = Exposed.powCall a b) ∧
    (∀ x, Operator.div.ofReals a b = .ok (.double x) → fraction.ofReals a b = .ok (.double x)) ∧
    (∀ fault, Operator.div.ofReals a b = .error fault →
      ∃ other, fraction.ofReals a b = .error (.domain other)) ∧
    (∀ fault v, fraction.ofReals a b = .error fault → Operator.div.ofReals a b = .ok v →
      ∃ m n, a = .integer m ∧ b = .integer n ∧ n ∣ m) ∧
    (∀ x, Operator.pow.ofReals a b = .ok (.double x) → pow.ofReals a b = .ok (.double x)) ∧
    (¬ (a.isInteger ∧ b.isInteger) → pow.ofReals a b = Operator.pow.ofReals a b) := by
  refine ⟨⟨(Exposed.fraction_eq a b).symm, (Exposed.powCall_eq a b).symm⟩, ?_, ?_, ?_, ?_⟩
  · exact fun x => (quotients a b).eq_double
  · exact fun fault => (quotients a b).fails
  · exact fun fault v => (quotients a b).divides
  · obtain mixed | ⟨m, n, rfl, rfl⟩ := Value.mixed_or_integers a b
    · rw [pow_ofReals_mixed mixed]
      exact ⟨fun x => id, fun _ => rfl⟩
    · exact ⟨fun x => pow_ofReals_integers, fun other => absurd ⟨rfl, rfl⟩ other⟩

theorem operators_agree_half :
    fraction.ofReals (.integer 7) (.integer 2) = .ok (.double 3.5) ∧
      fraction.ofReals (.double 1.0) (.integer 2) = .ok (.double (1.0 / 2.0)) ∧
      (∃ fault, fraction.ofReals (.double 1.0) (.integer 0) = .error (.domain fault)) ∧
      pow.ofReals (.double (-8.0)) (.double 0.5) =
        Operator.pow.ofReals (.double (-8.0)) (.double 0.5) :=
  ⟨(operators_agree (.integer 7) (.integer 2)).2.1 _ (by rfl),
    (operators_agree (.double 1.0) (.integer 2)).2.1 _ (by rfl),
    (operators_agree (.double 1.0) (.integer 0)).2.2.1 _ (by rfl),
    (operators_agree (.double (-8.0)) (.double 0.5)).2.2.2.2.2 (by decide)⟩

end Binary

end Reckoner
