import Reckoner.Datum
import Reckoner.Proofs.Binary64.Zero
import Reckoner.Proofs.Fault.Caught
import Reckoner.Proofs.Value.Division

/-!
The operators with the failures of their primitives in view. The conversion of an integer to a
double, a quotient, a remainder and a power can end in a trap. Each operator is given here once more
with these traps: some operands it refuses before it comes to a primitive, it reports the traps of
the kinds that its handler names, and any other trap would get through. None does (`exposed_eq`),
for no divisor that is come to is zero, and every other trap is of a kind that is named.
-/
namespace Reckoner

variable {α β ε δ : Type}

theorem mapError_bind (m : Except ε α) (f : α → Except ε β) (g : ε → δ) :
    (m >>= f).mapError g = m.mapError g >>= fun a => (f a).mapError g := by
  cases m <;> rfl

/-- What a handler does with a trap: it reports those that it knows and lets all others through. -/
def handled (handler : Trap → Option DomainFault) (m : Except Trap α) : Except Fault α :=
  m.mapError fun trap => ((handler trap).map Fault.domain).getD (.uncaught trap)

theorem handled_ok (handler : Trap → Option DomainFault) (a : α) :
    handled handler (.ok a) = .ok a := rfl

/-- A handler reports every trap that it knows. -/
theorem handled_error {handler : Trap → Option DomainFault} {trap : Trap} {fault : DomainFault}
    (known : handler trap = some fault) :
    handled handler (.error trap : Except Trap α) = .error (.domain fault) := by
  rw [handled, mapError_error, known]
  rfl

namespace Exposed

/-- No trap is known. -/
def unhandled : Trap → Option DomainFault :=
  fun _ => none

/-- Results beyond the finite doubles are known. -/
def overflow (fault : DomainFault) (trap : Trap) : Option DomainFault :=
  if trap.kind = .overflow then some fault else none

/-- The failures of a real power that are known. -/
def realPower (base exponent : Scalar) (trap : Trap) : Option DomainFault :=
  match trap.kind with
  | .overflow => some (.widePower base exponent)
  | .value =>
    some (if base.isZero then .zeroToNegative base exponent
      else .fractionalPowerOfNegative base exponent)
  | _ => none

/-- The failures of a complex power that are known. -/
def complexPower (base exponent : Value) (trap : Trap) : Option DomainFault :=
  match trap.kind with
  | .zeroDivision | .overflow => some (.complexPower base exponent trap)
  | _ => none

/-- The remainder of the division of integers that rounds down. -/
def remainder (m n : Int) : Except Trap Int :=
  if n = 0 then .error .integerDivision else .ok (m.fmod n)

/-- The quotient of integers, rounded down. -/
def floor (m n : Int) : Except Trap Int :=
  if n = 0 then .error .integerDivision else .ok (m.fdiv n)

/-- The quotient of integers as a double. -/
def quotient (m n : Int) : Except Trap Float :=
  if n = 0 then .error .integerDivision
  else
    match Binary64.quotient? m n with
    | some x => .ok x
    | none => .error .range

/-- The remainder of doubles. -/
def modulus (x y : Float) : Except Trap Float :=
  if y == 0.0 then .error .floatDivision else .ok (Binary64.modulus x y)

def nearest : Scalar → Except Fault Float
  | .double x => .ok x
  | .integer n => handled (overflow (.wideInteger n)) (Scalar.integer n).toDouble

def toComplex : Value → Except Fault Complex
  | .complex z => .ok z
  | .double x => .ok ⟨x, 0.0⟩
  | .integer n => do return ⟨← nearest (.integer n), 0.0⟩

def promoting (onIntegers : Int → Int → Int) (onDoubles : Float → Float → Float)
    (onComplexes : Complex → Complex → Complex) (l r : Value) : Except Fault Value :=
  match l, r with
  | .integer m, .integer n => .ok (.integer (onIntegers m n))
  | l, r =>
    match l.scalar?, r.scalar? with
    | some a, some b => do return .double (onDoubles (← nearest a) (← nearest b))
    | _, _ => do return .complex (onComplexes (← toComplex l) (← toComplex r))

def divInt (m n : Int) : Except Fault Value := do
  if n = 0 then throw (.domain (.divisionByZero (.integer n)))
  if (← handled unhandled (remainder m n)) = 0 then
    return .integer (← handled unhandled (floor m n))
  return .double (← handled (overflow .wideQuotient) (quotient m n))

def divReals (a b : Scalar) (divisor : Value) : Except Fault Value := do
  if b.isZero then throw (.domain (.divisionByZero divisor))
  return .double (← handled unhandled (Elementary.div (← nearest a) (← nearest b)))

def divComplexes (l r : Value) : Except Fault Value := do
  let z ← toComplex l
  let w ← toComplex r
  if w.normSq == 0.0 then throw (.domain (.complexDivisionByZero r))
  let re ← handled unhandled (Elementary.div (z.re * w.re + z.im * w.im) w.normSq)
  let im ← handled unhandled (Elementary.div (z.im * w.re - z.re * w.im) w.normSq)
  return .complex ⟨re, im⟩

def div (l r : Value) : Except Fault Value :=
  match l, r with
  | .integer m, .integer n => divInt m n
  | l, r =>
    match l.scalar?, r.scalar? with
    | some a, some b => divReals a b r
    | _, _ => divComplexes l r

def modReals (a b : Scalar) (divisor : Value) : Except Fault Value := do
  if b.isZero then throw (.domain (.moduloByZero divisor))
  match a, b with
  | .integer m, .integer n => return .integer (← handled unhandled (remainder m n.natAbs))
  | a, b => return .double (← handled unhandled (modulus (← nearest a) (← nearest b).abs))

def mod (l r : Value) : Except Fault Value :=
  match l.scalar?, r.scalar? with
  | some a, some b => modReals a b r
  | _, _ => .error (.domain (.complexModulo l r))

def powReals (base exponent : Scalar) : Except Fault Float :=
  handled (realPower base exponent) do
    Elementary.pow (← base.toDouble) (← exponent.toDouble)

/-- An integer power comes to a primitive only if it is negative, and its base neither zero nor a
unit. -/
def powInt (base exponent : Int) : Except Fault Value :=
  if exponent < 0 ∧ 1 < base.natAbs then do
    return .double (← powReals (.integer base) (.integer exponent))
  else (Value.powInt base exponent).mapError .domain

def pow (l r : Value) : Except Fault Value :=
  match l.scalar? with
  | none => .error (.domain (.complexBase l))
  | some base =>
    match base, r with
    | .integer m, .integer n => powInt m n
    | base, .integer n => do return .double (← powReals base (.integer n))
    | base, .double y => do return .double (← powReals base (.double y))
    | base, .complex w => do
      return .complex (← handled (complexPower l r) (Complex.pow ⟨← nearest base, 0.0⟩ w))

end Exposed

def Operator.exposed : Operator → Value → Value → Except Fault Value
  | add => Exposed.promoting (· + ·) (· + ·) Complex.add
  | sub => Exposed.promoting (· - ·) (· - ·) Complex.sub
  | mul => Exposed.promoting (· * ·) (· * ·) Complex.mul
  | div => Exposed.div
  | mod => Exposed.mod
  | pow => Exposed.pow

namespace Exposed

theorem nearest_eq (a : Scalar) : nearest a = a.nearest.mapError .domain := by
  cases a with
  | double x => rfl
  | integer n =>
    rw [nearest, Scalar.toDouble, Scalar.nearest]
    cases Binary64.ofInt? n <;> rfl

theorem toComplex_eq (v : Value) : toComplex v = v.toComplex.mapError .domain := by
  cases v with
  | integer n =>
    rw [toComplex, nearest_eq, Value.toComplex, mapError_bind]
    rfl
  | double x => rfl
  | complex z => rfl

theorem promoting_eq (f : Int → Int → Int) (g : Float → Float → Float)
    (h : Complex → Complex → Complex) (l r : Value) :
    promoting f g h l r = (Value.promoting f g h l r).mapError .domain := by
  have reals (a b : Scalar) : (do return .double (g (← nearest a) (← nearest b))) =
      (do return Value.double (g (← a.nearest) (← b.nearest)) :
        Except DomainFault Value).mapError .domain := by
    simp only [nearest_eq, mapError_bind]
    rfl
  have complexes (l r : Value) : (do return .complex (h (← toComplex l) (← toComplex r))) =
      (do return Value.complex (h (← l.toComplex) (← r.toComplex)) :
        Except DomainFault Value).mapError .domain := by
    simp only [toComplex_eq, mapError_bind]
    rfl
  cases l with
  | integer m =>
    cases r with
    | integer n => rfl
    | double y => exact reals (.integer m) (.double y)
    | complex w => exact complexes (.integer m) (.complex w)
  | double x =>
    cases r with
    | integer n => exact reals (.double x) (.integer n)
    | double y => exact reals (.double x) (.double y)
    | complex w => exact complexes (.double x) (.complex w)
  | complex z => cases r <;> exact complexes (.complex z) _

theorem handled_div {y : Float} (h : (y == 0.0) = false) (x : Float) :
    handled unhandled (Elementary.div x y) = .ok (x / y) := by
  rw [Elementary.div, if_neg (by rw [h]; decide), handled_ok]

/-- A divisor that is not refused is no zero as a double. -/
theorem nearest_beq_zero {a : Scalar} {x : Float} (h : a.isZero = false)
    (near : a.nearest = .ok x) : (x == 0.0) = false := by
  cases a with
  | double y =>
    cases near
    exact h
  | integer n =>
    have filled : n ≠ 0 := by
      intro zero
      subst zero
      cases h
    cases found : Binary64.ofInt? n with
    | none => simp [Scalar.nearest, found] at near
    | some y =>
      simp only [Scalar.nearest, found, Except.ok.injEq] at near
      exact near ▸ Binary64.ofInt?_beq_zero filled found

theorem handled_remainder {m n : Int} (h : n ≠ 0) :
    handled unhandled (remainder m n) = .ok (m.fmod n) := by
  rw [remainder, if_neg h, handled_ok]

theorem handled_floor {m n : Int} (h : n ≠ 0) :
    handled unhandled (floor m n) = .ok (m.fdiv n) := by
  rw [floor, if_neg h, handled_ok]

theorem divInt_eq (m n : Int) : divInt m n = (Value.divInt m n).mapError .domain := by
  unfold divInt Value.divInt
  by_cases zero : n = 0
  · rw [if_pos zero, if_pos zero, zero]
    rfl
  · rw [if_neg zero, if_neg zero, handled_remainder zero, handled_floor zero, quotient, if_neg zero]
    by_cases divides : m % n = 0
    · simp only [bind, Except.bind, pure, Except.pure, fmod_eq_zero_iff, divides,
        fdiv_of_emod_eq_zero, if_true]
      rfl
    · simp only [bind, Except.bind, pure, Except.pure, fmod_eq_zero_iff, divides, if_false]
      cases Binary64.quotient? m n with
      | some x => rfl
      | none => rfl

theorem divReals_eq (a b : Scalar) (divisor : Value) :
    divReals a b divisor =
      (if b.isZero then .error (.divisionByZero divisor)
        else do return .double ((← a.nearest) / (← b.nearest)) :
        Except DomainFault Value).mapError .domain := by
  unfold divReals
  cases zero : b.isZero with
  | true => rfl
  | false =>
    simp only [nearest_eq, Bool.false_eq_true, if_false]
    cases a.nearest with
    | error fault => rfl
    | ok x =>
      cases near : b.nearest with
      | error fault => rfl
      | ok y =>
        simp only [mapError_ok, bind, Except.bind, handled_div (nearest_beq_zero zero near)]
        rfl

theorem divComplexes_eq (l r : Value) :
    divComplexes l r =
      (do
        match (← l.toComplex).div? (← r.toComplex) with
        | some z => return .complex z
        | none => .error (.complexDivisionByZero r) :
        Except DomainFault Value).mapError .domain := by
  unfold divComplexes
  rw [toComplex_eq, toComplex_eq]
  cases l.toComplex with
  | error fault => rfl
  | ok z =>
    cases r.toComplex with
    | error fault => rfl
    | ok w =>
      cases zero : w.normSq == 0.0 with
      | true =>
        simp only [mapError_ok, bind, Except.bind, Complex.div?, zero, if_true]
        rfl
      | false =>
        simp only [mapError_ok, bind, Except.bind, Complex.div?, zero, handled_div zero,
          Bool.false_eq_true, if_false]
        rfl

theorem div_eq (l r : Value) : div l r = (l.div r).mapError .domain := by
  cases l with
  | integer m =>
    cases r with
    | integer n => exact divInt_eq m n
    | double y => exact divReals_eq (.integer m) (.double y) (.double y)
    | complex w => exact divComplexes_eq (.integer m) (.complex w)
  | double x =>
    cases r with
    | integer n => exact divReals_eq (.double x) (.integer n) (.integer n)
    | double y => exact divReals_eq (.double x) (.double y) (.double y)
    | complex w => exact divComplexes_eq (.double x) (.complex w)
  | complex z => cases r <;> exact divComplexes_eq (.complex z) _

theorem handled_modulus {y : Float} (h : (y == 0.0) = false) (x : Float) :
    handled unhandled (modulus x y) = .ok (Binary64.modulus x y) := by
  rw [modulus, if_neg (by rw [h]; decide), handled_ok]

theorem modDoubles_eq {b : Scalar} (h : b.isZero = false) (a : Scalar) :
    (do return .double (← handled unhandled (modulus (← nearest a) (← nearest b).abs))) =
      (do return .double (Binary64.modulus (← a.nearest) (← b.nearest).abs) :
        Except DomainFault Value).mapError .domain := by
  simp only [nearest_eq]
  cases a.nearest with
  | error fault => rfl
  | ok x =>
    cases near : b.nearest with
    | error fault => rfl
    | ok y =>
      have filled := Binary64.abs_beq_zero (nearest_beq_zero h near)
      simp only [mapError_ok, bind, Except.bind, handled_modulus filled]
      rfl

theorem modReals_eq (a b : Scalar) (divisor : Value) :
    modReals a b divisor =
      (if b.isZero then .error (.moduloByZero divisor)
        else
          match a, b with
          | .integer m, .integer n => .ok (.integer (m % n))
          | a, b => do return .double (Binary64.modulus (← a.nearest) (← b.nearest).abs) :
        Except DomainFault Value).mapError .domain := by
  unfold modReals
  cases zero : b.isZero with
  | true => rfl
  | false =>
    simp only [Bool.false_eq_true, if_false]
    cases a with
    | double x => exact modDoubles_eq zero (.double x)
    | integer m =>
      cases b with
      | double y => exact modDoubles_eq zero (.integer m)
      | integer n =>
        have filled : n ≠ 0 := by
          intro h
          subst h
          cases zero
        dsimp only
        rw [handled_remainder (by omega), fmod_natAbs]
        rfl

theorem mod_eq (l r : Value) : mod l r = (l.mod r).mapError .domain := by
  unfold mod Value.mod
  cases l.scalar? with
  | none => rfl
  | some a =>
    cases r.scalar? with
    | none => rfl
    | some b => exact modReals_eq a b r

theorem kind_of_toDouble {a : Scalar} {trap : Trap} (h : a.toDouble = .error trap) :
    trap.kind = .overflow := by
  cases a with
  | double x => cases h
  | integer n =>
    cases found : Binary64.ofInt? n with
    | some x => simp [Scalar.toDouble, found] at h
    | none =>
      simp only [Scalar.toDouble, found, Except.error.injEq] at h
      exact h ▸ rfl

theorem kind_of_pow {x y : Float} {trap : Trap} (h : Elementary.pow x y = .error trap) :
    trap.kind = .overflow ∨ trap.kind = .value := by
  unfold Elementary.pow at h
  dsimp only at h
  split at h
  · split at h
    · cases h
      exact .inr rfl
    · split at h
      · split at h
        · cases h
          exact .inr rfl
        · cases h
          exact .inl rfl
      · cases h
  · cases h

theorem powReals_eq (base exponent : Scalar) :
    powReals base exponent = (base.pow exponent).mapError .domain := by
  unfold powReals Scalar.pow
  generalize power : (do Elementary.pow (← base.toDouble) (← exponent.toDouble) :
    Except Trap Float) = result
  cases result with
  | ok x => rfl
  | error trap =>
    have kind : trap.kind = .overflow ∨ trap.kind = .value := by
      obtain failed | ⟨x, _, power⟩ := bind_eq_error_iff.mp power
      · exact .inl (kind_of_toDouble failed)
      · obtain failed | ⟨y, _, power⟩ := bind_eq_error_iff.mp power
        · exact .inl (kind_of_toDouble failed)
        · exact kind_of_pow power
    dsimp only
    obtain kind | kind := kind
    · have known : realPower base exponent trap = some (.widePower base exponent) := by
        rw [realPower, kind]
      rw [handled_error known, if_pos kind]
      rfl
    · have known : realPower base exponent trap = some (if base.isZero then
          .zeroToNegative base exponent else .fractionalPowerOfNegative base exponent) := by
        rw [realPower, kind]
      have other : ¬ trap.kind = .overflow := by
        rw [kind]
        decide
      rw [handled_error known, if_neg other]
      cases base.isZero <;> rfl

theorem powInt_eq (m n : Int) : powInt m n = (Value.powInt m n).mapError .domain := by
  unfold powInt
  by_cases primitive : n < 0 ∧ 1 < m.natAbs
  · have real : Value.powInt m n =
        (do return .double (← Scalar.pow (.integer m) (.integer n))) := by
      unfold Value.powInt
      rw [if_neg (by omega), if_neg (by omega), if_neg (by omega), if_neg (by omega)]
    rw [if_pos primitive, real, powReals_eq, mapError_bind]
    rfl
  · rw [if_neg primitive]

theorem kind_of_complexPowInt {z : Complex} {n : Int} {trap : Trap}
    (h : z.powInt n = .error trap) : trap.kind = .zeroDivision := by
  unfold Complex.powInt at h
  split at h
  · cases h
  · split at h
    · cases h
    · cases h
      rfl

theorem kind_of_powPolar {z w : Complex} {trap : Trap} (h : z.powPolar w = .error trap) :
    trap.kind = .zeroDivision := by
  unfold Complex.powPolar at h
  split at h
  · cases h
  · split at h
    · split at h
      · cases h
        rfl
      · cases h
    · dsimp only at h
      -- whichever way the phase is reckoned, it is no direction if it is infinite
      split at h
      all_goals
        split at h
        · cases h
          rfl
        · cases h

theorem kind_of_complexPow {z w : Complex} {trap : Trap} (h : z.pow w = .error trap) :
    trap.kind = .zeroDivision ∨ trap.kind = .overflow := by
  have infinite {power : Complex}
      (h : (if power.isInfinite then .error .complexPower else .ok power) = Except.error trap) :
      trap.kind = .overflow := by
    split at h
    · cases h
      rfl
    · cases h
  unfold Complex.pow at h
  dsimp only at h
  split at h
  · obtain failed | ⟨power, _, h⟩ := bind_eq_error_iff.mp h
    · exact .inl (kind_of_complexPowInt failed)
    · exact .inr (infinite h)
  · obtain failed | ⟨power, _, h⟩ := bind_eq_error_iff.mp h
    · exact .inl (kind_of_powPolar failed)
    · exact .inr (infinite h)

theorem powComplex_eq (base : Scalar) (l r : Value) (w : Complex) :
    (do return .complex (← handled (complexPower l r) (Complex.pow ⟨← nearest base, 0.0⟩ w))) =
      (do
        match Complex.pow ⟨← base.nearest, 0.0⟩ w with
        | .ok z => return .complex z
        | .error trap => .error (.complexPower l r trap) :
        Except DomainFault Value).mapError .domain := by
  rw [nearest_eq]
  cases base.nearest with
  | error fault => rfl
  | ok x =>
    simp only [mapError_ok, bind, Except.bind]
    cases power : Complex.pow ⟨x, 0.0⟩ w with
    | ok z => rfl
    | error trap =>
      have known : complexPower l r trap = some (.complexPower l r trap) := by
        obtain kind | kind := kind_of_complexPow power <;> rw [complexPower, kind]
      rw [handled_error known]
      rfl

theorem pow_eq (l r : Value) : pow l r = (l.pow r).mapError .domain := by
  have reals (a b : Scalar) : (do return .double (← powReals a b)) =
      (do return .double (← a.pow b) : Except DomainFault Value).mapError .domain := by
    rw [powReals_eq, mapError_bind]
    rfl
  cases l with
  | complex z => rfl
  | integer m =>
    cases r with
    | integer n => exact powInt_eq m n
    | double y => exact reals (.integer m) (.double y)
    | complex w => exact powComplex_eq (.integer m) (.integer m) (.complex w) w
  | double x =>
    cases r with
    | integer n => exact reals (.double x) (.integer n)
    | double y => exact reals (.double x) (.double y)
    | complex w => exact powComplex_eq (.double x) (.double x) (.complex w) w

end Exposed

/-- **No trap gets through.** With the failures of their primitives in view the operators do what
they do without: every trap that a conversion, a division or a power can end in is reported. -/
theorem Operator.exposed_eq (op : Operator) (l r : Value) :
    op.exposed l r = (op.apply l r).mapError .domain := by
  cases op with
  | add => exact Exposed.promoting_eq _ _ _ l r
  | sub => exact Exposed.promoting_eq _ _ _ l r
  | mul => exact Exposed.promoting_eq _ _ _ l r
  | div => exact Exposed.div_eq l r
  | mod => exact Exposed.mod_eq l r
  | pow => exact Exposed.pow_eq l r

end Reckoner
