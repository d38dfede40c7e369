import Mathlib.Data.Nat.Factorial.DoubleFactorial
import Reckoner.Builtin.Unary
import Reckoner.Proofs.Fault.Caught

namespace Reckoner

namespace Elementary

theorem productUpTo_eq (n : Nat) : productUpTo n = n.factorial := by
  induction n with
  | zero => rfl
  | succ n ih => rw [productUpTo, Nat.factorial_succ, ih]

theorem factorial_of_lt {n : Nat} (h : n < wordBound) : factorial n = .ok n.factorial := by
  rw [factorial, if_pos h, productUpTo_eq]

theorem factorial_eq_error_iff {n : Nat} {trap : Trap} :
    factorial n = .error trap ↔ trap = .wideFactorial ∧ wordBound ≤ n := by
  by_cases h : n < wordBound
  · rw [factorial_of_lt h]
    constructor
    · intro failed
      cases failed
    · rintro ⟨_, wide⟩
      omega
  · rw [factorial, if_neg h, Except.error.injEq, eq_comm]
    exact ⟨fun same => ⟨same, by omega⟩, And.left⟩

/-- The factors go down by two, so even and odd numbers end apart, at zero and at one. -/
theorem doubleFactorial_natCast (n : Nat) : doubleFactorial n = n.doubleFactorial := by
  induction n using Nat.twoStepInduction with
  | zero => exact doubleFactorial_of_nonpos (Int.le_refl 0)
  | one => rw [doubleFactorial_of_pos (by decide), doubleFactorial_of_nonpos (by decide)]; rfl
  | more n ih _ =>
    have before : ((n + 2 : Nat) : Int) - 2 = n := by omega
    rw [doubleFactorial_of_pos (by omega), before, ih, Nat.doubleFactorial_add_two, Nat.cast_mul]

/-- What the one double factorial leaves out are the factors of the one before. -/
theorem doubleFactorial_mul_pred {n : Int} (h : 1 ≤ n) :
    doubleFactorial n * doubleFactorial (n - 1) = (n.toNat.factorial : Int) := by
  obtain ⟨k, rfl⟩ : ∃ k : Nat, n = (k + 1 : Nat) := ⟨(n - 1).toNat, by omega⟩
  have before : ((k + 1 : Nat) : Int) - 1 = k := by omega
  rw [before, doubleFactorial_natCast, doubleFactorial_natCast, Int.toNat_natCast,
    Nat.factorial_eq_mul_doubleFactorial, Nat.cast_mul]

end Elementary

/-- The number is a whole real one, as an integer or as a double. -/
def Value.IsWhole (v : Value) (n : Int) : Prop :=
  ∃ a, v.scalar? = some a ∧ a.whole? = some n

theorem Value.isWhole_integer {m n : Int} : (integer m).IsWhole n ↔ m = n := by
  constructor
  · rintro ⟨a, real, whole⟩
    cases real
    cases whole
    rfl
  · rintro rfl
    exact ⟨_, rfl, rfl⟩

theorem Value.scalar?_of_real {function : String} {v : Value} {a : Scalar}
    (h : v.real function = .ok a) : v.scalar? = some a := by
  cases v with
  | complex z => cases h
  | integer n | double x => exact congrArg some (Except.ok.inj h)

namespace Unary

open Elementary (wordBound)

variable {limit : Int} {v : Value}

/-- A whole number is the argument of a factorial if it lies between zero and the limit. -/
theorem factorialArgument_of_isWhole (label : String) (f : Unary) (limit : Int) {n : Int}
    (h : v.IsWhole n) : factorialArgument label f limit v =
      if n < 0 then .error (.notNatural label f.name v)
      else if limit < n then .error (.beyondLimit label f.name v limit)
      else .ok n.toNat := by
  obtain ⟨a, real, whole⟩ := h
  simp only [factorialArgument, Value.real, real, whole, bind, Except.bind, pure, Except.pure,
    throw, throwThe, MonadExceptOf.throw]

theorem factorialArgument_eq_ok_iff {label : String} {f : Unary} {n : Nat} :
    factorialArgument label f limit v = .ok n ↔ v.IsWhole n ∧ (n : Int) ≤ limit := by
  constructor
  · intro h
    obtain ⟨a, real, accepted⟩ := bind_eq_ok_iff.mp h
    cases found : a.whole? with
    | none =>
      rw [found] at accepted
      cases accepted
    | some m =>
      have whole : v.IsWhole m := ⟨a, Value.scalar?_of_real real, found⟩
      rw [factorialArgument_of_isWhole label f limit whole] at h
      split at h
      · cases h
      · split at h
        · cases h
        · cases h
          rw [Int.toNat_of_nonneg (by omega)]
          exact ⟨whole, by omega⟩
  · rintro ⟨whole, within⟩
    rw [factorialArgument_of_isWhole label f limit whole, if_neg (by omega), if_neg (by omega),
      Int.toNat_natCast]

/-- The number has a factorial, but it does not fit into a word. -/
def FactorialOverflows (limit : Int) (v : Value) : Prop :=
  ∃ n, v.IsWhole n ∧ (wordBound : Int) ≤ n ∧ n ≤ limit

/-- Where the argument is accepted, only the primitive can fail. -/
theorem factValue_eq_uncaught_iff {trap : Trap} :
    factValue limit v = .error (.uncaught trap) ↔
      trap = .wideFactorial ∧ FactorialOverflows limit v := by
  unfold factValue
  constructor
  · intro h
    obtain refused | ⟨n, accepted, h⟩ := bind_eq_error_iff.mp h
    · exact absurd refused (caught_domain _ trap)
    obtain ⟨whole, within⟩ := factorialArgument_eq_ok_iff.mp (mapError_eq_ok_iff.mp accepted)
    obtain failed | ⟨m, _, h⟩ := bind_eq_error_iff.mp h
    · obtain ⟨rfl, wide⟩ :=
        Elementary.factorial_eq_error_iff.mp (mapError_eq_uncaught_iff.mp failed)
      exact ⟨rfl, n, whole, by omega, within⟩
    · cases h
  · rintro ⟨rfl, n, whole, wide, within⟩
    obtain ⟨k, rfl⟩ : ∃ k : Nat, n = k := ⟨n.toNat, by omega⟩
    refine bind_eq_error_iff.mpr (.inr ⟨k, ?_, bind_eq_error_iff.mpr (.inl ?_)⟩)
    · exact mapError_eq_ok_iff.mpr (factorialArgument_eq_ok_iff.mpr ⟨whole, within⟩)
    · exact mapError_eq_uncaught_iff.mpr
        (Elementary.factorial_eq_error_iff.mpr ⟨rfl, by omega⟩)

section Integers

variable {n : Int}

/-- The outcome of a call with one integer. -/
def ofInteger (limit : Int) (f : Unary) (n : Int) : Except Fault Value :=
  f.call limit [.number (.integer n)]

/-- An integer that has factorials. -/
def HasFactorials (limit n : Int) : Prop :=
  0 ≤ n ∧ n ≤ limit

theorem factorialArgument_of_hasFactorials (label : String) (f : Unary)
    (h : HasFactorials limit n) : factorialArgument label f limit (.integer n) = .ok n.toNat := by
  obtain ⟨natural, within⟩ := h
  rw [factorialArgument_of_isWhole label f limit (Value.isWhole_integer.mpr rfl),
    if_neg (by omega), if_neg (by omega)]

theorem factorialArgument_of_not (label : String) (f : Unary) (h : ¬ HasFactorials limit n) :
    ∃ fault, factorialArgument label f limit (.integer n) = .error fault := by
  rw [factorialArgument_of_isWhole label f limit (Value.isWhole_integer.mpr rfl)]
  split
  case isTrue => exact ⟨_, rfl⟩
  case isFalse natural =>
    have beyond : limit < n := by
      by_contra within
      exact h ⟨by omega, by omega⟩
    rw [if_pos beyond]
    exact ⟨_, rfl⟩

theorem fact_ofInteger (h : HasFactorials limit n) (fits : n < wordBound) :
    fact.ofInteger limit n = .ok (.integer n.toNat.factorial) := by
  have natural : 0 ≤ n := h.1
  have reckoned : Elementary.factorial n.toNat = .ok n.toNat.factorial :=
    Elementary.factorial_of_lt (by omega)
  rw [ofInteger, call_number, apply, factValue, factorialArgument_of_hasFactorials _ _ h,
    mapError_ok]
  simp only [bind, Except.bind, reckoned, mapError_ok]
  rfl

theorem fact_ofInteger_eq_uncaught_iff {trap : Trap} :
    fact.ofInteger limit n = .error (.uncaught trap) ↔
      trap = .wideFactorial ∧ (wordBound : Int) ≤ n ∧ n ≤ limit := by
  rw [ofInteger, call_number, apply, factValue_eq_uncaught_iff]
  simp only [FactorialOverflows, Value.isWhole_integer, exists_eq_left']

theorem factorial2_ofInteger (h : HasFactorials limit n) :
    factorial2.ofInteger limit n = .ok (.integer (Elementary.doubleFactorial n)) := by
  rw [ofInteger, call_number, apply, factorial2Value, factorialArgument_of_hasFactorials _ _ h]
  change Except.ok (Value.integer (Elementary.doubleFactorial n.toNat)) = _
  rw [Int.toNat_of_nonneg h.1]

theorem ofInteger_of_not {f : Unary} (factorial : f = fact ∨ f = factorial2)
    (h : ¬ HasFactorials limit n) : ∃ fault, f.ofInteger limit n = .error (.domain fault) := by
  obtain rfl | rfl := factorial
  · obtain ⟨fault, refused⟩ := factorialArgument_of_not "Factorial" fact h
    rw [ofInteger, call_number, apply, factValue, refused]
    exact ⟨fault, rfl⟩
  · obtain ⟨fault, refused⟩ := factorialArgument_of_not "Double factorial" factorial2 h
    rw [ofInteger, call_number, apply, factorial2Value, refused]
    exact ⟨fault, rfl⟩

theorem ofInteger_eq_domain_iff {f : Unary} (factorial : f = fact ∨ f = factorial2) :
    (∃ fault, f.ofInteger limit n = .error (.domain fault)) ↔ ¬ HasFactorials limit n := by
  refine ⟨?_, ofInteger_of_not factorial⟩
  rintro ⟨fault, failed⟩ h
  obtain rfl | rfl := factorial
  · by_cases fits : n < wordBound
    · cases (fact_ofInteger h fits).symm.trans failed
    · have wide := fact_ofInteger_eq_uncaught_iff.mpr ⟨rfl, not_lt.mp fits, h.2⟩
      cases wide.symm.trans failed
  · cases (factorial2_ofInteger h).symm.trans failed

theorem fact_ofInteger_eq_ok_iff :
    (∃ m, fact.ofInteger limit n = .ok (.integer m)) ↔ HasFactorials limit n ∧ n < wordBound := by
  constructor
  · rintro ⟨m, made⟩
    have h : HasFactorials limit n := by
      by_contra refused
      obtain ⟨fault, failed⟩ := ofInteger_of_not (.inl rfl) refused
      cases made.symm.trans failed
    refine ⟨h, ?_⟩
    by_contra wide
    have failed := fact_ofInteger_eq_uncaught_iff.mpr ⟨rfl, not_lt.mp wide, h.2⟩
    cases made.symm.trans failed
  · exact fun ⟨h, fits⟩ => ⟨_, fact_ofInteger h fits⟩

theorem factorial2_ofInteger_eq_ok_iff :
    (∃ m, factorial2.ofInteger limit n = .ok (.integer m)) ↔ HasFactorials limit n := by
  constructor
  · rintro ⟨m, made⟩
    by_contra refused
    obtain ⟨fault, failed⟩ := ofInteger_of_not (.inr rfl) refused
    cases made.symm.trans failed
  · exact fun h => ⟨_, factorial2_ofInteger h⟩

/-- **Factorials and double factorials.** Whatever the limit, the double factorial has an integer
for its value exactly at the natural numbers up to it, and the factorial at those of them that fit
into a word. At all other natural numbers up to the limit the trap of the primitive gets through,
and at all other integers both report a fault of the domain. The factorial is the product of all
numbers from one on. It is the product of the double factorials of a number and of the one before,
and each of these arises from the second next before. Below one they are empty. -/
theorem factorials_consistent (limit n : Int) :
    ((∃ m, fact.ofInteger limit n = .ok (.integer m)) ↔ (0 ≤ n ∧ n ≤ limit) ∧ n < wordBound) ∧
    (fact.ofInteger limit n = .error (.uncaught .wideFactorial) ↔ wordBound ≤ n ∧ n ≤ limit) ∧
    ((∃ m, factorial2.ofInteger limit n = .ok (.integer m)) ↔ 0 ≤ n ∧ n ≤ limit) ∧
    (∀ f, f = fact ∨ f = factorial2 →
      ((∃ fault, f.ofInteger limit n = .error (.domain fault)) ↔ ¬ (0 ≤ n ∧ n ≤ limit))) ∧
    (0 ≤ n → n ≤ limit → n < wordBound →
      fact.ofInteger limit n = .ok (.integer n.toNat.factorial)) ∧
    (1 ≤ n → n ≤ limit → ∃ p q, factorial2.ofInteger limit n = .ok (.integer p) ∧
      factorial2.ofInteger limit (n - 1) = .ok (.integer q) ∧ p * q = n.toNat.factorial ∧
      (n < wordBound → fact.ofInteger limit n = .ok (.integer (p * q)))) ∧
    (2 ≤ n → n ≤ limit → ∃ p, factorial2.ofInteger limit (n - 2) = .ok (.integer p) ∧
      factorial2.ofInteger limit n = .ok (.integer (n * p))) ∧
    (n ≤ 0 → Elementary.doubleFactorial n = 1) := by
  refine ⟨fact_ofInteger_eq_ok_iff, ?_, factorial2_ofInteger_eq_ok_iff,
    fun f factorial => ofInteger_eq_domain_iff factorial,
    fun natural within fits => fact_ofInteger ⟨natural, within⟩ fits, ?_, ?_,
    Elementary.doubleFactorial_of_nonpos⟩
  · rw [fact_ofInteger_eq_uncaught_iff]
    exact and_iff_right rfl
  · intro positive within
    have product := Elementary.doubleFactorial_mul_pred positive
    refine ⟨_, _, factorial2_ofInteger ⟨by omega, within⟩,
      factorial2_ofInteger ⟨by omega, by omega⟩, product, fun fits => ?_⟩
    rw [fact_ofInteger ⟨by omega, within⟩ fits, product]
  · intro two within
    refine ⟨_, factorial2_ofInteger ⟨by omega, by omega⟩, ?_⟩
    rw [factorial2_ofInteger ⟨by omega, within⟩, Elementary.doubleFactorial_of_pos (by omega)]

theorem factorials_consistent_six :
    (∃ p q, factorial2.ofInteger 6 6 = .ok (.integer p) ∧
      factorial2.ofInteger 6 5 = .ok (.integer q) ∧ p * q = 720 ∧
      fact.ofInteger 6 6 = .ok (.integer (p * q))) ∧
    fact.ofInteger 6 6 = .ok (.integer 720) ∧
    (∃ fault, factorial2.ofInteger 6 7 = .error (.domain fault)) ∧
    Elementary.doubleFactorial (-3) = 1 := by
  obtain ⟨_, _, _, _, value, product, _, _⟩ := factorials_consistent 6 6
  obtain ⟨p, q, hp, hq, factorial, fact_eq⟩ := product (by decide) (by decide)
  refine ⟨⟨p, q, hp, hq, factorial, fact_eq (by decide)⟩,
    value (by decide) (by decide) (by decide), ?_, ?_⟩
  · exact ((factorials_consistent 6 7).2.2.2.1 factorial2 (.inr rfl)).mpr (by decide)
  · exact (factorials_consistent 6 (-3)).2.2.2.2.2.2.2 (by decide)

/-- A limit that does not fit into a word admits an argument that does not either. -/
theorem fact_wide_uncaught :
    fact.ofInteger 9223372036854775808 9223372036854775808 =
      .error (.uncaught .wideFactorial) := by
  decide +kernel

end Integers

end Unary

end Reckoner
