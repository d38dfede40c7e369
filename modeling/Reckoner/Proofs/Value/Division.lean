import Reckoner.Value.Arithmetic

namespace Reckoner

/-- By the size of a divisor the division that rounds down leaves what the Euclidean one leaves. -/
theorem fmod_natAbs (a b : Int) : a.fmod b.natAbs = a % b := by
  rw [Int.fmod_eq_emod_of_nonneg a (Int.natCast_nonneg _)]
  obtain positive | negative := Int.le_total 0 b
  · rw [Int.natAbs_of_nonneg positive]
  · rw [Int.ofNat_natAbs_of_nonpos negative, Int.emod_neg]

/-- Whichever way a division rounds, it is exact for the same operands. -/
theorem fmod_eq_zero_iff {a b : Int} : a.fmod b = 0 ↔ a % b = 0 :=
  Int.dvd_iff_fmod_eq_zero.symm.trans Int.dvd_iff_emod_eq_zero

theorem fdiv_of_emod_eq_zero {a b : Int} (divides : a % b = 0) : a.fdiv b = a / b :=
  Int.fdiv_eq_ediv_of_dvd (Int.dvd_of_emod_eq_zero divides)

namespace Value

variable {a b : Int}

theorem mod_integers (a : Int) (filled : b ≠ 0) :
    mod (integer a) (integer b) = .ok (integer (a % b)) := by
  change (if b == 0 then _ else _) = _
  rw [if_neg (by simpa using filled)]

/-- What comes of a quotient of integers, by its remainder. -/
theorem divInt_by_remainder (a : Int) (filled : b ≠ 0) :
    a % b = 0 ∧ divInt a b = .ok (integer (a / b)) ∨
      a % b ≠ 0 ∧ ((∃ x, divInt a b = .ok (double x)) ∨ divInt a b = .error .wideQuotient) := by
  unfold divInt
  rw [if_neg filled]
  by_cases divides : a % b = 0
  · rw [if_pos divides]
    exact .inl ⟨divides, rfl⟩
  · rw [if_neg divides]
    refine .inr ⟨divides, ?_⟩
    cases Binary64.quotient? a b with
    | some x => exact .inl ⟨x, rfl⟩
    | none => exact .inr rfl

/-- A quotient is an integer just if this is exact. -/
theorem divInt_eq_integer_iff {a b q : Int} (filled : b ≠ 0) :
    divInt a b = .ok (integer q) ↔ q * b = a := by
  constructor
  · intro made
    obtain ⟨divides, quotient⟩ | ⟨_, ⟨x, near⟩ | wide⟩ := divInt_by_remainder a filled
    · rw [quotient] at made
      cases made
      exact Int.ediv_mul_cancel_of_emod_eq_zero divides
    · rw [near] at made
      cases made
    · rw [wide] at made
      cases made
  · rintro rfl
    rw [divInt, if_neg filled, if_pos (Int.mul_emod_left q b), Int.mul_ediv_cancel q filled]

theorem exists_divInt_eq_integer_iff (a : Int) (filled : b ≠ 0) :
    (∃ q, divInt a b = .ok (integer q)) ↔ a % b = 0 := by
  simp only [divInt_eq_integer_iff filled]
  rw [← Int.dvd_iff_emod_eq_zero]
  exact ⟨fun ⟨q, quotient⟩ => ⟨q, by rw [← quotient, Int.mul_comm]⟩,
    fun ⟨q, multiple⟩ => ⟨q, by rw [multiple, Int.mul_comm]⟩⟩

end Value

namespace Operator

/-- **Quotient and remainder of integers.** By zero both are refused. By any other divisor the
remainder is the least natural number that the dividend leaves, whatever the signs, and multiples of
the divisor do not change it. The quotient is an integer just where the remainder is zero, and then
exact; else it is a double, unless that is too wide. -/
theorem apply_div_mod (a b : Int) :
    (b = 0 → Operator.div.apply (.integer a) (.integer b) = .error (.divisionByZero (.integer b)) ∧
      Operator.mod.apply (.integer a) (.integer b) = .error (.moduloByZero (.integer b))) ∧
    (b ≠ 0 → ∃ r : Int,
      Operator.mod.apply (.integer a) (.integer b) = .ok (.integer r) ∧
      0 ≤ r ∧ r < b.natAbs ∧ b ∣ a - r ∧
      (∀ k : Int, Operator.mod.apply (.integer (a + k * b)) (.integer b) = .ok (.integer r)) ∧
      ((∃ q, Operator.div.apply (.integer a) (.integer b) = .ok (.integer q)) ↔ r = 0) ∧
      (∀ q, Operator.div.apply (.integer a) (.integer b) = .ok (.integer q) → q * b = a) ∧
      (r ≠ 0 → (∃ x, Operator.div.apply (.integer a) (.integer b) = .ok (.double x)) ∨
        Operator.div.apply (.integer a) (.integer b) = .error .wideQuotient)) := by
  constructor
  · rintro rfl
    exact ⟨rfl, rfl⟩
  intro filled
  refine ⟨a % b, Value.mod_integers a filled, Int.emod_nonneg a filled, Int.emod_lt a filled,
    Int.dvd_self_sub_emod, ?_, ?_⟩
  · intro k
    rw [← Int.add_mul_emod_self_right a k b]
    exact Value.mod_integers _ filled
  refine ⟨Value.exists_divInt_eq_integer_iff a filled,
    fun q => (Value.divInt_eq_integer_iff filled).mp, fun leaves => ?_⟩
  obtain ⟨divides, _⟩ | ⟨_, double⟩ := Value.divInt_by_remainder a filled
  · exact absurd divides leaves
  · exact double

theorem apply_mod_negative :
    (-3 : Int) ≠ 0 ∧ ∃ r : Int,
      Operator.mod.apply (.integer (-7)) (.integer (-3)) = .ok (.integer r) ∧ 0 ≤ r ∧ r < 3 := by
  obtain ⟨r, remainder, low, high, _⟩ := (apply_div_mod (-7) (-3)).2 (by decide)
  exact ⟨by decide, r, remainder, low, high⟩

end Operator

end Reckoner
