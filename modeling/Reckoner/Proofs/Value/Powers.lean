import Mathlib.Algebra.Field.Rat
import Mathlib.Algebra.Group.Int.Units
import Mathlib.Algebra.Ring.Int.Parity
import Reckoner.Value.Arithmetic
import Reckoner.Proofs.Fault.Caught

/-!
Powers of integers by integers. They are exact whenever the power is an integer, and no integer that
comes of them has more binary digits than `powerBits`: the digits of a power are at most those of
its base, taken as often as the exponent says, and this is what is looked at before the power is
taken (`apply_pow_integers`).
-/
namespace Reckoner

theorem bitLength_le_iff {n : Int} {size : Nat} : bitLength n ≤ size ↔ n.natAbs < 2 ^ size := by
  unfold bitLength
  split
  case isTrue zero =>
    rw [zero]
    exact ⟨fun _ => Nat.two_pow_pos size, fun _ => Nat.zero_le size⟩
  case isFalse filled => exact Nat.succ_le_iff.trans (Nat.log2_lt (Int.natAbs_ne_zero.mpr filled))

theorem natAbs_lt_two_pow_bitLength (n : Int) : n.natAbs < 2 ^ bitLength n :=
  bitLength_le_iff.mp (Nat.le_refl _)

namespace Value

/-- A power has the size of the power of the size, and the sign of its base if it is odd. -/
theorem pow_eq_signed (base : Int) (n : Nat) :
    base ^ n = if base < 0 && n % 2 = 1 then -((base.natAbs ^ n : Nat) : Int)
      else ((base.natAbs ^ n : Nat) : Int) := by
  rw [Nat.cast_pow]
  by_cases negative : base < 0
  · have sign : -(base.natAbs : Int) = base := by omega
    obtain even | odd := Nat.even_or_odd n
    · have parity := Nat.even_iff.mp even
      rw [if_neg (by simp [parity])]
      conv_rhs => rw [← even.neg_pow, sign]
    · have parity := Nat.odd_iff.mp odd
      rw [if_pos (by simp [negative, parity]), ← odd.neg_pow, sign]
  · rw [if_neg (by simp [negative]), Int.natAbs_of_nonneg (by omega)]

/-- Powers of zero and of the units, which are read off, are no exception. -/
theorem powNat_eq (base : Int) (n : Nat) : powNat base n = base ^ n := by
  unfold powNat
  split
  case isTrue zero => rw [zero, pow_zero]
  case isFalse filled =>
    have size : (if base.natAbs ≤ 1 then base.natAbs else Nat.pow base.natAbs n) =
        base.natAbs ^ n := by
      split
      case isTrue small =>
        obtain zero | unit : base.natAbs = 0 ∨ base.natAbs = 1 := by omega
        · rw [zero, zero_pow filled]
        · rw [unit, one_pow]
      case isFalse => rfl
    dsimp only
    rw [size, pow_eq_signed]

/-- The power is refused for its size, as it is reckoned from the digits of its base. -/
def TooWide (base : Int) (n : Nat) : Prop :=
  1 < base.natAbs ∧ powerBits < n * bitLength base

theorem TooWide.mono {base : Int} {m n : Nat} (wide : TooWide base m) (h : m ≤ n) :
    TooWide base n :=
  ⟨wide.1, Nat.lt_of_lt_of_le wide.2 (Nat.mul_le_mul_right _ h)⟩

/-- What is not too wide by that reckoning is not too wide. -/
theorem natAbs_pow_lt {base : Int} {n : Nat} (narrow : ¬ TooWide base n) :
    (base ^ n).natAbs < 2 ^ powerBits := by
  rw [Int.natAbs_pow]
  have unit : 1 < 2 ^ powerBits := Nat.one_lt_two_pow (by decide)
  by_cases filled : n = 0
  · rw [filled, pow_zero]
    exact unit
  by_cases small : base.natAbs ≤ 1
  · exact Nat.lt_of_le_of_lt (Nat.pow_le_one_iff filled |>.mpr small) unit
  have digits : n * bitLength base ≤ powerBits := by
    by_contra wide
    exact narrow ⟨by omega, by omega⟩
  calc base.natAbs ^ n
      < (2 ^ bitLength base) ^ n := Nat.pow_lt_pow_left (natAbs_lt_two_pow_bitLength base) filled
    _ = 2 ^ (n * bitLength base) := by rw [← pow_mul, Nat.mul_comm]
    _ ≤ 2 ^ powerBits := Nat.pow_le_pow_right (by decide) digits

/-- An integer of at least two has no integer among its negative powers, for its inverse would be
one. -/
theorem zpow_ne_intCast {base exponent : Int} (large : 1 < base.natAbs) (negative : exponent < 0)
    (n : Int) : (base : ℚ) ^ exponent ≠ n := by
  intro same
  obtain ⟨k, rfl⟩ : ∃ k : Nat, exponent = -((k + 1 : Nat) : Int) := ⟨exponent.natAbs - 1, by omega⟩
  rw [zpow_neg, zpow_natCast] at same
  have filled : (base : ℚ) ^ (k + 1) ≠ 0 := by
    apply pow_ne_zero
    rw [ne_eq, Rat.intCast_eq_zero_iff]
    omega
  have inverse : base ^ (k + 1) * n = 1 := by
    have inverse : (base : ℚ) ^ (k + 1) * n = 1 := by rw [← same, mul_inv_cancel₀ filled]
    exact_mod_cast inverse
  have unit : IsUnit base := isUnit_pow_succ_iff.mp (IsUnit.of_mul_eq_one _ inverse)
  have := Int.isUnit_iff_natAbs_eq.mp unit
  omega

/-- An integer power with a natural exponent. -/
theorem powInt_natural (base : Int) (n : Nat) :
    TooWide base n ∧ powInt base n = .error (.wideIntegerPower base n) ∨
      ¬ TooWide base n ∧ powInt base n = .ok (integer (base ^ n)) := by
  rw [powInt, if_pos (Int.natCast_nonneg n), Int.toNat_natCast, powNat_eq]
  have looked : (1 < base.natAbs && powerBits < n * bitLength base) = true ↔ TooWide base n := by
    rw [Bool.and_eq_true, decide_eq_true_iff, decide_eq_true_iff, TooWide]
  by_cases wide : TooWide base n
  · rw [if_pos (looked.mpr wide)]
    exact .inl ⟨wide, rfl⟩
  · rw [if_neg (looked.not.mpr wide)]
    exact .inr ⟨wide, rfl⟩

/-- An integer power with a negative exponent: zero has none, the powers of the units are units, and
no other power is an integer. -/
theorem powInt_negative {base exponent : Int} (negative : exponent < 0) :
    base = 0 ∧ powInt base exponent = .error (.zeroToNegative (.integer base) (.integer exponent)) ∨
    (∃ n : Int, n.natAbs = 1 ∧ (base : ℚ) ^ exponent = n ∧ powInt base exponent = .ok (integer n)) ∨
    1 < base.natAbs ∧
      powInt base exponent = (do
        return double (← Scalar.pow (.integer base) (.integer exponent))) := by
  unfold powInt
  rw [if_neg (by omega)]
  split
  case isTrue zero => exact .inl ⟨zero, rfl⟩
  split
  case isTrue one =>
    subst one
    exact .inr (.inl ⟨1, rfl, by rw [Int.cast_one, one_zpow], rfl⟩)
  split
  case isTrue minus =>
    subst minus
    refine .inr (.inl ?_)
    obtain even | odd := Int.even_or_odd exponent
    · refine ⟨1, rfl, ?_, by rw [if_pos (Int.even_iff.mp even)]⟩
      rw [Int.cast_neg, Int.cast_one, even.neg_one_zpow]
    · refine ⟨-1, rfl, ?_, by rw [if_neg (by rw [Int.odd_iff.mp odd]; decide)]⟩
      rw [Int.cast_neg, Int.cast_one, odd.neg_one_zpow]
  case isFalse => exact .inr (.inr ⟨by omega, rfl⟩)

/-- What a power is if it has a value: the integer that it is, not too wide, or else a double. -/
theorem value_of_powInt {base exponent : Int} {v : Value} (made : powInt base exponent = .ok v) :
    (∃ n : Int, v = integer n ∧ (base : ℚ) ^ exponent = n ∧ n.natAbs < 2 ^ powerBits) ∨
      (∃ x, v = double x) ∧ ∀ n : Int, (base : ℚ) ^ exponent ≠ n := by
  obtain natural | negative : 0 ≤ exponent ∨ exponent < 0 := by omega
  · obtain ⟨n, rfl⟩ := Int.eq_ofNat_of_zero_le natural
    obtain ⟨_, refused⟩ | ⟨narrow, power⟩ := powInt_natural base n
    · rw [refused] at made
      cases made
    · rw [power] at made
      cases made
      refine .inl ⟨base ^ n, rfl, ?_, natAbs_pow_lt narrow⟩
      rw [zpow_natCast, Int.cast_pow]
  · obtain ⟨_, refused⟩ | ⟨n, unit, same, power⟩ | ⟨large, power⟩ := powInt_negative negative
    · rw [refused] at made
      cases made
    · rw [power] at made
      cases made
      exact .inl ⟨n, rfl, same, by rw [unit]; exact Nat.one_lt_two_pow (by decide)⟩
    · rw [power] at made
      obtain ⟨x, _, made⟩ := bind_eq_ok_iff.mp made
      cases made
      exact .inr ⟨⟨x, rfl⟩, zpow_ne_intCast large negative⟩

end Value

namespace Operator

/-- The power of two integers has a value. -/
def HasPower (base exponent : Int) : Prop :=
  ∃ v, Operator.pow.apply (.integer base) (.integer exponent) = .ok v

theorem hasPower_natural_iff {base : Int} {n : Nat} :
    HasPower base n ↔ ¬ Value.TooWide base n := by
  change (∃ v, Value.powInt base n = .ok v) ↔ _
  obtain ⟨wide, refused⟩ | ⟨narrow, power⟩ := Value.powInt_natural base n
  · refine iff_of_false ?_ (not_not_intro wide)
    rw [refused]
    rintro ⟨_, made⟩
    cases made
  · refine iff_of_true ?_ narrow
    rw [power]
    exact ⟨_, rfl⟩

theorem HasPower.mono {base : Int} {m n : Nat} (accepted : HasPower base n) (h : m ≤ n) :
    HasPower base m :=
  hasPower_natural_iff.mpr fun wide => hasPower_natural_iff.mp accepted (wide.mono h)

theorem not_hasPower_zero {exponent : Int} (negative : exponent < 0) : ¬ HasPower 0 exponent := by
  change ¬ ∃ v, Value.powInt 0 exponent = .ok v
  obtain ⟨_, refused⟩ | ⟨n, unit, same, _⟩ | ⟨large, _⟩ :=
    @Value.powInt_negative 0 exponent negative
  · rw [refused]
    rintro ⟨_, made⟩
    cases made
  · rw [Int.cast_zero, zero_zpow exponent (by omega)] at same
    have : n = 0 := Rat.intCast_eq_zero_iff.mp same.symm
    omega
  · cases large

/-- **Integer powers are exact and bounded.** If the power of two integers has a value, this is an
integer just if the power is one as a rational number; then it is that power, of at most 65536
binary digits. What has the power of some natural exponent has those of all smaller ones. A natural
exponent is refused for nothing but its size, times the digits of a base that is neither zero nor a
unit, and a negative one of zero always. -/
theorem apply_pow_integers (base exponent : Int) :
    (∀ v, Operator.pow.apply (.integer base) (.integer exponent) = .ok v →
      ((∃ n, v = .integer n) ↔ ∃ n : Int, (base : ℚ) ^ exponent = n) ∧
      ∀ n, v = .integer n →
        (base : ℚ) ^ exponent = n ∧ n.natAbs < 2 ^ 65536 ∧ bitLength n ≤ 65536) ∧
    (∀ m n : Nat, m ≤ n → HasPower base n → HasPower base m) ∧
    (0 ≤ exponent → (HasPower base exponent ↔
      ¬ (1 < base.natAbs ∧ 65536 < exponent.toNat * bitLength base))) ∧
    (exponent < 0 → base = 0 → ¬ HasPower base exponent) := by
  refine ⟨?_, fun m n less accepted => accepted.mono less, ?_, ?_⟩
  · intro v made
    obtain ⟨n, rfl, same, narrow⟩ | ⟨⟨x, rfl⟩, other⟩ := Value.value_of_powInt made
    · refine ⟨⟨fun _ => ⟨n, same⟩, fun _ => ⟨n, rfl⟩⟩, ?_⟩
      rw [Value.powerBits] at narrow
      rintro _ ⟨rfl⟩
      exact ⟨same, narrow, bitLength_le_iff.mpr narrow⟩
    · refine ⟨⟨?_, fun ⟨n, same⟩ => absurd same (other n)⟩, ?_⟩
      · rintro ⟨n, integral⟩
        cases integral
      · intro n integral
        cases integral
  · intro natural
    obtain ⟨n, rfl⟩ := Int.eq_ofNat_of_zero_le natural
    exact hasPower_natural_iff
  · rintro negative rfl
    exact not_hasPower_zero negative

theorem apply_pow_two :
    HasPower 2 32768 ∧ ¬ HasPower 2 32769 ∧ ¬ HasPower 0 (-1) ∧
      ((-2 : Int) : ℚ) ^ (3 : Int) = ((-8 : Int) : ℚ) := by
  refine ⟨?_, ?_, ?_, ?_⟩
  · exact ((apply_pow_integers 2 32768).2.2.1 (by decide)).mpr (by decide)
  · exact fun accepted => ((apply_pow_integers 2 32769).2.2.1 (by decide)).mp accepted (by decide)
  · exact (apply_pow_integers 0 (-1)).2.2.2 (by decide) rfl
  · exact (((apply_pow_integers (-2) 3).1 (.integer (-8)) (by rfl)).2 (-8) rfl).1

end Operator

end Reckoner
