import Mathlib.Algebra.Order.Ring.Int
import Reckoner.Builtin.Call
import Reckoner.Proofs.Fault.Caught

namespace Reckoner

/-- The outcome of a call with two integers. -/
def Binary.ofIntegers (f : Binary) (m n : Int) : Except Fault Value :=
  f.call [.number (.integer m), .number (.integer n)]

/-- The outcome of a call with any number of integers. Integers are known by their value and need no
mark. -/
def Variadic.ofIntegers (f : Variadic) (ns : List Int) : Except Fault (Marked Value) :=
  f.call (ns.map fun n => .plain (.number (.integer n)))

theorem mapM_real_integers (function : String) (ns : List Int) :
    (ns.map fun n => .plain (.number (.integer n))).mapM (Marked.real function) =
      .ok (ns.map fun n => .plain (.integer n)) := by
  rw [mapM_eq_ok_iff, List.forall₂_map_left_iff, List.forall₂_map_right_iff, List.forall₂_same]
  exact fun n _ => rfl

namespace Binary

theorem gcd_ofIntegers (m n : Int) : gcd.ofIntegers m n = .ok (.integer (Int.gcd m n)) := by
  rw [ofIntegers, call_numbers]
  rfl

/-- The product without the common divisor is the least common multiple. Zero is the only one of
zero. -/
theorem lcm_ofIntegers (m n : Int) : lcm.ofIntegers m n = .ok (.integer (Int.lcm m n)) := by
  rw [ofIntegers, call_numbers]
  change (if m = 0 || n = 0 then Except.ok (Value.integer 0)
    else .ok (.integer (m.natAbs * n.natAbs / Int.gcd m n : Nat))).mapError Fault.domain = _
  split
  case isTrue zero =>
    have none : Int.lcm m n = 0 := by
      rw [Int.lcm_eq_zero_iff]
      simpa using zero
    rw [none]
    rfl
  case isFalse => rfl

/-- **The lattice of divisors.** For any two integers, divisor and multiple are natural numbers. The
one divides both and is divided by all that do, the other is divided by both and divides all that
are. Together they have the size of the product, and neither the order nor the signs matter. -/
theorem gcd_lcm_lattice (a b : Int) :
    ∃ g l : Nat, gcd.ofIntegers a b = .ok (.integer g) ∧ lcm.ofIntegers a b = .ok (.integer l) ∧
      ((g : Int) ∣ a ∧ (g : Int) ∣ b ∧ ∀ d : Int, d ∣ a → d ∣ b → d ∣ g) ∧
      (a ∣ l ∧ b ∣ l ∧ ∀ c : Int, a ∣ c → b ∣ c → (l : Int) ∣ c) ∧
      (g : Int) * l = |a * b| ∧
      (gcd.ofIntegers b a = .ok (.integer g) ∧ lcm.ofIntegers b a = .ok (.integer l)) ∧
      ∀ c d : Int, c.natAbs = a.natAbs → d.natAbs = b.natAbs →
        gcd.ofIntegers c d = .ok (.integer g) ∧ lcm.ofIntegers c d = .ok (.integer l) := by
  refine ⟨Int.gcd a b, Int.lcm a b, gcd_ofIntegers a b, lcm_ofIntegers a b, ?_, ?_, ?_, ?_, ?_⟩
  · exact ⟨Int.gcd_dvd_left a b, Int.gcd_dvd_right a b, fun d => Int.dvd_coe_gcd⟩
  · exact ⟨Int.dvd_lcm_left a b, Int.dvd_lcm_right a b, fun c => Int.coe_lcm_dvd⟩
  · rw [← Int.natCast_natAbs, Int.natAbs_mul, ← Int.gcd_mul_lcm, Nat.cast_mul]
  · rw [gcd_ofIntegers, lcm_ofIntegers, Int.gcd_comm, Int.lcm_comm]
    exact ⟨rfl, rfl⟩
  · intro c d left right
    rw [gcd_ofIntegers, lcm_ofIntegers, Int.gcd, Int.lcm, left, right]
    exact ⟨rfl, rfl⟩

example : gcd.ofIntegers (-4) 6 = .ok (.integer 2) ∧ lcm.ofIntegers (-4) 6 = .ok (.integer 12) ∧
    lcm.ofIntegers 0 0 = .ok (.integer 0) := by decide

end Binary

end Reckoner
