import Reckoner.Proofs.Value.Operands

/-!
Sums and products commute, whatever the variants of the operands. Sums and products of doubles do:
they are exact before they are rounded, and the sign, the size and the place of what is rounded are
reckoned alike from both sides. An operand that has no nearest double is reported from either side,
for then the other one is no integer and cannot fail.
-/
namespace Reckoner

variable {α β γ ε : Type}

/-- Of two computations of which one cannot fail it is indifferent which comes first. -/
theorem bind_comm_of_ok {m : Except ε α} {n : Except ε β} (f : α → β → Except ε γ)
    (sure : (∃ a, m = .ok a) ∨ ∃ b, n = .ok b) :
    (do f (← m) (← n)) = (do
      let b ← n
      f (← m) b) := by
  obtain ⟨a, rfl⟩ | ⟨b, rfl⟩ := sure
  · cases n <;> rfl
  · cases m <;> rfl

namespace Binary64

open Float.Model
open Float.Model.UnpackedFloat (Sign normalize decreaseExponent roundWithAccuracy)

theorem sign_mul_comm (s t : Sign) : s * t = t * s := by
  cases s <;> cases t <;> rfl

theorem unpacked_add_comm (format : Format) (x y : UnpackedFloat) :
    UnpackedFloat.add format x y = UnpackedFloat.add format y x := by
  cases x with
  | notANumber => cases y <;> rfl
  | infinity s =>
    cases y with
    | infinity t => cases s <;> cases t <;> rfl
    | notANumber | zero | finite => rfl
  | zero s =>
    cases y with
    | zero t => cases s <;> cases t <;> rfl
    | notANumber | infinity | finite => rfl
  | finite s m e _ =>
    cases y with
    | finite t n f _ =>
      let left (place : Int) := s.apply (decreaseExponent m e place).1
      let right (place : Int) := t.apply (decreaseExponent n f place).1
      change normalize format (left (min e f) + right (min e f)) (min e f) .positive =
        normalize format (right (min f e) + left (min f e)) (min f e) .positive
      rw [Int.min_comm f e, Int.add_comm (left _)]
    | notANumber | infinity | zero => rfl

theorem unpacked_mul_comm (format : Format) (x y : UnpackedFloat) :
    UnpackedFloat.mul format x y = UnpackedFloat.mul format y x := by
  cases x with
  | notANumber => cases y <;> rfl
  | infinity s =>
    cases y with
    | infinity t | finite t => exact congrArg UnpackedFloat.infinity (sign_mul_comm s t)
    | notANumber | zero => rfl
  | zero s =>
    cases y with
    | zero t | finite t => exact congrArg UnpackedFloat.zero (sign_mul_comm s t)
    | notANumber | infinity => rfl
  | finite s m e _ =>
    cases y with
    | finite t n f _ =>
      change roundWithAccuracy format (s * t) (m * n) (e + f) .exact =
        roundWithAccuracy format (t * s) (n * m) (f + e) .exact
      rw [sign_mul_comm s t, Nat.mul_comm m n, Int.add_comm e f]
    | infinity t => exact congrArg UnpackedFloat.infinity (sign_mul_comm s t)
    | zero t => exact congrArg UnpackedFloat.zero (sign_mul_comm s t)
    | notANumber => rfl

protected theorem add_comm (x y : Float) : x + y = y + x :=
  congrArg (fun z => Float.ofModel (pack z)) (unpacked_add_comm .binary64 _ _)

protected theorem mul_comm (x y : Float) : x * y = y * x :=
  congrArg (fun z => Float.ofModel (pack z)) (unpacked_mul_comm .binary64 _ _)

end Binary64

namespace Complex

protected theorem add_comm (z w : Complex) : z.add w = w.add z := by
  rw [add, add, Binary64.add_comm z.re, Binary64.add_comm z.im]

/-- The cross terms change places, and so their sum. -/
protected theorem mul_comm (z w : Complex) : z.mul w = w.mul z := by
  rw [mul, mul, Binary64.mul_comm z.re w.re, Binary64.mul_comm z.im w.im,
    Binary64.mul_comm z.re w.im, Binary64.mul_comm z.im w.re, Binary64.add_comm (w.im * z.re)]

end Complex

namespace Value

section

variable {f : Int → Int → Int} {g : Float → Float → Float} {h : Complex → Complex → Complex}

/-- An operation commutes if it does so on each variant: one of two operands that are promoted can
always be. -/
theorem promoting_comm (onIntegers : ∀ m n, f m n = f n m) (onDoubles : ∀ x y, g x y = g y x)
    (onComplexes : ∀ z w, h z w = h w z) (l r : Value) :
    promoting f g h l r = promoting f g h r l := by
  cases operands l r with
  | integers m n => exact congrArg (Except.ok ∘ integer) (onIntegers m n)
  | reals mixed =>
    rw [promoting_reals mixed, promoting_reals mixed.symm,
      bind_comm_of_ok (fun x y => pure (double (g x y))) mixed.exists_nearest]
    simp only [onDoubles]
  | complexes planar =>
    rw [promoting_complexes planar, promoting_complexes planar.symm,
      bind_comm_of_ok (fun z w => pure (complex (h z w))) planar.exists_toComplex]
    simp only [onComplexes]

end

end Value

/-- **Sums and products commute**: whichever operand stands first, the value is the same, or the
fault with all that it reports. -/
theorem Operator.add_mul_commute (l r : Value) :
    Operator.add.apply l r = Operator.add.apply r l ∧
      Operator.mul.apply l r = Operator.mul.apply r l := by
  constructor
  · exact Value.promoting_comm Int.add_comm Binary64.add_comm Complex.add_comm l r
  · exact Value.promoting_comm Int.mul_comm Binary64.mul_comm Complex.mul_comm l r

end Reckoner
