import Reckoner.Value.Arithmetic

namespace Reckoner.Value

/-- Two real numbers that are not both integers. -/
inductive Mixed : Scalar → Scalar → Prop where
  | left (x : Float) (b : Scalar) : Mixed (.double x) b
  | right (a : Scalar) (y : Float) : Mixed a (.double y)

/-- Two numbers that are not both real. -/
inductive Planar : Value → Value → Prop where
  | left (z : Complex) (r : Value) : Planar (complex z) r
  | right (l : Value) (w : Complex) : Planar l (complex w)

inductive Operands : Value → Value → Prop where
  | integers (m n : Int) : Operands (integer m) (integer n)
  | reals {a b : Scalar} (mixed : Mixed a b) : Operands a.toValue b.toValue
  | complexes {l r : Value} (planar : Planar l r) : Operands l r

theorem operands (l r : Value) : Operands l r := by
  cases l with
  | integer m =>
    cases r with
    | integer n => exact .integers m n
    | double y => exact .reals (.right (.integer m) y)
    | complex w => exact .complexes (.right _ w)
  | double x =>
    cases r with
    | integer n => exact .reals (.left x (.integer n))
    | double y => exact .reals (.left x (.double y))
    | complex w => exact .complexes (.right _ w)
  | complex z => exact .complexes (.left z r)

section Mixed

variable {a b : Scalar}

theorem Mixed.symm (mixed : Mixed a b) : Mixed b a := by
  cases mixed with
  | left x b => exact .right b x
  | right a y => exact .left y a

/-- One of them is its own nearest double. -/
theorem Mixed.exists_nearest (mixed : Mixed a b) :
    (∃ x, a.nearest = .ok x) ∨ ∃ y, b.nearest = .ok y := by
  cases mixed with
  | left x b => exact .inl ⟨x, rfl⟩
  | right a y => exact .inr ⟨y, rfl⟩

theorem rank_reals (mixed : Mixed a b) :
    max a.toValue.variant.rank b.toValue.variant.rank = 1 := by
  cases mixed with
  | left x b => cases b <;> rfl
  | right a y => cases a <;> rfl

theorem promoting_reals {f : Int → Int → Int} {g : Float → Float → Float}
    {h : Complex → Complex → Complex} (mixed : Mixed a b) :
    promoting f g h a.toValue b.toValue =
      (do return double (g (← a.nearest) (← b.nearest))) := by
  cases mixed with
  | left x b => cases b <;> rfl
  | right a y => cases a <;> rfl

theorem div_reals (mixed : Mixed a b) :
    div a.toValue b.toValue =
      if b.isZero then .error (.divisionByZero b.toValue)
      else do return double ((← a.nearest) / (← b.nearest)) := by
  cases mixed with
  | left x b => cases b <;> rfl
  | right a y => cases a <;> rfl

theorem mod_reals (mixed : Mixed a b) :
    mod a.toValue b.toValue =
      if b.isZero then .error (.moduloByZero b.toValue)
      else do return double (Binary64.modulus (← a.nearest) (← b.nearest).abs) := by
  cases mixed with
  | left x b => cases b <;> rfl
  | right a y => cases a <;> rfl

theorem pow_reals (mixed : Mixed a b) :
    pow a.toValue b.toValue = (do return double (← a.pow b)) := by
  cases mixed with
  | left x b => cases b <;> rfl
  | right a y => cases a <;> rfl

end Mixed

section Planar

variable {l r : Value}

theorem Planar.symm (planar : Planar l r) : Planar r l := by
  cases planar with
  | left z r => exact .right r z
  | right l w => exact .left w l

theorem planar_iff : Planar l r ↔ l.variant = .complex ∨ r.variant = .complex := by
  constructor
  · intro planar
    cases planar with
    | left z r => exact .inl rfl
    | right l w => exact .inr rfl
  · rintro (complex | complex)
    · cases l with
      | complex z => exact .left z r
      | integer | double => cases complex
    · cases r with
      | complex w => exact .right l w
      | integer | double => cases complex

/-- One of them lies in the plane as it is. -/
theorem Planar.exists_toComplex (planar : Planar l r) :
    (∃ z, l.toComplex = .ok z) ∨ ∃ w, r.toComplex = .ok w := by
  cases planar with
  | left z r => exact .inl ⟨z, rfl⟩
  | right l w => exact .inr ⟨w, rfl⟩

theorem rank_complexes (planar : Planar l r) : max l.variant.rank r.variant.rank = 2 := by
  cases planar with
  | left z r => cases r <;> rfl
  | right l w => cases l <;> rfl

theorem promoting_complexes {f : Int → Int → Int} {g : Float → Float → Float}
    {h : Complex → Complex → Complex} (planar : Planar l r) :
    promoting f g h l r = (do return .complex (h (← l.toComplex) (← r.toComplex))) := by
  cases planar with
  | left z r => cases r <;> rfl
  | right l w => cases l <;> rfl

theorem div_complexes (planar : Planar l r) :
    div l r = (do
      match (← l.toComplex).div? (← r.toComplex) with
      | some z => return .complex z
      | none => .error (.complexDivisionByZero r)) := by
  cases planar with
  | left z r => cases r <;> rfl
  | right l w => cases l <;> rfl

theorem mod_complexes (planar : Planar l r) : mod l r = .error (.complexModulo l r) := by
  cases planar with
  | left z r => cases r <;> rfl
  | right l w => cases l <;> rfl

theorem pow_complexExponent (a : Scalar) (w : Complex) :
    pow a.toValue (complex w) = (do
      match Complex.pow ⟨← a.nearest, 0.0⟩ w with
      | .ok z => return .complex z
      | .error trap => .error (.complexPower a.toValue (complex w) trap)) := by
  cases a <;> rfl

end Planar

end Reckoner.Value
