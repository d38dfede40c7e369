import Reckoner.Proofs.Value.Operands
import Reckoner.Proofs.Value.Traps

namespace Reckoner

/-- The result has the greater variant of the operands. -/
def Value.Promoted (l r v : Value) : Prop :=
  v.variant.rank = max l.variant.rank r.variant.rank

/-- What leaves the integers: a quotient or a power of two integers that is a double. -/
def Operator.Leaves (op : Operator) (l r v : Value) : Prop :=
  (op = .div ∨ op = .pow) ∧ l.variant = .integer ∧ r.variant = .integer ∧ v.variant = .double

/-- Operands for which an operator has no result at all. -/
def Operator.Refuses (op : Operator) (l r : Value) : Prop :=
  op = .mod ∧ (l.variant = .complex ∨ r.variant = .complex) ∨ op = .pow ∧ l.variant = .complex

namespace Value

variable {l r v : Value} {a b : Scalar}

theorem Promoted.eq_complex (promoted : Promoted l r v) (planar : Planar l r) :
    v.variant = .complex := by
  rw [Promoted, rank_complexes planar] at promoted
  cases variant : v.variant with
  | complex => rfl
  | integer | double =>
    rw [variant] at promoted
    cases promoted

theorem promoted_of_onDoubles {g : Float → Float → Float} (mixed : Mixed a b)
    (made : (do return double (g (← a.nearest) (← b.nearest))) = Except.ok v) :
    Promoted a.toValue b.toValue v := by
  obtain ⟨x, _, made⟩ := bind_eq_ok_iff.mp made
  obtain ⟨y, _, made⟩ := bind_eq_ok_iff.mp made
  cases made
  exact (rank_reals mixed).symm

theorem promoted_of_promoting {f : Int → Int → Int} {g : Float → Float → Float}
    {h : Complex → Complex → Complex} (made : promoting f g h l r = .ok v) : Promoted l r v := by
  cases operands l r with
  | integers m n =>
    cases made
    rfl
  | reals mixed =>
    rw [promoting_reals mixed] at made
    exact promoted_of_onDoubles mixed made
  | complexes planar =>
    rw [promoting_complexes planar] at made
    obtain ⟨z, _, made⟩ := bind_eq_ok_iff.mp made
    obtain ⟨w, _, made⟩ := bind_eq_ok_iff.mp made
    cases made
    exact (rank_complexes planar).symm

/-- A result of two integers is promoted or leaves the integers as a double. -/
theorem promoted_or_double {m n : Int} (h : v.variant = .integer ∨ v.variant = .double) :
    Promoted (integer m) (integer n) v ∨ v.variant = .double := by
  refine h.imp_left fun variant => ?_
  rw [Promoted, variant]
  rfl

theorem variant_of_divInt {m n : Int} (made : divInt m n = .ok v) :
    v.variant = .integer ∨ v.variant = .double := by
  unfold divInt at made
  split at made
  · cases made
  · split at made
    · cases made
      exact .inl rfl
    · split at made
      · cases made
        exact .inr rfl
      · cases made

theorem promoted_of_div (made : l.div r = .ok v) :
    Promoted l r v ∨ Operator.div.Leaves l r v := by
  cases operands l r with
  | integers m n =>
    exact (promoted_or_double (variant_of_divInt made)).imp_right (⟨.inl rfl, rfl, rfl, ·⟩)
  | reals mixed =>
    rw [div_reals mixed] at made
    split at made
    · cases made
    · exact .inl (promoted_of_onDoubles mixed made)
  | complexes planar =>
    rw [div_complexes planar] at made
    obtain ⟨z, _, made⟩ := bind_eq_ok_iff.mp made
    obtain ⟨w, _, made⟩ := bind_eq_ok_iff.mp made
    split at made
    · cases made
      exact .inl (rank_complexes planar).symm
    · cases made

theorem promoted_of_mod (made : l.mod r = .ok v) : Promoted l r v := by
  cases operands l r with
  | integers m n =>
    change (if n == 0 then _ else _) = _ at made
    split at made
    · cases made
    · cases made
      rfl
  | reals mixed =>
    rw [mod_reals mixed] at made
    split at made
    · cases made
    · exact promoted_of_onDoubles mixed made
  | complexes planar =>
    rw [mod_complexes planar] at made
    cases made

theorem variant_of_powInt {m n : Int} (made : powInt m n = .ok v) :
    v.variant = .integer ∨ v.variant = .double := by
  unfold powInt at made
  split at made
  · split at made
    · cases made
    · cases made
      exact .inl rfl
  · split at made
    · cases made
    · split at made
      · cases made
        exact .inl rfl
      · split at made
        · cases made
          exact .inl rfl
        · obtain ⟨x, _, made⟩ := bind_eq_ok_iff.mp made
          cases made
          exact .inr rfl

theorem promoted_of_powComplex {w : Complex}
    (made : pow a.toValue (complex w) = .ok v) : Promoted a.toValue (complex w) v := by
  have planar : Planar a.toValue (complex w) := .right _ w
  rw [pow_complexExponent] at made
  obtain ⟨x, _, made⟩ := bind_eq_ok_iff.mp made
  split at made
  · cases made
    exact (rank_complexes planar).symm
  · cases made

theorem promoted_of_pow (made : l.pow r = .ok v) :
    Promoted l r v ∨ Operator.pow.Leaves l r v := by
  cases operands l r with
  | integers m n =>
    exact (promoted_or_double (variant_of_powInt made)).imp_right (⟨.inr rfl, rfl, rfl, ·⟩)
  | reals mixed =>
    rw [pow_reals mixed] at made
    obtain ⟨x, _, made⟩ := bind_eq_ok_iff.mp made
    cases made
    exact .inl (rank_reals mixed).symm
  | complexes planar =>
    cases planar with
    | left z r => cases made
    | right l w =>
      cases l with
      | integer m => exact .inl (promoted_of_powComplex (a := .integer m) made)
      | double x => exact .inl (promoted_of_powComplex (a := .double x) made)
      | complex z => cases made

end Value

namespace Operator

variable {op : Operator} {l r v : Value}

theorem promoted_or_leaves (made : op.apply l r = .ok v) :
    Value.Promoted l r v ∨ op.Leaves l r v := by
  cases op with
  | add | sub | mul => exact .inl (Value.promoted_of_promoting made)
  | div => exact Value.promoted_of_div made
  | mod => exact .inl (Value.promoted_of_mod made)
  | pow => exact Value.promoted_of_pow made

theorem apply_of_refuses (refuses : op.Refuses l r) : ∃ fault, op.apply l r = .error fault := by
  obtain ⟨rfl, complex⟩ | ⟨rfl, complex⟩ := refuses
  · exact ⟨_, Value.mod_complexes (Value.planar_iff.mpr complex)⟩
  · change ∃ fault, l.pow r = .error fault
    unfold Value.pow
    rw [Value.scalar?_eq_none_iff.mpr complex]
    exact ⟨_, rfl⟩

/-- **Closure and promotion.** With all failures of the primitives in view, an operator on any two
numbers reports a fault of the domain or has a value. The value has the greater variant of the
operands, but that a quotient and a power of two integers may be a double; a complex operand makes
it complex. A remainder with a complex operand and a power of a complex base are always refused. -/
theorem apply_promotes (op : Operator) (l r : Value) :
    op.exposed l r = Datum.apply op (.number l) (.number r) ∧
    ((∃ fault, op.exposed l r = .error (.domain fault)) ∨
      ∃ v, op.exposed l r = .ok v ∧ (Value.Promoted l r v ∨ op.Leaves l r v) ∧
        (l.variant = .complex ∨ r.variant = .complex → v.variant = .complex)) ∧
    (op.Refuses l r → ∃ fault, op.exposed l r = .error (.domain fault)) := by
  rw [Datum.apply_number, exposed_eq]
  refine ⟨rfl, ?_, ?_⟩
  · cases made : op.apply l r with
    | error fault => exact .inl ⟨fault, rfl⟩
    | ok v =>
      have promoted := promoted_or_leaves made
      refine .inr ⟨v, rfl, promoted, fun complex => ?_⟩
      obtain promoted | ⟨_, left, right, _⟩ := promoted
      · exact promoted.eq_complex (Value.planar_iff.mpr complex)
      · rw [left, right] at complex
        obtain complex | complex := complex <;> cases complex
  · intro refuses
    obtain ⟨fault, failed⟩ := apply_of_refuses refuses
    rw [failed]
    exact ⟨fault, rfl⟩

theorem exposed_pow_complex :
    ∃ fault, Operator.pow.exposed (.complex ⟨0.0, 1.0⟩) (.integer 2) = .error (.domain fault) :=
  (apply_promotes .pow (.complex ⟨0.0, 1.0⟩) (.integer 2)).2.2 (.inr ⟨rfl, rfl⟩)

end Operator

end Reckoner
