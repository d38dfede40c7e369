import Reckoner.Token.Tree

namespace Reckoner

namespace Token

/-- An operator or a sign of the grammar. -/
def IsConnective (t : Token) : Prop :=
  t.isSign ∨ t.isBinary

theorem IsConnective.isOperator {t : Token} (h : t.IsConnective) : t.isOperator := by
  obtain h | h := h
  · obtain ⟨hk, _⟩ := (Bool.and_eq_true _ _).mp h
    simp [Token.isOperator, Kind.isOperator, eq_of_beq hk]
  · obtain ⟨hk, _⟩ := (Bool.and_eq_true _ _).mp h
    simp [Token.isOperator, Kind.isOperator, eq_of_beq hk]

/-- What groups from the right is a sign or a power, so how tight an operator binds also says from
which side it groups. -/
theorem IsConnective.isLeftAssociative_iff {t : Token} (h : t.IsConnective) :
    t.isLeftAssociative ↔ t.precedence < 4 := by
  have ho := h.isOperator
  obtain h | h := h
  · obtain ⟨_, hl⟩ := (Bool.and_eq_true _ _).mp h
    simp [isLeftAssociative, precedence, ho, eq_of_beq hl, strength, negation]
  · obtain ⟨_, hl⟩ := (Bool.and_eq_true _ _).mp h
    obtain ⟨op, hop⟩ := Option.isSome_iff_exists.mp hl
    rw [isLeftAssociative, precedence, if_pos ho, ← Operator.symbol_of_ofSymbol? hop]
    cases op <;> decide

theorem appliedBefore_iff {t top : Token} (hop : top.isOperator) :
    t.appliedBefore top ↔ t.precedence < top.precedence ∨
      top.precedence = t.precedence ∧ t.isLeftAssociative := by
  simp only [appliedBefore, hop, Bool.true_and, Bool.or_eq_true, decide_eq_true_eq,
    Bool.and_eq_true, beq_iff_eq]

/-- An operator in the right operand of the one that waits on top does not make that one apply. -/
theorem not_appliedBefore {t top : Token} (ht : t.IsConnective)
    (htop : top.isOperator → top.IsConnective ∧ top.rightStrength ≤ t.precedence) :
    ¬ t.appliedBefore top := by
  intro h
  by_cases hop : top.isOperator
  · obtain ⟨hc, hle⟩ := htop hop
    rw [appliedBefore_iff hop, ht.isLeftAssociative_iff] at h
    simp only [rightStrength, hc.isLeftAssociative_iff] at hle
    split at hle <;> omega
  · simp [appliedBefore, hop] at h

/-- What waits in the left operand of an operator is applied before it. -/
theorem appliedBefore_of_leftStrength_le {t top : Token} (hop : top.isOperator)
    (hle : t.leftStrength ≤ top.precedence) : t.appliedBefore top := by
  rw [appliedBefore_iff hop]
  simp only [leftStrength] at hle
  split at hle
  · rename_i left
    obtain heq | hlt := Nat.eq_or_lt_of_le hle
    · exact Or.inr ⟨heq.symm, left⟩
    · exact Or.inl hlt
  · exact Or.inl hle

theorem rightStrength_of_isSign {t : Token} (h : t.isSign) : t.rightStrength = t.precedence := by
  obtain ⟨_, hl⟩ := (Bool.and_eq_true _ _).mp h
  simp [rightStrength, isLeftAssociative, eq_of_beq hl]

theorem precedence_le_leftStrength (t : Token) : t.precedence ≤ t.leftStrength := by
  unfold leftStrength
  split <;> omega

theorem precedence_le_rightStrength (t : Token) : t.precedence ≤ t.rightStrength := by
  unfold rightStrength
  split <;> omega

end Token

end Reckoner
