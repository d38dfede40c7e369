import Reckoner.Text.Class

namespace Reckoner.Text

/-- No code point lies in a range of both sets. -/
def CodeRanges.Apart (xs ys : CodeRanges) : Prop :=
  ∀ x ∈ xs, ∀ y ∈ ys, x.2 < y.1 ∨ y.2 < x.1

instance (xs ys : CodeRanges) : Decidable (xs.Apart ys) :=
  inferInstanceAs (Decidable (∀ x ∈ xs, ∀ y ∈ ys, x.2 < y.1 ∨ y.2 < x.1))

theorem CodeRanges.contains_iff {ranges : CodeRanges} {c : Char} :
    ranges.contains c ↔ ∃ r ∈ ranges, r.1 ≤ c.toNat ∧ c.toNat ≤ r.2 := by
  simp only [contains, List.any_eq_true, Bool.and_eq_true, decide_eq_true_eq]

theorem CodeRanges.Apart.not_contains {xs ys : CodeRanges} (h : xs.Apart ys) {c : Char}
    (hx : xs.contains c) : ¬ ys.contains c := by
  intro hy
  obtain ⟨x, hx, hx₁, hx₂⟩ := contains_iff.mp hx
  obtain ⟨y, hy, hy₁, hy₂⟩ := contains_iff.mp hy
  have := h x hx y hy
  omega

theorem blanks_apart_wideLetters : blanks.Apart wideLetters := by decide +kernel

theorem isDigit_iff {c : Char} : c.isDigit ↔ 48 ≤ c.toNat ∧ c.toNat ≤ 57 :=
  (Bool.and_eq_true _ _).to_iff.trans (and_congr decide_eq_true_iff decide_eq_true_iff)

theorem isAlpha_iff {c : Char} :
    c.isAlpha ↔ 65 ≤ c.toNat ∧ c.toNat ≤ 90 ∨ 97 ≤ c.toNat ∧ c.toNat ≤ 122 :=
  (Bool.or_eq_true _ _).to_iff.trans (or_congr decide_eq_true_iff
    ((Bool.and_eq_true _ _).to_iff.trans (and_congr decide_eq_true_iff decide_eq_true_iff)))

theorem not_isDigit_of_isLetter {c : Char} (h : isLetter c) : ¬ c.isDigit := by
  unfold isLetter at h
  rw [isDigit_iff]
  split at h
  · rw [isAlpha_iff] at h
    omega
  · omega

theorem not_isBlank_of_isLetter {c : Char} (h : isLetter c) : ¬ isBlank c := by
  intro hb
  unfold isLetter at h
  split at h
  · rw [isAlpha_iff] at h
    have := CodeRanges.contains_iff.mp hb
    simp [blanks] at this
    omega
  · exact blanks_apart_wideLetters.not_contains hb h

theorem not_isBlank_of_isDigit {c : Char} (h : c.isDigit) : ¬ isBlank c := by
  intro hb
  rw [isDigit_iff] at h
  have := CodeRanges.contains_iff.mp hb
  simp [blanks] at this
  omega

end Reckoner.Text
