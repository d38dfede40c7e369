import Reckoner.Proofs.Fault.Caught
import Reckoner.Proofs.Sorting.Permutation
import Reckoner.Statistics

namespace Reckoner.Statistics

/-- The mean of numbers that are not none. -/
def center (xs : List Float) : Float :=
  sum xs / Float.ofNat xs.length

/-- A deviation from the mean is finite, but its square lies beyond the finite doubles. -/
def SquaresOverflow (xs : List Float) : Prop :=
  ∃ x ∈ xs, (x - center xs).isFinite ∧ ((x - center xs) * (x - center xs)).isInf

theorem mean_eq {xs : List Float} (h : 0 < xs.length) : mean xs = .ok (center xs) := by
  have filled : ¬ xs.isEmpty := by
    rw [List.isEmpty_iff_length_eq_zero]
    omega
  exact if_neg filled

theorem square_eq_error_iff {x : Float} {trap : Trap} :
    Elementary.square x = .error trap ↔ trap = .square ∧ x.isFinite ∧ (x * x).isInf := by
  unfold Elementary.square
  rw [← Bool.and_eq_true]
  constructor
  · intro h
    split at h
    · rename_i overflow
      cases h
      exact ⟨rfl, overflow⟩
    · cases h
  · rintro ⟨rfl, overflow⟩
    exact if_pos overflow

theorem mapM_square_eq_error_iff {xs : List Float} {c : Float} {trap : Trap} :
    xs.mapM (fun x => Elementary.square (x - c)) = .error trap ↔
      trap = .square ∧ ∃ x ∈ xs, (x - c).isFinite ∧ ((x - c) * (x - c)).isInf := by
  constructor
  · intro h
    obtain ⟨x, hx, hsquare⟩ := mem_of_mapM_eq_error h
    obtain ⟨htrap, overflow⟩ := square_eq_error_iff.mp hsquare
    exact ⟨htrap, x, hx, overflow⟩
  · rintro ⟨rfl, x, hx, overflow⟩
    cases h : xs.mapM fun x => Elementary.square (x - c) with
    | error trap =>
      obtain ⟨y, _, hsquare⟩ := mem_of_mapM_eq_error h
      rw [(square_eq_error_iff.mp hsquare).1]
    | ok squares =>
      obtain ⟨y, _, hy⟩ := exists_of_mapM_eq_ok h x hx
      rw [square_eq_error_iff.mpr ⟨rfl, overflow⟩] at hy
      cases hy

/-- **The variance of two and more numbers.** It fails exactly if the square of a deviation is too
large. -/
theorem variance_eq_error_iff {xs : List Float} (h : 2 ≤ xs.length) {trap : Trap} :
    variance xs = .error trap ↔ trap = .square ∧ SquaresOverflow xs := by
  have several : ¬ xs.length = 1 := by omega
  rw [SquaresOverflow, ← mapM_square_eq_error_iff]
  unfold variance
  rw [mean_eq (by omega)]
  cases hsquares : xs.mapM fun x => Elementary.square (x - center xs) with
  | error e => simp only [bind, Except.bind, hsquares, Except.error.injEq]
  | ok squares =>
    simp only [bind, Except.bind, hsquares, if_neg several, pure, Except.pure, reduceCtorEq]

theorem exists_median {xs : List (Marked Float)} (h : 0 < xs.length) :
    ∃ x, median xs = .ok x := by
  have length := (Sorting.perm_sort (fun x y => decide (x.content < y.content)) xs).length_eq
  unfold median
  dsimp only
  split
  · rename_i none
    have short := congrArg List.length none
    rw [List.length_drop, List.length_nil] at short
    omega
  · exact ⟨_, rfl⟩
  · split <;> exact ⟨_, rfl⟩

theorem count_ne_nil (x : Marked Scalar) (counts : List (Marked Scalar × Nat)) :
    count x counts ≠ [] := by
  cases counts with
  | nil => nofun
  | cons entry rest =>
    rw [count]
    split <;> nofun

theorem exists_mode {xs : List (Marked Scalar)} (h : 0 < xs.length) : ∃ x, mode xs = .ok x := by
  have counted : tally xs ≠ [] := by
    obtain ⟨last, front, rfl⟩ := List.eq_nil_or_concat xs |>.resolve_left (by rintro rfl; cases h)
    rw [tally, List.concat_eq_append, List.foldl_append]
    exact count_ne_nil _ _
  unfold mode
  split
  · rename_i none
    exact absurd none counted
  · exact ⟨_, rfl⟩

end Reckoner.Statistics
