import Reckoner.Text.Display

namespace Reckoner.Text

theorem offset_of_nonneg {place : Int} (h : 0 ≤ place) (length : Nat) :
    offset length place = place.toNat := by
  rw [offset, if_neg (by omega)]

section Surroundings

variable (before behind : List Char) (c : Char) (reach : Nat)

theorem charAt?_append : charAt? (before ++ c :: behind) before.length = some c := by
  have inside : ¬ isBeforeFront (before ++ c :: behind) before.length := by
    simp only [isBeforeFront, decide_eq_true_eq]
    omega
  rw [charAt?, if_neg inside, offset_of_nonneg (by omega)]
  simp

theorem between_before :
    between (before ++ c :: behind) (max 0 (before.length - reach : Int)) before.length =
      before.drop (before.length - reach) := by
  rw [between, offset_of_nonneg (by omega), offset_of_nonneg (by omega)]
  have start : (max 0 (before.length - reach : Int)).toNat = before.length - reach := by omega
  rw [start, Int.toNat_natCast, List.take_left]

theorem between_behind :
    between (before ++ c :: behind) (before.length + 1 : Int)
        (min (before ++ c :: behind).length (before.length + reach + 1 : Int)) =
      behind.take reach := by
  have length : (before ++ c :: behind).length = before.length + 1 + behind.length := by
    simp only [List.length_append, List.length_cons]
    omega
  rw [between, offset_of_nonneg (by omega), offset_of_nonneg (by omega), length]
  have start : (before.length + 1 : Int).toNat = before.length + 1 := by omega
  have stop : (min ((before.length + 1 + behind.length : Nat) : Int)
      (before.length + reach + 1)).toNat = before.length + 1 + min reach behind.length := by
    omega
  have front : (before ++ [c]).length = before.length + 1 := by simp
  rw [start, stop, List.append_cons, ← front, List.take_length_add_append, List.drop_left,
    ← List.take_eq_take_min]

end Surroundings

/-- **What an excerpt shows.** -/
theorem excerpt_append (before : List Char) (c : Char) (behind : List Char) (reach : Nat) :
    excerpt (before ++ c :: behind) before.length reach =
      "..." ++ String.ofList (before.drop (before.length - reach)) ++ "→" ++ String.ofList [c] ++
        "←" ++ String.ofList (behind.take reach) ++ "..." := by
  rw [excerpt, between_before, between_behind, charAt?_append]
  rfl

end Reckoner.Text
