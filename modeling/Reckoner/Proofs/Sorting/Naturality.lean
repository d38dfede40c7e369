import Mathlib.Data.List.Forall2
import Reckoner.Sorting.Runs

namespace Reckoner.Sorting

variable {α β : Type} (f : α → β) (less : β → β → Bool)

/-- Values compared by what they are mapped to. -/
def pulledBack (x y : α) : Bool :=
  less (f x) (f y)

namespace Merging

def map (s : Merging α) : Merging β :=
  ⟨s.left.map f, s.right.map f, s.taken.map f, s.patience, s.mode⟩

variable (side : Side) (s : Merging α)

theorem takeLeft_map : (s.map f).takeLeft = s.takeLeft.map f := by
  obtain ⟨left, right, taken, patience, mode⟩ := s
  cases left <;> rfl

theorem takeRight_map : (s.map f).takeRight = s.takeRight.map f := by
  obtain ⟨left, right, taken, patience, mode⟩ := s
  cases right <;> rfl

theorem patience_map : (s.map f).patience = s.patience := rfl

theorem isSettled_map : (s.map f).isSettled side = s.isSettled side := by
  cases side <;> simp [map, isSettled, ← List.map_tail]

theorem result_map : (s.map f).result side = (s.result side).map f := by
  cases side <;> simp [map, result]

theorem leftIsNext_map :
    (s.map f).leftIsNext less side = s.leftIsNext (pulledBack f less) side := by
  obtain ⟨left, right, taken, patience, mode⟩ := s
  cases left <;> cases right <;> rfl

theorem ahead_map (comesFirst : β → Bool) (xs : List α) :
    ahead side comesFirst (xs.map f) = ahead side (fun x => comesFirst (f x)) xs := by
  cases side <;> simp [ahead, Option.any_map]

theorem skipLeft_map :
    (s.map f).skipLeft less side =
      ((s.skipLeft (pulledBack f less) side).1.map f, (s.skipLeft (pulledBack f less) side).2) := by
  obtain ⟨left, right, taken, patience, mode⟩ := s
  cases right with
  | nil => rfl
  | cons y right => simp [map, skipLeft, ahead_map, pulledBack]

theorem skipRight_map :
    (s.map f).skipRight less side =
      ((s.skipRight (pulledBack f less) side).1.map f,
        (s.skipRight (pulledBack f less) side).2) := by
  obtain ⟨left, right, taken, patience, mode⟩ := s
  cases left with
  | nil => rfl
  | cons x left => simp [map, skipRight, ahead_map, pulledBack]

theorem compareOne_map (fromLeft fromRight : Nat) :
    (s.map f).compareOne less side fromLeft fromRight =
      (s.compareOne (pulledBack f less) side fromLeft fromRight).map f := by
  unfold compareOne
  rw [leftIsNext_map, takeLeft_map, takeRight_map]
  cases s.leftIsNext (pulledBack f less) side with
  | true =>
    simp only [reduceIte, isSettled_map, patience_map]
    split
    · rfl
    · split <;> rfl
  | false =>
    simp only [Bool.false_eq_true, reduceIte, isSettled_map, patience_map]
    split
    · rfl
    · split <;> rfl

theorem skipBoth_map :
    (s.map f).skipBoth less side = (s.skipBoth (pulledBack f less) side).map f := by
  have impatient : { s.map f with patience := max 1 ((s.map f).patience - 1) } =
      { s with patience := max 1 (s.patience - 1) }.map f := rfl
  unfold skipBoth
  simp only [impatient, skipLeft_map, skipRight_map, takeLeft_map, takeRight_map, isSettled_map]
  -- There are five ends to it, and only heights and counts decide between them.
  iterate 5
    split
    · rfl
  rfl

theorem advance_map :
    (s.map f).advance less side = (s.advance (pulledBack f less) side).map f := by
  have mode : (s.map f).mode = s.mode := rfl
  unfold advance
  rw [isSettled_map, mode]
  split
  · rfl
  · cases s.mode with
    | comparing fromLeft fromRight => exact compareOne_map f less side s _ _
    | skipping => exact skipBoth_map f less side s

theorem repeat_map (count : Nat) :
    count.repeat (advance less side) (s.map f) =
      (count.repeat (advance (pulledBack f less) side) s).map f := by
  induction count with
  | zero => rfl
  | succ count ih => exact (congrArg (advance less side) ih).trans (advance_map f less side _)

theorem finish_map :
    (s.map f).finish less side = (s.finish (pulledBack f less) side).map f := by
  have length : (s.map f).left.length + (s.map f).right.length =
      s.left.length + s.right.length := by
    simp only [map, List.length_map]
  rw [finish, length]
  exact repeat_map f less side s _

end Merging

open Merging

theorem mergeOverlapping_map (patience : Nat) (left right : List α) :
    mergeOverlapping less patience (left.map f) (right.map f) =
      ((mergeOverlapping (pulledBack f less) patience left right).1.map f,
        (mergeOverlapping (pulledBack f less) patience left right).2) := by
  have start (left right : List α) : (⟨left.map f, right.map f, [], patience, .comparing 0 0⟩ :
      Merging β) = Merging.map f ⟨left, right, [], patience, .comparing 0 0⟩ := rfl
  unfold mergeOverlapping
  simp only [List.length_map, ← List.map_reverse, start, takeLeft_map, takeRight_map,
    Merging.finish_map, result_map, patience_map]
  split <;> rfl

theorem merge_map (patience : Nat) (left right : List α) :
    merge less patience (left.map f) (right.map f) =
      ((merge (pulledBack f less) patience left right).1.map f,
        (merge (pulledBack f less) patience left right).2) := by
  cases right with
  | nil => rfl
  | cons y right =>
    have any (x : α) (i : Nat) : ((y :: right).map f)[i]?.any (fun z => less z (f x)) =
        (y :: right)[i]?.any fun z => pulledBack f less z x := by
      rw [List.getElem?_map, Option.any_map]
      rfl
    have before : ahead .front (fun x => !less (f y) x) (left.map f) =
        ahead .front (fun x => !pulledBack f less y x) left := ahead_map f .front _ left
    unfold merge
    rw [List.map_cons]
    dsimp only
    rw [before, ← List.map_drop, List.getLast?_map]
    cases (left.drop (ahead .front (fun x => !pulledBack f less y x) left)).getLast? with
    | none => simp
    | some x =>
      simp only [Option.map_some, List.getElem?_toArray, ← List.map_cons, any, List.size_toArray,
        List.length_map, ← List.map_take, mergeOverlapping_map, ← List.map_drop]
      split
      · rw [List.map_append]
      · simp only [List.map_append]

theorem runLength_map (related : β → β → Bool) (a : α) (rest : List α) :
    runLength related (f a) (rest.map f) = runLength (fun x y => related (f x) (f y)) a rest := by
  induction rest generalizing a with
  | nil => rfl
  | cons b rest ih => rw [List.map_cons, runLength, runLength, ih]

theorem frontRun_map (a : α) (rest : List α) :
    frontRun less (f a) (rest.map f) = (frontRun (pulledBack f less) a rest).map f := by
  have head : (rest.map f).head?.any (fun b => less b (f a)) =
      rest.head?.any fun b => pulledBack f less b a := by
    cases rest <;> rfl
  unfold frontRun
  simp only [head, runLength_map, ← List.map_cons, ← List.map_take, ← List.map_reverse]
  split <;> rfl

theorem insert_map (sorted : List α) (x : α) :
    insert less (sorted.map f) (f x) = (insert (pulledBack f less) sorted x).map f := by
  have any (i : Nat) : (sorted.map f)[i]?.any (less (f x)) =
      sorted[i]?.any (pulledBack f less x) := by
    rw [List.getElem?_map, Option.any_map]
    rfl
  unfold insert
  simp only [List.getElem?_toArray, any, List.size_toArray, List.length_map, List.map_append,
    List.map_cons, List.map_take, List.map_drop]

theorem foldl_insert_map (sorted xs : List α) :
    (xs.map f).foldl (insert less) (sorted.map f) =
      (xs.foldl (insert (pulledBack f less)) sorted).map f := by
  induction xs generalizing sorted with
  | nil => rfl
  | cons x xs ih => rw [List.map_cons, List.foldl_cons, insert_map, ih, List.foldl_cons]

theorem runs_map (least : Nat) (xs : List α) :
    runs less least (xs.map f) = (runs (pulledBack f less) least xs).map (List.map f) := by
  fun_induction runs (pulledBack f less) least xs with
  | case1 => rw [List.map_nil, runs, List.map_nil]
  | case2 a rest run missing filled ih =>
    have front : frontRun less (f a) (rest.map f) = run.map f := frontRun_map f less a rest
    have surplus : ((rest.map f).drop (run.length - 1)).take (least - run.length) =
        missing.map f := by
      rw [← List.map_drop, ← List.map_take]
    rw [List.map_cons, runs, front, List.length_map, surplus, foldl_insert_map, List.length_map,
      ← List.map_drop, ih]
    rfl

def Pending.map (p : Pending α) : Pending β :=
  ⟨p.run.map f, p.depth⟩

theorem collapse_map (depth patience : Nat) (run : List α) (waiting : List (Pending α)) :
    collapse less depth patience (run.map f) (waiting.map (Pending.map f)) =
      ((collapse (pulledBack f less) depth patience run waiting).1.map f,
        (collapse (pulledBack f less) depth patience run waiting).2.1,
        (collapse (pulledBack f less) depth patience run waiting).2.2.map (Pending.map f)) := by
  induction waiting generalizing patience run with
  | nil => rfl
  | cons top waiting ih =>
    rw [List.map_cons, collapse, collapse]
    simp only [Pending.map, merge_map]
    split
    · exact ih _ _
    · rfl

theorem finish_map (patience : Nat) (run : List α) (waiting : List (Pending α)) :
    finish less patience (run.map f) (waiting.map (Pending.map f)) =
      (finish (pulledBack f less) patience run waiting).map f := by
  fun_induction finish (pulledBack f less) patience run waiting with
  | case1 patience run => rw [List.map_nil, finish]
  | case2 patience run top =>
    simp only [List.map_cons, List.map_nil, finish, Pending.map, merge_map]
  | case3 patience run top next waiting shorter merged patience' merging ih =>
    rw [List.map_cons, List.map_cons, finish]
    simp only [Pending.map, List.length_map, if_pos shorter, merge_map, merging]
    exact ih
  | case4 patience run top next waiting longer merged patience' merging ih =>
    rw [List.map_cons, List.map_cons, finish]
    simp only [Pending.map, List.length_map, if_neg longer, merge_map, merging]
    exact ih

theorem mergeRuns_map (count start patience : Nat) (run : List α) (waiting : List (Pending α))
    (rest : List (List α)) :
    mergeRuns less count start patience (run.map f) (waiting.map (Pending.map f))
        (rest.map (List.map f)) =
      (mergeRuns (pulledBack f less) count start patience run waiting rest).map f := by
  induction rest generalizing start patience run waiting with
  | nil => exact finish_map f less patience run waiting
  | cons next rest ih =>
    rw [List.map_cons, mergeRuns, mergeRuns]
    simp only [List.length_map, collapse_map]
    exact ih _ _ _ (⟨_, _⟩ :: _)

/-- Values that are compared by what they are mapped to are put in the order in which that is put.
-/
theorem sort_map (xs : List α) :
    sort less (xs.map f) = (sort (pulledBack f less) xs).map f := by
  unfold sort
  rw [List.length_map, runs_map]
  cases runs (pulledBack f less) (leastRun xs.length false) xs with
  | nil => rfl
  | cons run rest => exact mergeRuns_map f less _ _ _ run [] rest

/-- Lists whose values belong together in pairs are the two sides of a list of pairs. -/
theorem exists_pairs {R : α → β → Prop} {xs : List α} {ys : List β} (h : List.Forall₂ R xs ys) :
    ∃ pairs : List { p : α × β // R p.1 p.2 },
      pairs.map (fun p => p.1.1) = xs ∧ pairs.map (fun p => p.1.2) = ys := by
  induction h with
  | nil => exact ⟨[], rfl, rfl⟩
  | @cons a b _ _ related _ ih =>
    obtain ⟨pairs, rfl, rfl⟩ := ih
    exact ⟨⟨(a, b), related⟩ :: pairs, rfl, rfl⟩

/-- **Sorting is natural.** If two orders compare values in the same way as those that belong
together with them, the sorted lists belong together, value by value. -/
theorem sort_rel {R : α → β → Prop} {less : α → α → Bool} {less' : β → β → Bool}
    (same : ∀ a b c d, R a b → R c d → less a c = less' b d) {xs : List α} {ys : List β}
    (h : List.Forall₂ R xs ys) : List.Forall₂ R (sort less xs) (sort less' ys) := by
  obtain ⟨pairs, rfl, rfl⟩ := exists_pairs h
  -- On the pairs the two orders are one, so that one rearrangement sorts both sides.
  have one_order : pulledBack (fun p : { p : α × β // R p.1 p.2 } => p.1.1) less =
      pulledBack (fun p => p.1.2) less' :=
    funext fun p => funext fun q => same _ _ _ _ p.2 q.2
  rw [sort_map, sort_map, one_order, List.forall₂_map_left_iff, List.forall₂_map_right_iff,
    List.forall₂_same]
  exact fun p _ => p.2

end Reckoner.Sorting
