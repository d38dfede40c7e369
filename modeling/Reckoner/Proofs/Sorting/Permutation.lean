import Mathlib.Data.List.Perm.Basic
import Reckoner.Sorting.Runs

namespace Reckoner.Sorting

variable {α : Type}

namespace Merging

/-- All values of a merge, wherever they are. -/
def contents (s : Merging α) : List α :=
  s.left ++ s.right ++ s.taken

theorem contents_takeLeft (s : Merging α) : s.takeLeft.contents.Perm s.contents := by
  unfold takeLeft
  split
  · rfl
  · rename_i x rest front
    rw [contents, contents, front]
    exact List.perm_middle

theorem contents_takeRight (s : Merging α) : s.takeRight.contents.Perm s.contents := by
  unfold takeRight
  split
  · rfl
  · rename_i y rest front
    rw [contents, contents, front, List.append_assoc, List.append_assoc]
    exact List.perm_middle.append_left s.left

/-- Values that are taken in turn, each on top of the ones before. -/
theorem perm_taken (xs taken : List α) (count : Nat) :
    (xs.drop count ++ ((xs.take count).reverse ++ taken)).Perm (xs ++ taken) := by
  have whole : (xs.drop count ++ (xs.take count).reverse).Perm xs := by
    refine (List.perm_append_comm.trans ((List.reverse_perm _).append_right _)).trans ?_
    rw [List.take_append_drop]
  rw [← List.append_assoc]
  exact whole.append_right taken

variable (less : α → α → Bool) (side : Side)

theorem contents_skipLeft (s : Merging α) :
    (s.skipLeft less side).1.contents.Perm s.contents := by
  unfold skipLeft
  split
  · rfl
  · rename_i y rest front
    have front_first (xs : List α) (taken : List α) :
        (xs ++ s.right ++ taken).Perm (s.right ++ (xs ++ taken)) := by
      rw [← List.append_assoc]
      exact List.perm_append_comm.append_right taken
    exact (front_first _ _).trans
      (((perm_taken s.left s.taken _).append_left s.right).trans (front_first _ _).symm)

theorem contents_skipRight (s : Merging α) :
    (s.skipRight less side).1.contents.Perm s.contents := by
  unfold skipRight
  split
  · rfl
  · simp only [contents, List.append_assoc]
    exact (perm_taken s.right s.taken _).append_left s.left

theorem contents_compareOne (s : Merging α) (fromLeft fromRight : Nat) :
    (s.compareOne less side fromLeft fromRight).contents.Perm s.contents := by
  unfold compareOne
  cases s.leftIsNext less side with
  | true =>
    have taken := contents_takeLeft s
    simp only [reduceIte]
    split
    · exact taken
    · split <;> exact taken
  | false =>
    have taken := contents_takeRight s
    simp only [Bool.false_eq_true, reduceIte]
    split
    · exact taken
    · split <;> exact taken

theorem contents_skipBoth (s : Merging α) :
    (s.skipBoth less side).contents.Perm s.contents := by
  unfold skipBoth
  have first := contents_skipLeft less side { s with patience := max 1 (s.patience - 1) }
  dsimp only
  split
  · exact first
  have second := (contents_takeRight _).trans first
  split
  · exact second
  have third := (contents_skipRight less side _).trans second
  split
  · exact third
  have fourth := (contents_takeLeft _).trans third
  split
  · exact fourth
  split
  · exact fourth
  · exact fourth

theorem contents_advance (s : Merging α) : (s.advance less side).contents.Perm s.contents := by
  unfold advance
  split
  · rfl
  · split
    · exact contents_compareOne less side s _ _
    · exact contents_skipBoth less side s

theorem contents_repeat (count : Nat) (s : Merging α) :
    (count.repeat (advance less side) s).contents.Perm s.contents := by
  induction count with
  | zero => rfl
  | succ count ih => exact (contents_advance less side _).trans ih

theorem perm_result (s : Merging α) : (s.result side).Perm s.contents := by
  have apart : (s.taken.reverse ++ s.right ++ s.left).Perm s.contents := by
    refine (((List.reverse_perm _).append_right _).append_right _).trans ?_
    rw [List.append_assoc]
    exact List.perm_append_comm.trans (List.perm_append_comm.append_right _)
  cases side with
  | front => exact apart
  | back =>
    refine List.Perm.append_right _ ?_
    exact ((List.reverse_perm _).append (List.reverse_perm _)).trans List.perm_append_comm

theorem perm_finish (s : Merging α) : ((s.finish less side).result side).Perm s.contents :=
  (perm_result side _).trans (contents_repeat less side _ s)

end Merging

variable (less : α → α → Bool)

theorem perm_mergeOverlapping (patience : Nat) (left right : List α) :
    (mergeOverlapping less patience left right).1.Perm (left ++ right) := by
  unfold mergeOverlapping
  split
  · refine (Merging.perm_finish less .front _).trans ((Merging.contents_takeRight _).trans ?_)
    rw [Merging.contents, List.append_nil]
  · refine (Merging.perm_finish less .back _).trans ((Merging.contents_takeLeft _).trans ?_)
    rw [Merging.contents, List.append_nil]
    exact (List.reverse_perm _).append (List.reverse_perm _)

theorem perm_merge (patience : Nat) (left right : List α) :
    (merge less patience left right).1.Perm (left ++ right) := by
  unfold merge
  split
  · rw [List.append_nil]
  · dsimp only
    split
    · rfl
    · split
      · rfl
      · have overlap := perm_mergeOverlapping less patience
        rw [List.append_assoc]
        refine (((overlap _ _).append_right _).append_left _).trans ?_
        rw [List.append_assoc, List.take_append_drop, ← List.append_assoc, List.take_append_drop]

theorem perm_insert (sorted : List α) (x : α) : (insert less sorted x).Perm (sorted ++ [x]) := by
  unfold insert
  dsimp only
  refine List.perm_middle.trans ?_
  rw [List.take_append_drop]
  exact (List.perm_append_singleton x sorted).symm

theorem perm_foldl_insert (sorted xs : List α) :
    (xs.foldl (insert less) sorted).Perm (sorted ++ xs) := by
  induction xs generalizing sorted with
  | nil => rw [List.foldl_nil, List.append_nil]
  | cons x xs ih =>
    refine (ih _).trans (((perm_insert less sorted x).append_right xs).trans ?_)
    rw [List.append_assoc, List.singleton_append]

theorem runLength_pos (related : α → α → Bool) (a : α) (rest : List α) :
    0 < runLength related a rest := by
  cases rest with
  | nil => exact Nat.one_pos
  | cons b rest =>
    rw [runLength]
    split <;> omega

/-- The run at the front are the first values, as many as it has. -/
theorem perm_frontRun (a : α) (rest : List α) :
    (frontRun less a rest).Perm ((a :: rest).take (frontRun less a rest).length) ∧
      0 < (frontRun less a rest).length := by
  have front (run : List α) (count : Nat) (hrun : run.Perm ((a :: rest).take count))
      (hcount : 0 < count) : run.Perm ((a :: rest).take run.length) ∧ 0 < run.length := by
    have length : run.length = min count (rest.length + 1) := by
      rw [hrun.length_eq, List.length_take, List.length_cons]
    refine ⟨?_, by omega⟩
    rw [length, ← List.length_cons, ← List.take_eq_take_min]
    exact hrun
  unfold frontRun
  dsimp only
  split
  · exact front _ _ (List.reverse_perm _) (runLength_pos _ a rest)
  · exact front _ _ (List.Perm.refl _) (runLength_pos _ a rest)

/-- The runs of a list hold its values. -/
theorem perm_flatten_runs (least : Nat) (xs : List α) : (runs less least xs).flatten.Perm xs := by
  fun_induction runs less least xs with
  | case1 => rfl
  | case2 a rest run missing filled ih =>
    obtain ⟨hrun, hlength⟩ := perm_frontRun less a rest
    have front : filled.Perm ((a :: rest).take run.length ++ missing) :=
      (perm_foldl_insert less run missing).trans (hrun.append_right missing)
    have taken : missing = (rest.drop (run.length - 1)).take missing.length := by
      rw [List.length_take, ← List.take_eq_take_min]
    have whole : (a :: rest).take run.length ++ (missing ++
        rest.drop (run.length - 1 + missing.length)) = a :: rest := by
      rw [← List.drop_drop]
      nth_rewrite 1 [taken]
      rw [List.take_append_drop]
      obtain ⟨length, hl⟩ := Nat.exists_eq_succ_of_ne_zero (Nat.pos_iff_ne_zero.mp hlength)
      have hl : run.length = length + 1 := hl
      rw [hl, List.take_succ_cons, Nat.add_sub_cancel, List.cons_append, List.take_append_drop]
    rw [List.flatten_cons]
    refine (front.append ih).trans ?_
    rw [List.append_assoc, whole]

/-- The values of the waiting runs. -/
def waitingValues (waiting : List (Pending α)) : List α :=
  (waiting.map Pending.run).flatten

theorem waitingValues_cons (top : Pending α) (waiting : List (Pending α)) :
    waitingValues (top :: waiting) = top.run ++ waitingValues waiting := rfl

theorem perm_collapse (depth patience : Nat) (run : List α) (waiting : List (Pending α)) :
    ((collapse less depth patience run waiting).1 ++
      waitingValues (collapse less depth patience run waiting).2.2).Perm
        (run ++ waitingValues waiting) := by
  induction waiting generalizing patience run with
  | nil => rfl
  | cons top waiting ih =>
    rw [collapse]
    split
    · refine (ih _ _).trans (((perm_merge less patience top.run run).append_right _).trans ?_)
      rw [waitingValues_cons, ← List.append_assoc]
      exact List.perm_append_comm.append_right _
    · rfl

theorem perm_finish (patience : Nat) (run : List α) (waiting : List (Pending α)) :
    (finish less patience run waiting).Perm (run ++ waitingValues waiting) := by
  fun_induction finish less patience run waiting with
  | case1 patience run => rw [waitingValues, List.map_nil, List.flatten_nil, List.append_nil]
  | case2 patience run top =>
    refine (perm_merge less patience top.run run).trans ?_
    rw [waitingValues_cons, waitingValues, List.map_nil, List.flatten_nil, List.append_nil]
    exact List.perm_append_comm
  | case3 patience run top next waiting shorter merged patience' heq ih =>
    have hmerge := perm_merge less patience next.run top.run
    rw [heq] at hmerge
    refine ih.trans (List.Perm.append_left run ?_)
    rw [waitingValues_cons, waitingValues_cons, waitingValues_cons, ← List.append_assoc]
    exact (hmerge.trans List.perm_append_comm).append_right _
  | case4 patience run top next waiting shorter merged patience' heq ih =>
    have hmerge := perm_merge less patience top.run run
    rw [heq] at hmerge
    refine ih.trans ((hmerge.append_right _).trans ?_)
    rw [waitingValues_cons top, ← List.append_assoc]
    exact List.perm_append_comm.append_right _

theorem perm_mergeRuns (count start patience : Nat) (run : List α) (waiting : List (Pending α))
    (rest : List (List α)) : (mergeRuns less count start patience run waiting rest).Perm
      (run ++ waitingValues waiting ++ rest.flatten) := by
  induction rest generalizing start patience run waiting with
  | nil =>
    rw [List.flatten_nil, List.append_nil]
    exact perm_finish less patience run waiting
  | cons next rest ih =>
    refine (ih _ _ _ _).trans ?_
    rw [waitingValues_cons, List.flatten_cons]
    have collapsed := perm_collapse less
      (depth count (2 * start + run.length) (2 * start + run.length + run.length + next.length))
      patience run waiting
    refine ((collapsed.append_left next).append_right _).trans ?_
    rw [← List.append_assoc (run ++ waitingValues waiting)]
    exact List.perm_append_comm.append_right _

/-- **Sorting rearranges.** The sorted list has the values of the list, each as often. -/
theorem perm_sort (xs : List α) : (sort less xs).Perm xs := by
  have parts := perm_flatten_runs less (leastRun xs.length false) xs
  unfold sort
  split
  · rename_i found
    rw [found] at parts
    exact parts
  · rename_i run rest found
    rw [found, List.flatten_cons] at parts
    refine (perm_mergeRuns less _ _ _ run [] rest).trans ?_
    rw [waitingValues, List.map_nil, List.flatten_nil, List.append_nil]
    exact parts

end Reckoner.Sorting
