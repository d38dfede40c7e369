/-!
How alike two texts are, by the runs of characters that they share in the same order: the longest
common run is taken, then the parts to its left and to its right are compared in the same way. The
similarity is twice the number of shared characters over the number of characters of both.
-/
namespace Reckoner.Text

/-- A run of characters common to two texts: where it starts in either, and how long it is. -/
structure Run where
  left : Nat
  right : Nat
  length : Nat
deriving DecidableEq, Inhabited

/-- The lengths of the common runs that end at the character `c` of one text and at each character
of the other, from the lengths for the character before `c`. A character that is not `telling`
ends no run. -/
def runLengths (telling : Char → Bool) (c : Char) (right : List Char) (before : List Nat) :
    List Nat :=
  List.zipWith (fun d run => if c = d && telling d then run + 1 else 0) right (0 :: before)

/-- The first longest of the runs ending at position `i`, if one is longer than the best so far. -/
def improve (i : Nat) (best : Run) (lengths : List Nat) : Run :=
  (lengths.zipIdx).foldl
    (fun best (length, j) =>
      if best.length < length then ⟨i + 1 - length, j + 1 - length, length⟩ else best)
    best

/-- The longest common run of telling characters; of several the one that starts first, in the
left text before in the right. -/
def longestTelling (telling : Char → Bool) (left right : List Char) : Run :=
  ((left.zipIdx).foldl
    (fun (best, before) (c, i) =>
      let lengths := runLengths telling c right before
      (improve i best lengths, lengths))
    ((⟨0, 0, 0⟩ : Run), List.replicate right.length 0)).1

/-- The number of characters that two texts have in common at their front. -/
def commonFront : List Char → List Char → Nat
  | a :: as, b :: bs => if a = b then commonFront as bs + 1 else 0
  | _, _ => 0

/-- The longest run of telling characters, extended on both sides by whatever else the two texts
share there. -/
def longestRun (telling : Char → Bool) (left right : List Char) : Run :=
  let run := longestTelling telling left right
  let ahead := commonFront (left.take run.left).reverse (right.take run.right).reverse
  let behind :=
    commonFront (left.drop (run.left + run.length)) (right.drop (run.right + run.length))
  ⟨run.left - ahead, run.right - ahead, ahead + run.length + behind⟩

/-- The number of characters in the runs that two texts share, found in at most `depth` rounds. -/
def sharedWithin (telling : Char → Bool) : Nat → List Char → List Char → Nat
  | 0, _, _ => 0
  | depth + 1, left, right =>
    let run := longestRun telling left right
    if run.length = 0 then 0
    else
      sharedWithin telling depth (left.take run.left) (right.take run.right) + run.length +
        sharedWithin telling depth (left.drop (run.left + run.length))
          (right.drop (run.right + run.length))

/-- In a long text a character that makes up more than a hundredth of it tells little, and no run
starts from it. -/
def isTelling (text : List Char) (c : Char) : Bool :=
  text.length < 200 || text.count c ≤ text.length / 100 + 1

/-- The number of characters in the runs that two texts share. Every round takes at least one
character away, so there are no more rounds than characters. -/
def shared (left right : List Char) : Nat :=
  sharedWithin (isTelling right) left.length left right

/-- The similarity of two texts, between zero and one. -/
def similarity (left right : String) : Rat :=
  let total := left.length + right.length
  if total = 0 then 1 else (2 * shared left.toList right.toList : Nat) / (total : Rat)

end Reckoner.Text
