import Reckoner.Text.Class

namespace Reckoner.Text

/-- A piece of a pattern: one character of a class, or any number of them. -/
inductive Piece where
  | one (p : Char → Bool)
  | many (p : Char → Bool)

/-- As many characters of a class as can be taken if what is left has to match as well. -/
def takeMany {α : Type} (p : Char → Bool) (match? : List Char → Option α) :
    List Char → Option (List Char × α)
  | [] => (match? []).map fun a => ([], a)
  | c :: rest =>
    match if p c then takeMany p match? rest else none with
    | some (run, a) => some (c :: run, a)
    | none => (match? (c :: rest)).map fun a => ([], a)

/-- What the pieces match, one behind the other from the front of the text on. -/
def runs? : List Piece → List Char → Option (List (List Char))
  | [], _ => some []
  | .one _ :: _, [] => none
  | .one p :: pieces, c :: rest =>
    if p c then (runs? pieces rest).map fun runs => [c] :: runs else none
  | .many p :: pieces, cs =>
    (takeMany p (runs? pieces) cs).map fun (run, runs) => run :: runs

end Reckoner.Text

namespace Reckoner.Assignment

def isNameStart (c : Char) : Bool :=
  c.isAlpha

/-- Names that can be assigned to consist of ASCII letters and digits. -/
def isNamePart (c : Char) : Bool :=
  c.isAlphanum

/-- White space, a name, white space, the sign, white space, and a right side that is not empty. -/
def pattern : List Text.Piece :=
  [.many Text.isBlank, .one isNameStart, .many isNamePart, .many Text.isBlank, .one (· = '='),
    .many Text.isBlank, .one fun _ => true, .many fun _ => true]

/-- The name and the right side that the pattern finds in the text. -/
def groups? (cs : List Char) : Option (String × List Char) :=
  match Text.runs? pattern cs with
  | some [_, first, others, _, _, _, start, more] =>
    some (String.ofList (first ++ others), start ++ more)
  | _ => none

/-- The right side of an assignment: what follows the sign after white space. If there is nothing
else, the last blank is the right side. -/
def rightSide? (cs : List Char) : Option (List Char) :=
  match cs.dropWhile Text.isBlank with
  | [] => cs.getLast?.map fun c => [c]
  | body => some body

/-- The name and the right side of an assignment, if the text is one. What the pattern finds is
found without going back. -/
def split? (cs : List Char) : Option (String × List Char) :=
  match cs.dropWhile Text.isBlank with
  | [] => none
  | c :: rest =>
    if isNameStart c then
      match (rest.dropWhile isNamePart).dropWhile Text.isBlank with
      | '=' :: right =>
        (rightSide? right).map fun body => (String.ofList (c :: rest.takeWhile isNamePart), body)
      | _ => none
    else none

theorem length_dropWhile_le (p : Char → Bool) (cs : List Char) :
    (cs.dropWhile p).length ≤ cs.length :=
  (List.dropWhile_sublist p).length_le

theorem length_rightSide?_le {cs body : List Char} (h : rightSide? cs = some body) :
    body.length ≤ cs.length := by
  unfold rightSide? at h
  split at h
  · cases cs with
    | nil => simp at h
    | cons c rest =>
      obtain ⟨d, _, rfl⟩ := Option.map_eq_some_iff.mp h
      simp
  · cases h
    exact length_dropWhile_le _ _

/-- The right side is shorter than the assignment. -/
theorem length_lt_of_split? {cs body : List Char} {name : String}
    (h : split? cs = some (name, body)) : body.length < cs.length := by
  unfold split? at h
  split at h
  · cases h
  · rename_i c rest front
    split at h
    · split at h
      · rename_i right after
        obtain ⟨b, hb, heq⟩ := Option.map_eq_some_iff.mp h
        cases heq
        have h₁ := length_dropWhile_le Text.isBlank cs
        have h₂ := length_dropWhile_le isNamePart rest
        have h₃ := length_dropWhile_le Text.isBlank (rest.dropWhile isNamePart)
        have h₄ := length_rightSide?_le hb
        rw [front, List.length_cons] at h₁
        rw [after, List.length_cons] at h₃
        omega
      · cases h
    · cases h

/-- The names that a text assigns to, the first first, and the expression on the right of them all.
-/
def chain (cs : List Char) : List String × List Char :=
  match _h : split? cs with
  | none => ([], cs)
  | some (name, right) =>
    let (names, body) := chain right
    (name :: names, body)
termination_by cs.length
decreasing_by exact length_lt_of_split? ‹_›

theorem chain_of_none {cs : List Char} (h : split? cs = none) : chain cs = ([], cs) := by
  rw [chain]
  split
  · rfl
  · rename_i found
    cases h.symm.trans found

theorem chain_of_some {cs right : List Char} {name : String} (h : split? cs = some (name, right)) :
    chain cs = (name :: (chain right).1, (chain right).2) := by
  rw [chain]
  split
  · rename_i found
    cases h.symm.trans found
  · rename_i found
    cases h.symm.trans found
    rfl

end Reckoner.Assignment
