import Mathlib.Data.List.TakeWhile
import Reckoner.Assignment
import Reckoner.Proofs.Text.Classes
import Reckoner.Proofs.Token.Lexemes
import Reckoner.Proofs.Token.Reading

/-!
The parts of an assignment. The pattern that assignments are found with goes back in the text only
where nothing but white space stands behind the sign; everywhere else the parts are the only ones
that fit, so that a text can be taken apart in at most one way.
-/
namespace Reckoner

namespace Text

section Matching

variable {p : Char → Bool} {c : Char} {rest : List Char} {pieces : List Piece}

theorem runs?_one_of_pos (h : p c) :
    runs? (.one p :: pieces) (c :: rest) = (runs? pieces rest).map fun runs => [c] :: runs :=
  if_pos h

theorem runs?_one_of_neg (h : ¬ p c) : runs? (.one p :: pieces) (c :: rest) = none :=
  if_neg h

theorem takeMany_of_neg {α : Type} {match? : List Char → Option α} (h : ¬ p c) :
    takeMany p match? (c :: rest) = (match? (c :: rest)).map fun a => ([], a) := by
  rw [takeMany, if_neg h]

/-- Where what comes behind does not match, all characters of the class are taken. -/
theorem takeMany_of_stops {α : Type} {match? : List Char → Option α}
    (stops : ∀ c rest, p c → match? (c :: rest) = none) (cs : List Char) :
    takeMany p match? cs = (match? (cs.dropWhile p)).map fun a => (cs.takeWhile p, a) := by
  induction cs with
  | nil => rfl
  | cons c rest ih =>
    by_cases h : p c
    · rw [takeMany, if_pos h, ih, stops c rest h, List.dropWhile_cons_of_pos h,
        List.takeWhile_cons_of_pos h]
      cases match? (rest.dropWhile p) <;> rfl
    · rw [takeMany_of_neg h, List.dropWhile_cons_of_neg h, List.takeWhile_cons_of_neg h]

/-- If no piece behind it starts with a character of its class, a piece takes all of these. -/
theorem runs?_many (stops : ∀ c rest, p c → runs? pieces (c :: rest) = none) (cs : List Char) :
    runs? (.many p :: pieces) cs =
      (runs? pieces (cs.dropWhile p)).map fun runs => cs.takeWhile p :: runs := by
  rw [runs?, takeMany_of_stops stops, Option.map_map]
  rfl

/-- A character of the class is taken if there is a match behind it. -/
theorem runs?_many_of_some {run : List Char} {runs : List (List Char)} (h : p c)
    (behind : runs? (.many p :: pieces) rest = some (run :: runs)) :
    runs? (.many p :: pieces) (c :: rest) = some ((c :: run) :: runs) := by
  obtain ⟨_, taken, same⟩ := Option.map_eq_some_iff.mp behind
  cases same
  rw [runs?, takeMany, if_pos h, taken]
  rfl

/-- Nothing is taken if there is no match behind the next character, or if that is not of the
class. -/
theorem runs?_many_of_none (h : p c → runs? (.many p :: pieces) rest = none) :
    runs? (.many p :: pieces) (c :: rest) =
      (runs? pieces (c :: rest)).map fun runs => [] :: runs := by
  have nothing : (if p c then takeMany p (runs? pieces) rest else none) = none := by
    split
    · rename_i hc
      exact Option.map_eq_none_iff.mp (h hc)
    · rfl
  rw [runs?, takeMany, nothing, Option.map_map]
  rfl

end Matching

end Text

namespace Assignment

open Text

theorem rightSide?_cons_of_ne_nil {c : Char} {cs : List Char} (hc : isBlank c) (hcs : cs ≠ []) :
    rightSide? (c :: cs) = rightSide? cs := by
  unfold rightSide?
  rw [List.dropWhile_cons_of_pos hc, List.getLast?_cons_of_ne_nil hcs]

theorem runs?_anything (c : Char) (cs : List Char) :
    runs? [.one fun _ => true, .many fun _ => true] (c :: cs) = some [[c], cs] := by
  have all : runs? [.many fun _ => true] cs = some [cs] := by
    induction cs with
    | nil => rfl
    | cons c cs ih => exact runs?_many_of_some rfl ih
  rw [runs?_one_of_pos rfl, all]
  rfl

/-- What the pattern takes for the right side. -/
def rightPieces : List Piece :=
  [.many isBlank, .one fun _ => true, .many fun _ => true]

/-- Only in the right side the pattern goes back: if all of it is blank, the last character is
given back. -/
theorem runs?_rightPieces {cs : List Char} (h : cs ≠ []) :
    ∃ blanks start more, runs? rightPieces cs = some [blanks, start, more] ∧
      rightSide? cs = some (start ++ more) := by
  induction cs with
  | nil => exact absurd rfl h
  | cons c rest ih =>
    have here (no_more : isBlank c → runs? rightPieces rest = none) :
        runs? rightPieces (c :: rest) = some [[], [c], rest] := by
      rw [rightPieces, runs?_many_of_none no_more, runs?_anything]
      rfl
    by_cases hc : isBlank c
    · by_cases hrest : rest = []
      · subst hrest
        refine ⟨_, _, _, here fun _ => rfl, ?_⟩
        rw [rightSide?, List.dropWhile_cons_of_pos hc]
        rfl
      · obtain ⟨blanks, start, more, found, side⟩ := ih hrest
        refine ⟨_, start, more, runs?_many_of_some hc found, ?_⟩
        rw [rightSide?_cons_of_ne_nil hc hrest, side]
    · refine ⟨_, _, _, here fun blank => absurd blank hc, ?_⟩
      rw [rightSide?, List.dropWhile_cons_of_neg hc]
      rfl

theorem not_isBlank_of_isNameStart {c : Char} (h : isNameStart c) : ¬ isBlank c :=
  not_isBlank_of_isLetter (isLetter_of_isAlpha h)

theorem not_isBlank_of_isNamePart {c : Char} (h : isNamePart c) : ¬ isBlank c := by
  obtain alpha | digit := (Bool.or_eq_true _ _).mp h
  · exact not_isBlank_of_isNameStart alpha
  · exact not_isBlank_of_isDigit digit

/-- What the pattern takes from the sign on. -/
def signPieces : List Piece :=
  .one (· = '=') :: rightPieces

theorem runs?_signPieces_of_ne {c : Char} {rest : List Char} (h : c ≠ '=') :
    runs? signPieces (c :: rest) = none :=
  runs?_one_of_neg (by simpa using h)

/-- The sign comes behind the name and white space. -/
theorem runs?_name (cs : List Char) :
    runs? (.many isNamePart :: .many isBlank :: signPieces) cs =
      (runs? signPieces ((cs.dropWhile isNamePart).dropWhile isBlank)).map fun runs =>
        cs.takeWhile isNamePart :: (cs.dropWhile isNamePart).takeWhile isBlank :: runs := by
  have blank_stops : ∀ c rest, isBlank c → runs? signPieces (c :: rest) = none := by
    rintro c rest hc
    refine runs?_signPieces_of_ne ?_
    rintro rfl
    exact absurd hc (by decide)
  have part_stops : ∀ c rest, isNamePart c →
      runs? (.many isBlank :: signPieces) (c :: rest) = none := by
    intro c rest hc
    have no_blank := not_isBlank_of_isNamePart hc
    rw [runs?_many_of_none fun blank => absurd blank no_blank, runs?_signPieces_of_ne]
    · rfl
    · rintro rfl
      exact absurd hc (by decide)
  rw [runs?_many part_stops, runs?_many blank_stops, Option.map_map]
  rfl

/-- **The pattern finds the parts of an assignment.** -/
theorem groups?_eq_split? (cs : List Char) : groups? cs = split? cs := by
  have blank_stops : ∀ c rest, isBlank c → runs? (.one isNameStart :: .many isNamePart ::
      .many isBlank :: signPieces) (c :: rest) = none := fun c rest blank =>
    runs?_one_of_neg fun start => not_isBlank_of_isNameStart start blank
  have front : runs? pattern cs = _ := runs?_many blank_stops cs
  rw [groups?, front, split?]
  cases cs.dropWhile isBlank with
  | nil => rfl
  | cons c rest =>
    by_cases start : isNameStart c
    · rw [runs?_one_of_pos start, runs?_name]
      dsimp only
      rw [if_pos start]
      cases (rest.dropWhile isNamePart).dropWhile isBlank with
      | nil => rfl
      | cons d right =>
        by_cases sign : d = '='
        · subst sign
          rw [signPieces, runs?_one_of_pos rfl]
          by_cases hright : right = []
          · subst hright
            rfl
          · obtain ⟨blanks, first, more, found, side⟩ := runs?_rightPieces hright
            rw [found]
            change _ = (rightSide? right).map _
            rw [side]
            rfl
        · rw [runs?_signPieces_of_ne sign]
          simp only [Option.map_none]
          split
          · rename_i same
            exact absurd (List.cons.inj same).1 sign
          · rfl
    · dsimp only
      rw [runs?_one_of_neg start, if_neg start]
      rfl

/-- A name that can be assigned to. -/
def IsName (name : String) : Prop :=
  ∃ c rest, name.toList = c :: rest ∧ isNameStart c ∧ ∀ d ∈ rest, isNamePart d

/-- The parts of an assignment: a name and a right side, and white space in front of the name and of
the sign. -/
@[ext]
structure Parts where
  before : List Char
  name : String
  between : List Char
  right : List Char
  before_blank : ∀ c ∈ before, isBlank c
  named : IsName name
  between_blank : ∀ c ∈ between, isBlank c
  right_ne_nil : right ≠ []

namespace Parts

/-- The assignment with these parts. -/
def text (p : Parts) : List Char :=
  p.before ++ (p.name.toList ++ (p.between ++ '=' :: p.right))

/-- What is evaluated: the right side without the white space in front of it, and if nothing is left
of it, its last character. -/
def body (p : Parts) : List Char :=
  if p.right.all isBlank then [p.right.getLast p.right_ne_nil] else p.right.dropWhile isBlank

theorem rightSide?_right (p : Parts) : rightSide? p.right = some p.body := by
  unfold rightSide? body
  split
  · rename_i nothing
    rw [if_pos (List.all_eq_true.mpr (List.dropWhile_eq_nil_iff.mp nothing)),
      List.getLast?_eq_some_getLast p.right_ne_nil, Option.map_some]
  · rename_i something
    rw [if_neg fun blank => something (List.dropWhile_eq_nil_iff.mpr (List.all_eq_true.mp blank))]

/-- Behind the white space in front comes none any more. -/
theorem head?_behind_before (p : Parts) (behind : List Char) :
    ∀ d ∈ (p.name.toList ++ behind).head?, ¬ isBlank d := by
  obtain ⟨c, rest, spelled, start, _⟩ := p.named
  intro d hd
  rw [spelled] at hd
  cases hd
  exact not_isBlank_of_isNameStart start

/-- Behind the name comes no character that could belong to it. -/
theorem head?_behind_name (p : Parts) :
    ∀ d ∈ (p.between ++ '=' :: p.right).head?, ¬ isNamePart d := by
  intro d hd
  cases hb : p.between with
  | nil =>
    rw [hb] at hd
    cases hd
    decide
  | cons b bs =>
    rw [hb] at hd
    cases hd
    have blank : isBlank d := p.between_blank d (hb ▸ List.mem_cons_self)
    exact fun part => not_isBlank_of_isNamePart part blank

theorem head?_sign (p : Parts) : ∀ d ∈ ('=' :: p.right).head?, ¬ isBlank d := by
  intro d hd
  cases hd
  decide

theorem isNamePart_of_mem_name (p : Parts) : ∀ d ∈ p.name.toList, isNamePart d := by
  obtain ⟨c, rest, spelled, start, parts⟩ := p.named
  rw [spelled]
  refine List.forall_mem_cons.mpr ⟨?_, parts⟩
  rw [isNamePart, Char.isAlphanum, show c.isAlpha = true from start, Bool.true_or]

theorem split?_text (p : Parts) : split? p.text = some (p.name, p.body) := by
  have front := p.head?_behind_before (p.between ++ '=' :: p.right)
  obtain ⟨c, rest, spelled, start, parts⟩ := p.named
  rw [spelled, List.cons_append] at front
  have same : String.ofList (c :: rest) = p.name := by rw [← spelled, String.ofList_toList]
  rw [text, spelled, List.cons_append, split?,
    Token.dropWhile_append_of_head p.before_blank front]
  simp only [if_pos start, Token.dropWhile_append_of_head parts p.head?_behind_name,
    Token.takeWhile_append_of_head parts p.head?_behind_name,
    Token.dropWhile_append_of_head p.between_blank p.head?_sign, p.rightSide?_right, same,
    Option.map_some]

/-- **There is one way to take an assignment apart.** -/
theorem eq_of_text_eq {p q : Parts} (h : p.text = q.text) : p = q := by
  have before : p.before = q.before := by
    have taken := congrArg (List.takeWhile isBlank) h
    rwa [text, text, Token.takeWhile_append_of_head p.before_blank (p.head?_behind_before _),
      Token.takeWhile_append_of_head q.before_blank (q.head?_behind_before _)] at taken
  rw [text, text, before] at h
  have behind_before := List.append_cancel_left h
  have name : p.name = q.name := by
    have taken := congrArg (List.takeWhile isNamePart) behind_before
    rw [Token.takeWhile_append_of_head p.isNamePart_of_mem_name p.head?_behind_name,
      Token.takeWhile_append_of_head q.isNamePart_of_mem_name q.head?_behind_name] at taken
    exact String.toList_inj.mp taken
  rw [name] at behind_before
  have behind_name := List.append_cancel_left behind_before
  have between : p.between = q.between := by
    have taken := congrArg (List.takeWhile isBlank) behind_name
    rwa [Token.takeWhile_append_of_head p.between_blank p.head?_sign,
      Token.takeWhile_append_of_head q.between_blank q.head?_sign] at taken
  rw [between] at behind_name
  exact Parts.ext before name between (List.cons.inj (List.append_cancel_left behind_name)).2

end Parts

theorem exists_parts {cs body : List Char} {name : String} (h : split? cs = some (name, body)) :
    ∃ p : Parts, p.text = cs ∧ p.name = name ∧ p.body = body := by
  have whole (p : Char → Bool) (xs : List Char) : xs.takeWhile p ++ xs.dropWhile p = xs :=
    List.takeWhile_append_dropWhile
  have all (p : Char → Bool) (xs : List Char) : ∀ c ∈ xs.takeWhile p, p c :=
    List.all_eq_true.mp List.all_takeWhile
  unfold split? at h
  split at h
  · cases h
  · rename_i c rest front
    split at h
    · rename_i start
      split at h
      · rename_i right behind
        obtain ⟨body, side, same⟩ := Option.map_eq_some_iff.mp h
        cases same
        let p : Parts := {
          before := cs.takeWhile isBlank
          name := String.ofList (c :: rest.takeWhile isNamePart)
          between := (rest.dropWhile isNamePart).takeWhile isBlank
          right := right
          before_blank := all isBlank cs
          named := ⟨c, rest.takeWhile isNamePart, String.toList_ofList, start, all isNamePart rest⟩
          between_blank := all isBlank _
          right_ne_nil := by rintro rfl; cases side }
        refine ⟨p, ?_, rfl, Option.some.inj (p.rightSide?_right.symm.trans side)⟩
        rw [Parts.text, String.toList_ofList, ← behind, whole, List.cons_append, whole, ← front,
          whole]
      · cases h
    · cases h

/-- **What counts as an assignment.** -/
theorem split?_eq_some_iff {cs body : List Char} {name : String} :
    split? cs = some (name, body) ↔ ∃ p : Parts, p.text = cs ∧ p.name = name ∧ p.body = body := by
  refine ⟨exists_parts, ?_⟩
  rintro ⟨p, rfl, rfl, rfl⟩
  exact p.split?_text

theorem split?_eq_none_iff {cs : List Char} : split? cs = none ↔ ∀ p : Parts, p.text ≠ cs := by
  constructor
  · rintro h p rfl
    rw [p.split?_text] at h
    cases h
  · intro h
    cases found : split? cs with
    | none => rfl
    | some parts =>
      obtain ⟨p, text, _⟩ := exists_parts found
      exact absurd text (h p)

/-- A text that is read as an expression is no assignment. -/
theorem split?_eq_none_of_scan {lexicon : Lexicon} {cs : List Char} {tokens : List Token}
    (h : Token.scan lexicon cs = .ok tokens) : split? cs = none := by
  refine split?_eq_none_iff.mpr ?_
  rintro p rfl
  refine Token.equals_not_mem_of_scan h ?_
  simp [Parts.text]

end Assignment

end Reckoner
