import Mathlib.Data.List.Chain
import Reckoner.Token.Nesting
import Reckoner.Token.Places

/-!
How the tokens of a text nest. Tokens whose parentheses belong together in pairs are single tokens,
groups and calls, one behind the other; `nested_of_balanced` finds them, and `Nested.countedAlone`
says that what a call is written with is known from what stands between its parentheses.
-/
namespace Reckoner.Token

theorem depthBehind?_cons (depth : Nat) (t : Token) (ts : List Token) :
    depthBehind? depth (t :: ts) =
      t.kind.depthBehind? depth >>= fun depth => depthBehind? depth ts := rfl

theorem depthBehind?_append (depth : Nat) (xs ys : List Token) :
    depthBehind? depth (xs ++ ys) =
      depthBehind? depth xs >>= fun depth => depthBehind? depth ys :=
  List.foldlM_append

/-- The token is no parenthesis. -/
def IsLevel (t : Token) : Prop :=
  t.kind ≠ .leftParen ∧ t.kind ≠ .rightParen

theorem IsLevel.depthBehind? {t : Token} (h : t.IsLevel) (depth : Nat) :
    t.kind.depthBehind? depth = some depth := by
  cases hk : t.kind <;> simp_all [IsLevel, Kind.depthBehind?]

section Parens

variable {left right : Token} {inner ts : List Token} {depth : Nat}

theorem depthBehind?_leftParen (h : left.kind = .leftParen) :
    depthBehind? depth (left :: ts) = depthBehind? (depth + 1) ts := by
  rw [depthBehind?_cons, h]
  rfl

theorem depthBehind?_rightParen (h : right.kind = .rightParen) :
    depthBehind? (depth + 1) (right :: ts) = depthBehind? depth ts := by
  rw [depthBehind?_cons, h]
  rfl

theorem depthBehind?_level {t : Token} (h : t.IsLevel) :
    depthBehind? depth (t :: ts) = depthBehind? depth ts := by
  rw [depthBehind?_cons, h.depthBehind?]
  rfl

theorem depthBehind?_group (left_kind : left.kind = .leftParen)
    (right_kind : right.kind = .rightParen)
    (inside : depthBehind? (depth + 1) inner = some (depth + 1)) :
    depthBehind? depth (left :: (inner ++ right :: ts)) = depthBehind? depth ts := by
  rw [depthBehind?_leftParen left_kind, depthBehind?_append, inside]
  exact depthBehind?_rightParen right_kind

theorem directCommas_append {behind : Nat} (h : depthBehind? depth inner = some behind) :
    directCommas depth (inner ++ ts) = directCommas depth inner + directCommas behind ts := by
  induction inner generalizing depth with
  | nil =>
    cases h
    simp [directCommas]
  | cons t inner ih =>
    rw [depthBehind?_cons] at h
    cases next : t.kind.depthBehind? depth with
    | none => simp [next] at h
    | some d =>
      simp only [next, Option.bind_eq_bind, Option.bind_some] at h
      simp only [List.cons_append, directCommas, next, Option.getD_some, ih h]
      omega

theorem directCommas_group (left_kind : left.kind = .leftParen)
    (right_kind : right.kind = .rightParen)
    (inside : depthBehind? (depth + 1) inner = some (depth + 1)) :
    directCommas depth (left :: (inner ++ right :: ts)) =
      directCommas (depth + 1) inner + directCommas depth ts := by
  have closed : directCommas (depth + 1) (right :: ts) = directCommas depth ts := by
    simp [directCommas, right_kind, Kind.depthBehind?]
  rw [directCommas, left_kind, ← closed, ← directCommas_append inside]
  simp [Kind.depthBehind?]

theorem enclosed_append (right_kind : right.kind = .rightParen)
    (inside : depthBehind? depth inner = some 0) :
    enclosed depth (inner ++ right :: ts) = inner := by
  induction inner generalizing depth with
  | nil =>
    cases inside
    simp [enclosed, right_kind, Kind.depthBehind?]
  | cons t inner ih =>
    rw [depthBehind?_cons] at inside
    cases next : t.kind.depthBehind? depth with
    | none => simp [next] at inside
    | some d =>
      simp only [next, Option.bind_eq_bind, Option.bind_some] at inside
      simp only [List.cons_append, enclosed, next, ih inside]

theorem writtenCount_call (left_kind : left.kind = .leftParen)
    (right_kind : right.kind = .rightParen) (inside : Balanced inner) :
    writtenCount (left :: (inner ++ right :: ts)) = some (argumentsBetween inner : Int) := by
  rw [writtenCount, if_pos left_kind, enclosed_append right_kind inside]

theorem writtenCount_eq_none (h : ∀ t ∈ ts.head?, t.kind ≠ .leftParen) :
    writtenCount ts = none := by
  cases ts with
  | nil => rfl
  | cons t ts => exact if_neg (h t rfl)

/-- Tokens behind which fewer parentheses are open than in front have a part in front of the one
that closes all but `below` and a part behind it. -/
theorem exists_closing {below last : Nat} (h : depthBehind? (depth + 1 + below) ts = some last)
    (low : last ≤ below) :
    ∃ inner right behind, ts = inner ++ right :: behind ∧ right.kind = .rightParen ∧
      depthBehind? depth inner = some 0 ∧ depthBehind? below behind = some last := by
  induction ts generalizing depth with
  | nil =>
    have same : depth + 1 + below = last := Option.some.inj h
    omega
  | cons t ts ih =>
    by_cases left_kind : t.kind = .leftParen
    · rw [depthBehind?_leftParen left_kind, Nat.add_right_comm (depth + 1)] at h
      obtain ⟨inner, right, behind, rfl, right_kind, inside, rest⟩ := ih h
      refine ⟨t :: inner, right, behind, rfl, right_kind, ?_, rest⟩
      rw [depthBehind?_leftParen left_kind, inside]
    by_cases right_kind : t.kind = .rightParen
    · rw [Nat.add_right_comm, depthBehind?_rightParen right_kind] at h
      cases depth with
      | zero =>
        rw [Nat.zero_add] at h
        exact ⟨[], t, ts, rfl, right_kind, rfl, h⟩
      | succ depth =>
        obtain ⟨inner, right, behind, rfl, hright, inside, rest⟩ := ih h
        refine ⟨t :: inner, right, behind, rfl, hright, ?_, rest⟩
        rw [depthBehind?_rightParen right_kind, inside]
    · have level : t.IsLevel := ⟨left_kind, right_kind⟩
      rw [depthBehind?_level level] at h
      obtain ⟨inner, right, behind, rfl, hright, inside, rest⟩ := ih h
      refine ⟨t :: inner, right, behind, rfl, hright, ?_, rest⟩
      rw [depthBehind?_level level, inside]

/-- Tokens that start with a parenthesis and whose parentheses belong together start with a group.
-/
theorem Balanced.exists_group (h : Balanced (left :: ts)) (left_kind : left.kind = .leftParen) :
    ∃ inner right behind, ts = inner ++ right :: behind ∧ right.kind = .rightParen ∧
      Balanced inner ∧ Balanced behind := by
  have opened : depthBehind? (0 + 1 + 0) ts = some 0 :=
    (depthBehind?_leftParen left_kind).symm.trans h
  exact exists_closing opened (Nat.le_refl 0)

/-- A parenthesis that opens among tokens whose parentheses belong together has a partner. -/
theorem Balanced.exists_partner {before rest : List Token}
    (h : Balanced (before ++ left :: rest)) (left_kind : left.kind = .leftParen) :
    ∃ right behind, rest = enclosed 0 rest ++ right :: behind ∧ right.kind = .rightParen ∧
      Balanced (enclosed 0 rest) := by
  rw [Balanced, depthBehind?_append] at h
  obtain ⟨depth, _, inside⟩ := Option.bind_eq_some_iff.mp h
  rw [depthBehind?_leftParen left_kind, ← Nat.zero_add depth, Nat.add_right_comm] at inside
  obtain ⟨inner, right, behind, rfl, right_kind, balanced, _⟩ :=
    exists_closing inside (Nat.zero_le _)
  rw [enclosed_append right_kind balanced]
  exact ⟨right, behind, rfl, right_kind, balanced⟩

end Parens

/-- Tokens that consist of single tokens, of groups and of calls. Where they are `closed` in front,
no parenthesis can come first. -/
inductive Nested : Bool → List Token → Prop where
  | nil {closed : Bool} : Nested closed []
  | single {closed : Bool} {t : Token} {ts : List Token} (level : t.IsLevel)
      (rest : Nested (t.kind.endsOperand || t.kind == .function) ts) : Nested closed (t :: ts)
  | group {left right : Token} {inner ts : List Token} (left_kind : left.kind = .leftParen)
      (right_kind : right.kind = .rightParen) (inside : Nested false inner)
      (rest : Nested true ts) : Nested false (left :: (inner ++ right :: ts))
  | call {closed : Bool} {f left right : Token} {inner ts : List Token}
      (function_kind : f.kind = .function) (left_kind : left.kind = .leftParen)
      (right_kind : right.kind = .rightParen) (inside : Nested false inner)
      (rest : Nested true ts) : Nested closed (f :: left :: (inner ++ right :: ts))

theorem IsLevel.balanced {t : Token} (h : t.IsLevel) : Balanced [t] :=
  depthBehind?_level h

theorem isLevel_of_function {f : Token} (h : f.kind = .function) : f.IsLevel := by
  constructor <;> simp [h]

namespace Nested

variable {closed : Bool} {ts : List Token}

theorem depthBehind? (h : Nested closed ts) (depth : Nat) :
    depthBehind? depth ts = some depth := by
  induction h generalizing depth with
  | nil => rfl
  | single level rest ih => rw [depthBehind?_level level, ih]
  | group left_kind right_kind inside rest ih_inside ih =>
    rw [depthBehind?_group left_kind right_kind (ih_inside _), ih]
  | call function_kind left_kind right_kind inside rest ih_inside ih =>
    rw [depthBehind?_level (isLevel_of_function function_kind),
      depthBehind?_group left_kind right_kind (ih_inside _), ih]

theorem balanced (h : Nested closed ts) : Balanced ts :=
  h.depthBehind? 0

theorem head_ne_leftParen (h : Nested true ts) : ∀ t ∈ ts.head?, t.kind ≠ .leftParen := by
  intro u hu
  cases h with
  | nil => cases hu
  | single level rest =>
    cases hu
    exact level.1
  | call function_kind left_kind right_kind inside rest =>
    cases hu
    exact (isLevel_of_function function_kind).1

/-- Inside of parentheses no comma stands directly in those around them. -/
theorem directCommas_inside (h : Nested closed ts) (depth : Nat) :
    directCommas (depth + 1) ts = 0 := by
  induction h generalizing depth with
  | nil => rfl
  | single level rest ih => simp [directCommas, level.depthBehind?, ih]
  | group left_kind right_kind inside rest ih_inside ih =>
    rw [directCommas_group left_kind right_kind (inside.depthBehind? _), ih_inside, ih]
  | call function_kind left_kind right_kind inside rest ih_inside ih =>
    rw [directCommas, (isLevel_of_function function_kind).depthBehind?, Option.getD_some,
      directCommas_group left_kind right_kind (inside.depthBehind? _), ih_inside, ih]
    simp

theorem directCommas_group {left right : Token} {inner : List Token} (inside : Nested false inner)
    (left_kind : left.kind = .leftParen) (right_kind : right.kind = .rightParen) :
    directCommas 0 (left :: (inner ++ right :: ts)) = directCommas 0 ts := by
  rw [Token.directCommas_group left_kind right_kind (inside.depthBehind? _),
    inside.directCommas_inside, Nat.zero_add]

end Nested

theorem counted_of_isMark {t : Token} (h : t.IsMark) (ts : List Token) :
    counted (t :: ts) = counted ts := by
  rw [counted, if_pos h]

theorem counted_of_function {f : Token} (h : f.kind = .function) (ts : List Token) :
    counted (f :: ts) = { f with argCount := writtenCount ts } :: counted ts := by
  have mark : ¬ f.IsMark := by simp [IsMark, h]
  rw [counted, if_neg mark, if_pos h]

theorem counted_of_other {t : Token} (mark : ¬ t.IsMark) (h : t.kind ≠ .function)
    (ts : List Token) : counted (t :: ts) = t :: counted ts := by
  rw [counted, if_neg mark, if_neg h]

theorem mem_counted {before rest : List Token} {f : Token} (function_kind : f.kind = .function) :
    { f with argCount := writtenCount rest } ∈ counted (before ++ f :: rest) := by
  induction before with
  | nil =>
    rw [List.nil_append, counted_of_function function_kind]
    exact List.mem_cons_self
  | cons t before ih =>
    rw [List.cons_append]
    by_cases mark : t.IsMark
    · rwa [counted_of_isMark mark]
    by_cases other_kind : t.kind = .function
    · rw [counted_of_function other_kind]
      exact List.mem_cons_of_mem _ ih
    · rw [counted_of_other mark other_kind]
      exact List.mem_cons_of_mem _ ih

/-- A token that is no function at the position adds none there. -/
theorem functionsAt_counted_cons {position : Int} {t : Token} (ts : List Token)
    (elsewhere : t.kind = .function → t.position ≠ position) :
    functionsAt position (counted (t :: ts)) = functionsAt position (counted ts) := by
  by_cases mark : t.IsMark
  · rw [counted_of_isMark mark]
  by_cases function_kind : t.kind = .function
  · rw [counted_of_function function_kind]
    exact List.filter_cons_of_neg (by simp [elsewhere function_kind])
  · rw [counted_of_other mark function_kind]
    exact List.filter_cons_of_neg (by simp [function_kind])

theorem functionsAt_counted_eq_nil {position : Int} {ts : List Token}
    (elsewhere : ∀ t ∈ ts, t.kind = .function → t.position ≠ position) :
    functionsAt position (counted ts) = [] := by
  induction ts with
  | nil => rfl
  | cons t ts ih =>
    obtain ⟨ht, hts⟩ := List.forall_mem_cons.mp elsewhere
    rw [functionsAt_counted_cons ts ht, ih hts]

/-- A function is counted once, with what stands behind it. -/
theorem functionsAt_counted {before rest : List Token} {f : Token}
    (function_kind : f.kind = .function)
    (before_elsewhere : ∀ t ∈ before, t.kind = .function → t.position ≠ f.position)
    (rest_elsewhere : ∀ t ∈ rest, t.kind = .function → t.position ≠ f.position) :
    functionsAt f.position (counted (before ++ f :: rest)) =
      [{ f with argCount := writtenCount rest }] := by
  induction before with
  | nil =>
    have later := functionsAt_counted_eq_nil rest_elsewhere
    rw [List.nil_append, counted_of_function function_kind]
    simpa [functionsAt, function_kind] using later
  | cons t before ih =>
    obtain ⟨ht, hbefore⟩ := List.forall_mem_cons.mp before_elsewhere
    rw [List.cons_append, functionsAt_counted_cons _ ht, ih hbefore]

/-- What is counted in the tokens is counted in them alone, whatever comes behind them. -/
def CountedAlone (ts : List Token) : Prop :=
  ∀ rest, (∀ t ∈ rest.head?, t.kind ≠ .leftParen) →
    counted (ts ++ rest) = counted ts ++ counted rest

theorem CountedAlone.group {left right : Token} {inner : List Token} (h : CountedAlone inner)
    (left_kind : left.kind = .leftParen) (right_kind : right.kind = .rightParen)
    (ts : List Token) : counted (left :: (inner ++ right :: ts)) = counted inner ++ counted ts := by
  have front : ∀ t ∈ (right :: ts).head?, t.kind ≠ .leftParen := by
    intro t ht
    cases ht
    simp [right_kind]
  rw [counted_of_isMark (Or.inl left_kind), h _ front,
    counted_of_isMark (Or.inr (Or.inl right_kind))]

namespace Nested

variable {closed : Bool} {ts : List Token}

theorem countedAlone (h : Nested closed ts) : CountedAlone ts := by
  induction h with
  | nil => exact fun rest front => rfl
  | single level later ih =>
    rename_i t ts
    intro rest front
    by_cases mark : t.IsMark
    · rw [List.cons_append, counted_of_isMark mark, counted_of_isMark mark, ih rest front]
    by_cases function_kind : t.kind = .function
    · have later : Nested true ts := by simpa [function_kind] using later
      have alone : writtenCount ts = none := writtenCount_eq_none later.head_ne_leftParen
      have followed : writtenCount (ts ++ rest) = none := by
        refine writtenCount_eq_none fun u hu => ?_
        cases ts with
        | nil => exact front u hu
        | cons v ts => exact later.head_ne_leftParen u hu
      rw [List.cons_append, counted_of_function function_kind, counted_of_function function_kind,
        alone, followed, ih rest front, List.cons_append]
    · rw [List.cons_append, counted_of_other mark function_kind,
        counted_of_other mark function_kind, ih rest front, List.cons_append]
  | group left_kind right_kind inside later ih_inside ih =>
    rename_i left right inner ts
    intro rest front
    rw [List.cons_append, List.append_assoc, List.cons_append,
      ih_inside.group left_kind right_kind, ih_inside.group left_kind right_kind, ih rest front,
      List.append_assoc]
  | call function_kind left_kind right_kind inside later ih_inside ih =>
    rename_i closed f left right inner ts
    intro rest front
    rw [List.cons_append, List.cons_append, List.append_assoc, List.cons_append,
      counted_of_function function_kind, counted_of_function function_kind,
      writtenCount_call left_kind right_kind inside.balanced,
      writtenCount_call left_kind right_kind inside.balanced,
      ih_inside.group left_kind right_kind, ih_inside.group left_kind right_kind, ih rest front,
      List.cons_append, List.append_assoc]

end Nested

/-- A token that is no parenthesis is counted as it is, unless it is a comma. A function that stands
alone has no arguments. -/
theorem counted_single {t : Token} {ts : List Token} (level : t.IsLevel)
    (uncounted : t.argCount = none)
    (rest : Nested (t.kind.endsOperand || t.kind == .function) ts) :
    counted (t :: ts) = (if t.kind = .comma then [] else [t]) ++ counted ts := by
  by_cases comma : t.kind = .comma
  · rw [if_pos comma, counted_of_isMark (Or.inr (Or.inr comma)), List.nil_append]
  rw [if_neg comma]
  by_cases function_kind : t.kind = .function
  · have shut : Nested true ts := by simpa [function_kind] using rest
    rw [counted_of_function function_kind, writtenCount_eq_none shut.head_ne_leftParen, ← uncounted]
    rfl
  · have mark : ¬ t.IsMark := fun h => by
      obtain h | h | h := h
      · exact level.1 h
      · exact level.2 h
      · exact comma h
    rw [counted_of_other mark function_kind]
    rfl

/-- Nothing but a number starts an operand right behind another one: there is a sign in between. -/
def Apart (t next : Token) : Prop :=
  t.kind.endsOperand → next.kind.startsOperand → next.kind = .number

theorem Apart.kind_ne {t next : Token} (h : Apart t next) (ends : t.kind.endsOperand) :
    next.kind ≠ .leftParen := by
  intro hk
  have number := h ends (by rw [hk]; rfl)
  rw [hk] at number
  cases number

/-- What stands between parentheses and what stands behind them is apart, and no parenthesis opens
right behind them. -/
theorem apart_group {left right : Token} {inner ts : List Token}
    (right_kind : right.kind = .rightParen) (h : (left :: (inner ++ right :: ts)).IsChain Apart) :
    inner.IsChain Apart ∧ ts.IsChain Apart ∧ ∀ t ∈ ts.head?, t.kind ≠ .leftParen := by
  have closing : (right :: ts).IsChain Apart := h.tail.right_of_append
  obtain ⟨follows, rest⟩ := List.isChain_cons.mp closing
  refine ⟨h.tail.left_of_append, rest, fun t ht => (follows t ht).kind_ne ?_⟩
  rw [right_kind]
  rfl

/-- **Tokens whose parentheses belong together nest**, if no group comes right behind an operand. -/
theorem nested_of_balanced (ts : List Token) (balanced : Balanced ts) (apart : ts.IsChain Apart)
    {closed : Bool} (front : closed → ∀ t ∈ ts.head?, t.kind ≠ .leftParen) :
    Nested closed ts := by
  match ts with
  | [] => exact .nil
  | t :: ts =>
    by_cases left_kind : t.kind = .leftParen
    · obtain ⟨inner, right, behind, rfl, right_kind, inside, rest⟩ :=
        Balanced.exists_group balanced left_kind
      obtain ⟨apart_inner, apart_behind, front_behind⟩ := apart_group right_kind apart
      cases closed with
      | true => exact absurd left_kind (front rfl t rfl)
      | false =>
        exact .group left_kind right_kind (nested_of_balanced inner inside apart_inner nofun)
          (nested_of_balanced behind rest apart_behind fun _ => front_behind)
    by_cases right_kind : t.kind = .rightParen
    · rw [Balanced, depthBehind?_cons, right_kind] at balanced
      cases balanced
    have level : t.IsLevel := ⟨left_kind, right_kind⟩
    rw [Balanced, depthBehind?_level level] at balanced
    obtain ⟨follows, later⟩ := List.isChain_cons.mp apart
    by_cases opens : t.kind = .function ∧ ∃ left rest, ts = left :: rest ∧ left.kind = .leftParen
    · obtain ⟨function_kind, left, rest, rfl, left_kind⟩ := opens
      obtain ⟨inner, right, behind, rfl, right_kind, inside, rest⟩ :=
        Balanced.exists_group balanced left_kind
      obtain ⟨apart_inner, apart_behind, front_behind⟩ := apart_group right_kind later
      exact .call function_kind left_kind right_kind
        (nested_of_balanced inner inside apart_inner nofun)
        (nested_of_balanced behind rest apart_behind fun _ => front_behind)
    · refine .single level (nested_of_balanced ts balanced later fun shut u hu => ?_)
      obtain ends | function_kind := (Bool.or_eq_true _ _).mp shut
      · exact (follows u hu).kind_ne ends
      · intro hk
        cases ts with
        | nil => cases hu
        | cons v ts =>
          cases hu
          exact opens ⟨eq_of_beq function_kind, u, ts, rfl, hk⟩
termination_by ts.length

end Reckoner.Token
