import Reckoner.Value.Basic

/-!
Numbers that remember where they were kept. An undefined number equals nothing, so two of them can
only be told to be one and the same by where they come from. A mark names such a place: everything
that is read from it is one and the same number, and what is reckoned anew has no mark.
-/
namespace Reckoner

/-- A place where an undefined number was kept. -/
inductive Mark where
  /-- A place among the random numbers. -/
  | drawn (place : Nat)
  /-- A binding, by how many there were before it. -/
  | bound (place : Nat)
deriving DecidableEq

structure Marked (α : Type) where
  content : α
  mark : Option Mark
deriving DecidableEq

namespace Marked

/-- What is reckoned anew. -/
def plain {α : Type} (a : α) : Marked α :=
  ⟨a, none⟩

def map {α β : Type} (f : α → β) (x : Marked α) : Marked β :=
  ⟨f x.content, x.mark⟩

/-- Both are read from one place. -/
def isSame {α : Type} (x y : Marked α) : Bool :=
  x.mark.isSome && x.mark == y.mark

/-- An undefined number gets the mark, unless it has one. All others are known by their value and
need none. -/
def keptAt (mark : Mark) (v : Marked Value) : Marked Value :=
  if v.mark.isNone && v.content.isUndefined then ⟨v.content, some mark⟩ else v

theorem content_keptAt (mark : Mark) (v : Marked Value) : (v.keptAt mark).content = v.content := by
  unfold keptAt
  split <;> rfl

end Marked

end Reckoner
