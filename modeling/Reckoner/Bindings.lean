import Reckoner.Marked
import Std.Data.TreeMap

/-!
What names are bound to. A number that has been kept once is the same number wherever it is bound
again, also if it is undefined.
-/
namespace Reckoner

structure Bindings where
  /-- The bound names, in their order. -/
  entries : Std.TreeMap String (Marked Value)
  /-- How many bindings there have been. -/
  count : Nat

namespace Bindings

def empty : Bindings :=
  ⟨∅, 0⟩

def get? (b : Bindings) (name : String) : Option (Marked Value) :=
  b.entries[name]?

def contains (b : Bindings) (name : String) : Bool :=
  b.entries.contains name

/-- The bound names, in their order. -/
def names (b : Bindings) : List String :=
  b.entries.keys

def toList (b : Bindings) : List (String × Value) :=
  b.entries.toList.map fun (name, v) => (name, v.content)

/-- The number as the next binding keeps it. -/
def kept (b : Bindings) (v : Marked Value) : Marked Value :=
  v.keptAt (.bound b.count)

/-- The name is bound to the number as it is kept, and to nothing else from then on. -/
def put (b : Bindings) (name : String) (v : Marked Value) : Bindings :=
  ⟨b.entries.insert name (b.kept v), b.count + 1⟩

def bind (b : Bindings) (name : String) (v : Value) : Bindings :=
  b.put name (.plain v)

def erase (b : Bindings) (name : String) : Bindings :=
  { b with entries := b.entries.erase name }

def clear (b : Bindings) : Bindings :=
  { b with entries := ∅ }

theorem get?_empty (name : String) : empty.get? name = none :=
  Std.TreeMap.getElem?_emptyc

theorem get?_put (b : Bindings) (name : String) (v : Marked Value) (other : String) :
    (b.put name v).get? other = if name = other then some (b.kept v) else b.get? other := by
  simp only [get?, put, Std.TreeMap.getElem?_insert, Std.compare_eq_iff_eq]

theorem get?_erase (b : Bindings) (name other : String) :
    (b.erase name).get? other = if name = other then none else b.get? other := by
  simp only [get?, erase, Std.TreeMap.getElem?_erase, Std.compare_eq_iff_eq]

theorem get?_clear (b : Bindings) (name : String) : b.clear.get? name = none :=
  Std.TreeMap.getElem?_emptyc

theorem contains_eq (b : Bindings) (name : String) : b.contains name = (b.get? name).isSome :=
  Std.TreeMap.contains_eq_isSome_getElem?

theorem content_kept (b : Bindings) (v : Marked Value) : (b.kept v).content = v.content :=
  v.content_keptAt _

end Bindings

end Reckoner
