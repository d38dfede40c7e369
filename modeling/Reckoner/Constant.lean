import Reckoner.Value.Basic

namespace Reckoner

inductive Constant where
  | e | i | phi | pi | tau
deriving DecidableEq

namespace Constant

def name : Constant → String
  | e => "e"
  | i => "i"
  | phi => "phi"
  | pi => "pi"
  | tau => "tau"

/-- The imaginary unit, and doubles nearest to the others. -/
def value : Constant → Value
  | e => .double 2.718281828459045
  | i => .complex ⟨0.0, 1.0⟩
  | phi => .double 1.618033988749895
  | pi => .double Binary64.pi
  | tau => .double 6.283185307179586

/-- All constants, in the order of their names. -/
def all : List Constant := [e, i, phi, pi, tau]

def names : List String :=
  all.map name

def ofName? (s : String) : Option Constant :=
  all.find? fun c => c.name == s

theorem ofName?_name (c : Constant) : ofName? c.name = some c := by
  cases c <;> rfl

theorem name_of_ofName? {s : String} {c : Constant} (h : ofName? s = some c) : c.name = s := by
  simpa using List.find?_some h

theorem ofName?_eq_none_iff {s : String} : ofName? s = none ↔ s ∉ names := by
  simp only [ofName?, names, List.find?_eq_none, List.mem_map, beq_iff_eq, not_exists, not_and]

end Constant

end Reckoner
