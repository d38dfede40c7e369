import Reckoner.Text.Similarity
import Reckoner.Trap

namespace Reckoner.Usage

/-- The functions with an example of their own. -/
def known : List (String × String) :=
  [("sqrt", "sqrt(16) → 4.0"),
    ("ln", "ln(e) → 1.0"),
    ("log", "log(100, 10) → 2.0"),
    ("pow", "pow(2, 10) → 1024.0"),
    ("complex", "complex(2, 3) → 2.0 + 3.0i"),
    ("fraction", "fraction(1, 4) → 0.25"),
    ("clamp", "clamp(15, 0, 10) → 10"),
    ("gcd", "gcd(12, 18) → 6"),
    ("lcm", "lcm(4, 6) → 12"),
    ("min", "min(3, 1, 2) → 1"),
    ("max", "max(3, 1, 2) → 3"),
    ("average", "average(1, 2, 3) → 2.0"),
    ("median", "median(3, 1, 2) → 2.0"),
    ("mode", "mode(1, 2, 2) → 2"),
    ("stdev", "stdev(2, 4, 4, 4, 5, 5, 7, 9) → 2.138..."),
    ("variance", "variance(1, 2, 3, 4) → 1.666..."),
    ("fact", "fact(5) → 120"),
    ("factorial2", "factorial2(7) → 105"),
    ("gamma", "gamma(5) → 24.0"),
    ("random", "random() → 0.37...")]

/-- An example call of a function, with the arguments left open where none is known. -/
def ofFunction (name : String) : String :=
  (known.lookup name).getD (name ++ "(...)")

end Reckoner.Usage

namespace Reckoner

/-- A name that might have been meant, and how close it is. -/
structure Suggestion where
  similarity : Rat
  name : String

namespace Suggestion

/-- Names at least this similar are offered. -/
def threshold : Rat := 3 / 5

/-- More similar names first, and of equally similar names the greater first. -/
def precedes (a b : Suggestion) : Bool :=
  b.similarity < a.similarity || (a.similarity == b.similarity && b.name ≤ a.name)

/-- The names closest to `target`, at most `limit` of them. Nothing is close to the empty name. -/
def closest (target : String) (names : List String) (limit : Nat) : List String :=
  if target.isEmpty then []
  else
    let candidates := names.map fun name => ⟨Text.similarity name target, name⟩
    let close := candidates.filter fun c => threshold ≤ c.similarity
    ((close.mergeSort precedes).take limit).map (·.name)

/-- The names closest to `target`, at most `limit` of them. If there is anything to compare, the
limit has to admit a name. -/
def search (target : String) (names : List String) (limit : Int) : Except Trap (List String) :=
  if target.isEmpty || names.isEmpty then .ok []
  else if limit ≤ 0 then .error (.noResults limit)
  else .ok (closest target names limit.toNat)

/-- The hint shown for an unknown name, if any known name is close. -/
def hint? (target : String) (names : List String) : Option String :=
  match closest target names 3 with
  | [] => none
  | close =>
    some ("Did you mean: " ++ ", ".intercalate (close.map fun name => "'" ++ name ++ "'") ++ "?")

end Suggestion

end Reckoner

namespace Reckoner

structure Report where
  message : String
  position : Option Int := none
  received : Option String := none
  expected : Option String := none
  context : Option String := none
  suggestion : Option String := none
  usage : Option String := none
deriving DecidableEq

namespace Report

/-- The details in the order in which they are shown. An empty detail is not shown. -/
def details (r : Report) : List (String × String) :=
  let fields :=
    [("Position", r.position.map toString),
      ("Received", r.received),
      ("Expected", r.expected),
      ("Context", r.context),
      ("Suggestion", r.suggestion),
      ("Example", r.usage)]
  fields.filterMap fun (label, text) =>
    match text with
    | some t => if t.isEmpty then none else some (label, t)
    | none => none

/-- All of it, one detail to a line. Whole numbers are written out however many digits they have; a
limit on the digits of a text, such as 4300, is not kept here. -/
def text (r : Report) : String :=
  "\n".intercalate
    (("Error: " ++ r.message) :: r.details.map fun (label, t) => label ++ ": " ++ t)

end Report

end Reckoner
