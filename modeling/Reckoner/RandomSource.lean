import Reckoner.Fault.Basic
import Reckoner.Marked

namespace Reckoner

structure RandomSource where
  values : List Float
  drawn : Nat
deriving DecidableEq

/-- A computation that may draw random numbers and may fail. What it has drawn stays drawn if it
fails. -/
abbrev Evaluation := ExceptT Fault (StateM RandomSource)

namespace RandomSource

/-- The numbers of a list from the first on, over and over; one half if there are none. -/
def cycle (xs : List Float) : RandomSource :=
  ⟨xs, 0⟩

/-- The place of the next number. -/
def place (source : RandomSource) : Nat :=
  source.drawn % source.values.length

def next (source : RandomSource) : Marked Value :=
  (Marked.plain (.double (source.values.getD source.place 0.5))).keptAt (.drawn source.place)

/-- Takes the next number. -/
def draw : Evaluation (Marked Value) :=
  modifyGet fun source => (source.next, { source with drawn := source.drawn + 1 })

end RandomSource

namespace Evaluation

/-- A computation that draws nothing. -/
def ofExcept {α : Type} (result : Except Fault α) : Evaluation α :=
  ExceptT.mk (pure result)

/-- The result, and the random numbers as they are then. -/
def outcome {α : Type} (computation : Evaluation α) (random : RandomSource) :
    Except Fault α × RandomSource :=
  (ExceptT.run computation).run random

end Evaluation

end Reckoner
