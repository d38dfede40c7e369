import Reckoner.Binary64.Nearest

/-!
The decimal digits of a positive double: the fewest that read back as the same double, or a given
number of them. Both are chosen on the exact value.
-/
namespace Reckoner

/-- The number `digits * 10 ^ exponent`. -/
structure Decimal where
  digits : Nat
  exponent : Int
deriving DecidableEq

namespace Decimal

def value (d : Decimal) : Rat :=
  (d.digits : Rat) * (10 : Rat) ^ d.exponent

def digitCount (n : Nat) : Nat :=
  (Nat.toDigits 10 n).length

/-- The least `k` with `q < 10 ^ k`, for a positive `q`. -/
def scale (q : Rat) : Int :=
  let num := q.num.natAbs
  if q.den ≤ num then digitCount (num / q.den) else 1 - digitCount ((q.den - 1) / num)

/-- The numbers that round to a double reach halfway to its two neighbours. The ends belong to the
even significand. -/
def readsBack (size : Binary64.Size) (d : Decimal) : Bool :=
  let quarter := (2 : Rat) ^ (size.exponent - 2)
  let low := ((4 * size.significand - (if size.atPowerOfTwo then 1 else 2) : Nat) : Rat) * quarter
  let high := ((4 * size.significand + 2 : Nat) : Rat) * quarter
  let q := d.value
  if size.significand % 2 = 0 then low ≤ q && q ≤ high else low < q && q < high

/-- Of the two multiples of `10 ^ exponent` around the value, the one that reads back. If both do,
the nearer, and of two equally near the even one. -/
def onGrid? (size : Binary64.Size) (exponent : Int) : Option Decimal :=
  let steps := size.value / (10 : Rat) ^ exponent
  let low := steps.floor.toNat
  let below : Decimal := ⟨low, exponent⟩
  let above : Decimal := ⟨low + 1, exponent⟩
  match readsBack size below, readsBack size above with
  | false, false => none
  | true, false => some below
  | false, true => some above
  | true, true =>
    let middle := (low : Rat) + 1 / 2
    if steps < middle then some below
    else if middle < steps then some above
    else if low % 2 = 0 then some below
    else some above

/-- Exactly `count` digits, a tie going to the even last digit. -/
def toDigits (count : Nat) (q : Rat) : Decimal :=
  let exponent := scale q - count
  let steps := q / (10 : Rat) ^ exponent
  let digits := roundHalfEven steps.num.natAbs steps.den
  if digits = Nat.pow 10 count then ⟨digits / 10, exponent + 1⟩ else ⟨digits, exponent⟩

/-- The fewest digits that read back. Seventeen always do. -/
def shortest (size : Binary64.Size) : Decimal :=
  let top := scale size.value
  ((List.range 17).findSome? fun n => onGrid? size (top - (n + 1 : Nat))).getD
    (toDigits 17 size.value)

end Decimal

end Reckoner
