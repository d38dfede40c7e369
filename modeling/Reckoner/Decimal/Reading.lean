import Reckoner.Binary64.Nearest

namespace Reckoner.Decimal

/-- The sign at the front of a text, and the rest. -/
def splitSign : List Char → Bool × List Char
  | '-' :: rest => (true, rest)
  | '+' :: rest => (false, rest)
  | cs => (false, cs)

/-- An exponent, zero if none is written. -/
def readExponent? : List Char → Option Int
  | [] => some 0
  | mark :: cs =>
    let (negative, digits) := splitSign cs
    if (mark = 'e' || mark = 'E') && !digits.isEmpty && digits.all Char.isDigit then
      let n : Int := Nat.ofDigitChars 10 digits 0
      some (if negative then -n else n)
    else none

/-- The size of a double: digits, a point with more digits, and an exponent. -/
def readSize? (cs : List Char) : Option Float :=
  let word := cs.map Char.toLower
  if word = "inf".toList || word = "infinity".toList then some Binary64.infinity
  else if word = "nan".toList then some Binary64.nan
  else
    let whole := cs.takeWhile Char.isDigit
    let rest := cs.dropWhile Char.isDigit
    let (fraction, rest) :=
      match rest with
      | '.' :: rest => (rest.takeWhile Char.isDigit, rest.dropWhile Char.isDigit)
      | rest => ([], rest)
    if whole.isEmpty && fraction.isEmpty then none
    else
      (readExponent? rest).map fun exponent =>
        Binary64.ofDecimal (Nat.ofDigitChars 10 (whole ++ fraction) 0) (exponent - fraction.length)

def read? (text : String) : Option Float :=
  let (negative, cs) := splitSign text.toList
  (readSize? cs).map fun x => if negative then -x else x

end Reckoner.Decimal
