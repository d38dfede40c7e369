import Reckoner.Decimal.Digits

namespace Reckoner.Decimal

/-- The decisions of the plain form. -/
structure Plain where
  /-- The least exponent of the first digit that is written without an exponent. -/
  positionalFrom : Int
  /-- The greatest such exponent. -/
  positionalTo : Int
  /-- The least number of digits of a written exponent. -/
  exponentWidth : Nat

/-- Doubles are written in full from one ten-thousandth up to sixteen digits before the point, and
an exponent has at least two digits. -/
def plain : Plain := ⟨-4, 15, 2⟩

def zeros (n : Nat) : String :=
  String.ofList (List.replicate n '0')

/-- The mark `e`, a sign, and the digits filled up to the width. -/
def exponentText (width : Nat) (exponent : Int) : String :=
  let digits := toString exponent.natAbs
  "e" ++ (if exponent < 0 then "-" else "+") ++ zeros (width - digits.length) ++ digits

/-- One digit before the point, the others behind it. -/
def mantissaText : List Char → String
  | [] => ""
  | [d] => String.ofList [d]
  | d :: rest => String.ofList (d :: '.' :: rest)

/-- A positive decimal without trailing zeros, in the plain form. A whole number keeps one zero
behind the point. -/
def Plain.text (form : Plain) (d : Decimal) : String :=
  let digits := Nat.toDigits 10 d.digits
  let significant := (digits.reverse.dropWhile (· == '0')).reverse
  let point := (digits.length : Int) + d.exponent
  if form.positionalFrom ≤ point - 1 && point - 1 ≤ form.positionalTo then
    if point ≤ 0 then "0." ++ zeros (-point).toNat ++ String.ofList significant
    else if significant.length ≤ point.toNat then
      String.ofList significant ++ zeros (point.toNat - significant.length) ++ ".0"
    else
      String.ofList (significant.take point.toNat) ++ "." ++
        String.ofList (significant.drop point.toNat)
  else mantissaText significant ++ exponentText form.exponentWidth (point - 1)

/-- The sign and the size of a double as text, once the finite sizes have one. -/
def signed (x : Float) (sizeText : Binary64.Size → String) : String :=
  if x.isNaN then "nan"
  else
    (if Binary64.isNegative x then "-" else "") ++
      (if x.isInf then "inf" else sizeText (Binary64.size x))

/-- A double in the plain form: `2.5`, `4.0`, `1e+16`, `1.5e-05`, `-0.0`, `inf`, `nan`. -/
def ofFloat (x : Float) : String :=
  signed x fun size =>
    if size.significand = 0 then "0.0" else plain.text (shortest size)

/-- A double with exactly `count` digits and an exponent: `2.50000e+00`, `-0.00000e+00`. -/
def scientific (count : Nat) (x : Float) : String :=
  signed x fun size =>
    if size.significand = 0 then
      mantissaText (List.replicate count '0') ++ exponentText plain.exponentWidth 0
    else
      let d := toDigits count size.value
      mantissaText (Nat.toDigits 10 d.digits) ++
        exponentText plain.exponentWidth (d.exponent + count - 1)

end Reckoner.Decimal
