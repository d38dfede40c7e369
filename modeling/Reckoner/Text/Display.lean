import Reckoner.Text.Class
import Reckoner.Trap

namespace Reckoner.Text

def singleQuote : Char := Char.ofNat 39

def doubleQuote : Char := Char.ofNat 34

def backslash : Char := Char.ofNat 92

/-- A number in hexadecimal, filled up with zeros to the width. -/
def hexadecimal (width n : Nat) : List Char :=
  let digits := Nat.toDigits 16 n
  List.replicate (width - digits.length) '0' ++ digits

/-- A character without a visible form is shown by its code point, in two, four or eight digits. -/
def escapeCode (c : Char) : List Char :=
  let n := c.toNat
  if n < 256 then 'x' :: hexadecimal 2 n
  else if n < 65536 then 'u' :: hexadecimal 4 n
  else 'U' :: hexadecimal 8 n

/-- A character inside quotes. -/
def escape (quote c : Char) : List Char :=
  if c = quote || c = backslash then [backslash, c]
  else if c = '\n' then [backslash, 'n']
  else if c = '\r' then [backslash, 'r']
  else if c = '\t' then [backslash, 't']
  else if isPrintable c then [c]
  else backslash :: escapeCode c

/-- Single quotes, unless the text holds some of those and no double quote. -/
def quoteFor (text : List Char) : Char :=
  if text.contains singleQuote && !text.contains doubleQuote then doubleQuote else singleQuote

def quoted (text : String) : String :=
  let chars := text.toList
  let quote := quoteFor chars
  String.ofList (quote :: chars.flatMap (escape quote) ++ [quote])

/-- How many characters stand before a place in a text of a given length. -/
def offset (length : Nat) (place : Int) : Nat :=
  if place < 0 then (place + length).toNat else place.toNat

/-- The characters from one place up to another. -/
def between (text : List Char) (start stop : Int) : List Char :=
  (text.take (offset text.length stop)).drop (offset text.length start)

/-- The place is farther before the end of a text than its front. -/
def isBeforeFront (text : List Char) (place : Int) : Bool :=
  place + text.length < 0

/-- The character at a place, if one is there. -/
def charAt? (text : List Char) (place : Int) : Option Char :=
  if isBeforeFront text place then none else text[offset text.length place]?

/-- The character at `position` between arrows, with up to `reach` characters on either side. Past
the end nothing is marked. -/
def excerpt (text : List Char) (position reach : Int) : String :=
  let before := between text (max 0 (position - reach)) position
  let after := between text (position + 1) (min text.length (position + reach + 1))
  "..." ++ String.ofList before ++ "→" ++ String.ofList (charAt? text position).toList ++ "←" ++
    String.ofList after ++ "..."

/-- The excerpt at a place that has to be past the end or in the text. -/
def excerptWithin (text : List Char) (position reach : Int) : Except Trap String :=
  if isBeforeFront text position then .error .textIndex else .ok (excerpt text position reach)

end Reckoner.Text
