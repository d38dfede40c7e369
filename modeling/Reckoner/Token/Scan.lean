import Reckoner.Fault.Basic
import Reckoner.Text.Class
import Reckoner.Token.Basic

namespace Reckoner.Token

/-- The value of a numeral: an integer, or a double if it has a point. -/
def literal (cs : List Char) : Value :=
  let whole := cs.takeWhile Char.isDigit
  match cs.dropWhile Char.isDigit with
  | [] => .integer (Decimal.natOfDigits whole : Nat)
  | _ :: fraction =>
    .double (Binary64.ofDecimal (Nat.ofDigitChars 10 (whole ++ fraction) 0) (-fraction.length))

/-- What a numeral goes on with: digits, and once a point with more digits. -/
def numeralTail (cs : List Char) : List Char :=
  let whole := cs.takeWhile Char.isDigit
  match cs.dropWhile Char.isDigit with
  | '.' :: rest => whole ++ '.' :: rest.takeWhile Char.isDigit
  | _ => whole

/-- What an identifier goes on with. -/
def isNameChar (c : Char) : Bool :=
  Text.isLetter c || c.isDigit

/-- The symbols that are binary operators. -/
def isOperatorChar (c : Char) : Bool :=
  "+-*/^%".toList.contains c

/-- A minus at the front of the text or after a token that opens an operand is a sign. -/
def minusKind (previous : Option Kind) : Kind :=
  match previous with
  | none => .unaryMinus
  | some k => if k.opensOperand then .unaryMinus else .operator

/-- The kind of the token that starts with `c`, and the rest of its lexeme. -/
def lexeme? (lexicon : Lexicon) (previous : Option Kind) (c : Char) (cs : List Char) :
    Option (Kind × List Char) :=
  if c.isDigit then some (.number, numeralTail cs)
  else if c = '.' && (cs.head?.any Char.isDigit) then some (.number, cs.takeWhile Char.isDigit)
  else if Text.isLetter c then
    let tail := cs.takeWhile isNameChar
    some (lexicon.kindOf (String.ofList (c :: tail)), tail)
  else if c = '(' then some (.leftParen, [])
  else if c = ')' then some (.rightParen, [])
  else if c = ',' then some (.comma, [])
  else if c = '-' then some (minusKind previous, [])
  else if isOperatorChar c then some (.operator, [])
  else none

/-- The token of a kind with given characters. -/
def ofLexeme (kind : Kind) (position : Nat) (cs : List Char) : Token :=
  match kind with
  | .number => ⟨kind, String.ofList cs, position, some (literal cs), none⟩
  | .unaryMinus => ⟨kind, negation, position, none, none⟩
  | kind => ⟨kind, String.ofList cs, position, none, none⟩

/-- The sign of a product that is written by putting its factors side by side. It stands where the
second factor stands. -/
def impliedProduct (previous : Option Kind) (kind : Kind) (position : Nat) : List Token :=
  if previous.any Kind.endsOperand && kind.startsFactor then
    [⟨.operator, "*", position, none, none⟩]
  else []

/-- The tokens of the characters from `position` on. The whole text is kept for the report of a
character that starts no token. -/
def scanFrom (lexicon : Lexicon) (text : List Char) (previous : Option Kind) (position : Nat) :
    List Char → Except SyntaxFault (List Token)
  | [] => .ok []
  | c :: cs =>
    if Text.isBlank c then scanFrom lexicon text previous (position + 1) cs
    else
      match lexeme? lexicon previous c cs with
      | none => .error (.invalidCharacter text position c)
      | some (kind, tail) => do
        let rest ← scanFrom lexicon text (some kind) (position + 1 + tail.length)
          (cs.drop tail.length)
        return impliedProduct previous kind position ++ ofLexeme kind position (c :: tail) :: rest
termination_by cs => cs.length
decreasing_by
  · simp
  · simp only [List.length_drop, List.length_cons]
    omega

/-- The tokens of a text. -/
def scan (lexicon : Lexicon) (text : List Char) : Except SyntaxFault (List Token) :=
  scanFrom lexicon text none 0 text

end Reckoner.Token
