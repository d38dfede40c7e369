/-!
Integers of any size as decimal text, and digits as a number. Both are done in chunks of digits.
Writing starts with the last chunk, and all chunks but the first are filled up with zeros; reading
starts with the first chunk, and the last one may be shorter.
-/
namespace Reckoner.Decimal

/-- How many digits are written or read at a time. -/
def chunkLength : Nat := 1000

theorem chunkLength_pos : 0 < chunkLength := by decide

/-- The least number that does not fit into a chunk. -/
def chunkBase : Nat := Nat.pow 10 chunkLength

theorem one_lt_chunkBase : 1 < chunkBase := by decide +kernel

/-- The chunks of a number, the last one first. -/
def chunks (n : Nat) : List Nat :=
  if n = 0 then [] else n % chunkBase :: chunks (n / chunkBase)
termination_by n
decreasing_by exact Nat.div_lt_self (Nat.pos_of_ne_zero ‹_›) one_lt_chunkBase

/-- The digits of a chunk, filled up with zeros in front. -/
def chunkDigits (n : Nat) : List Char :=
  let digits := Nat.toDigits 10 n
  List.replicate (chunkLength - digits.length) '0' ++ digits

/-- The digits of several chunks, of which the first one keeps its length. -/
def joinChunks : List Nat → List Char
  | [] => []
  | first :: others => Nat.toDigits 10 first ++ others.flatMap chunkDigits

/-- The decimal numeral of an integer. -/
def ofInt (n : Int) : String :=
  if n.natAbs < chunkBase then toString n
  else (if n < 0 then "-" else "") ++ String.ofList (joinChunks (chunks n.natAbs).reverse)

/-- The chunks of digits, the first of which starts behind `skipped` digits. -/
def cutBehind (skipped : Nat) : List Char → List (List Char)
  | [] => []
  | d :: ds =>
    match skipped with
    | 0 => (d :: ds).take chunkLength :: cutBehind (chunkLength - 1) ds
    | k + 1 => cutBehind k ds

/-- The number of all digits up to a chunk, from the number of those in front of it. -/
def readChunk (front : Nat) (chunk : List Char) : Nat :=
  front * Nat.pow 10 chunk.length + Nat.ofDigitChars 10 chunk 0

/-- The number that digits stand for. -/
def natOfDigits (digits : List Char) : Nat :=
  (cutBehind 0 digits).foldl readChunk 0

end Reckoner.Decimal
