import CqlOperations.Number.Binary

/-! Reading decimal text into the nearest number of a binary format. -/
namespace CqlOperations.Number

def digitsValue (digits : List Char) : Nat :=
  digits.foldl (fun n c => 10 * n + (c.toNat - 48)) 0

/-- The sign in front of a number, and what follows it. -/
def splitSign : List Char → Bool × List Char
  | '-' :: rest => (true, rest)
  | '+' :: rest => (false, rest)
  | rest => (false, rest)

/-- The exponent after the digits; nothing is read as zero. -/
def readExponent? : List Char → Option Int
  | [] => some 0
  | c :: rest =>
    if c = 'e' ∨ c = 'E' then
      let (negative, digits) := splitSign rest
      if digits.isEmpty ∨ !digits.all Char.isDigit then none
      else some (if negative then -(digitsValue digits : Int) else digitsValue digits)
    else none

/-- A point and the digits after it, if there is one. -/
def splitFraction : List Char → List Char × List Char
  | '.' :: rest => (rest.takeWhile Char.isDigit, rest.dropWhile Char.isDigit)
  | rest => ([], rest)

/-- Reads digits with an optional sign, point and exponent, or the name of a special value in
letters of either case. -/
def Format.read? (f : Format) (text : String) : Option Binary :=
  let (negative, body) := splitSign text.toList
  let name := String.ofList (body.map Char.toLower)
  if name = "nan" then some .nan
  else if name = "inf" ∨ name = "infinity" then some (.infinity negative)
  else do
    let whole := body.takeWhile Char.isDigit
    let (fraction, rest) := splitFraction (body.dropWhile Char.isDigit)
    guard !(whole ++ fraction).isEmpty
    let exponent ← readExponent? rest
    return f.ofDecimal negative (digitsValue (whole ++ fraction)) (exponent - fraction.length)

end CqlOperations.Number
