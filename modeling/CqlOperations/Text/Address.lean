import CqlOperations.Text.Hex

/-! Internet addresses: four or sixteen bytes, written with points or with colons. -/
namespace CqlOperations.Text.Address

def byteOfDecimal? (s : String) : Option UInt8 := do
  guard (s.length ≤ 3 ∧ s.toList.all Char.isDigit)
  let n ← s.toNat?
  if n < 256 then some (UInt8.ofNat n) else none

/-- Four decimal numbers with points in between. -/
def fourBytes? (s : String) : Option (List UInt8) := do
  let bytes ← (s.splitOn ".").mapM byteOfDecimal?
  if bytes.length = 4 then some bytes else none

def fourText (bytes : List UInt8) : String :=
  ".".intercalate (bytes.map fun b => toString b.toNat)

/-- A group of up to four hexadecimal digits. -/
def groupBytes? (s : String) : Option (List UInt8) :=
  let digits := s.toList
  if digits.isEmpty ∨ 4 < digits.length then none
  else bytesOfDigits? (List.replicate (4 - digits.length) '0' ++ digits)

/-- Groups with colons in between. The last one may be written with points. -/
def groupsBytes? : List String → Option (List UInt8)
  | [] => some []
  | [last] => (groupBytes? last).or (fourBytes? last)
  | group :: rest => do
    let first ← groupBytes? group
    let bytes ← groupsBytes? rest
    return first ++ bytes

/-- Eight groups, or fewer with two colons in place of groups that are zero. -/
def sixteenBytes? (s : String) : Option (List UInt8) := do
  let side (part : String) := groupsBytes? (if part.isEmpty then [] else part.splitOn ":")
  match s.splitOn "::" with
  | [whole] =>
    let bytes ← side whole
    if bytes.length = 16 then some bytes else none
  | [left, right] =>
    let front ← side left
    let back ← side right
    let missing := 16 - (front ++ back).length
    if 2 ≤ missing then some (front ++ List.replicate missing 0 ++ back) else none
  | _ => none

def bytes? (s : String) : Option (List UInt8) :=
  (fourBytes? s).or (sixteenBytes? s)

def groups : List UInt8 → List Nat
  | high :: low :: rest => (256 * high.toNat + low.toNat) :: groups rest
  | _ => []

/-- The place and the length of the first longest run of zeros, if it has at least two. -/
def longestZeros (gs : List Nat) : Option (Nat × Nat) :=
  let runs := (List.range gs.length).map fun i => (i, ((gs.drop i).takeWhile (· = 0)).length)
  let best := runs.foldl (fun best run => if best.2 < run.2 then run else best) (0, 1)
  if 2 ≤ best.2 then some best else none

def groupsText (gs : List Nat) : String :=
  ":".intercalate (gs.map fun g => String.ofList (Nat.toDigits 16 g))

/-- The longest run of zeros is left out. Four bytes inside of sixteen keep their points. -/
def sixteenText (bytes : List UInt8) : String :=
  let gs := groups bytes
  if gs.take 6 = [0, 0, 0, 0, 0, 0xffff] then "::ffff:" ++ fourText (bytes.drop 12)
  else match longestZeros gs with
    | none => groupsText gs
    | some (start, length) =>
      groupsText (gs.take start) ++ "::" ++ groupsText (gs.drop (start + length))

def text? (bytes : List UInt8) : Option String :=
  if bytes.length = 4 then some (fourText bytes)
  else if bytes.length = 16 then some (sixteenText bytes)
  else none

/-- The text of the address that is written here in any way. -/
def canonical? (s : String) : Option String :=
  (bytes? s).bind text?

end CqlOperations.Text.Address
