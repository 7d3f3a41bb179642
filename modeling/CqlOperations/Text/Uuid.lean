import CqlOperations.Text.Hex

/-! Universally unique identifiers: sixteen bytes in five groups of hexadecimal digits. They are
read in braces, as a resource name and without hyphens too. -/
namespace CqlOperations.Text.Uuid

def bytesOfGroups? (s : String) : Option (List UInt8) := do
  let groups := s.splitOn "-"
  guard (groups.map String.length = [8, 4, 4, 4, 12])
  bytesOfHex? (String.join groups)

/-- What is left without a name or braces around it. -/
def bare (s : List Char) : List Char :=
  let name := "urn:uuid:".toList
  if name.isPrefixOf s then s.drop name.length
  else if s.head? = some '\x7b' ∧ s.getLast? = some '\x7d' then s.tail.dropLast
  else s

def bytes? (s : String) : Option (List UInt8) :=
  if s.length = 32 then bytesOfHex? s else bytesOfGroups? (String.ofList (bare s.toList))

def text? (bytes : List UInt8) : Option String :=
  let part (start length : Nat) := hexOfBytes ((bytes.drop start).take length)
  if bytes.length = 16 then
    some ("-".intercalate [part 0 4, part 4 2, part 6 2, part 8 2, part 10 6])
  else none

def canonical? (s : String) : Option String :=
  (bytes? s).bind text?

end CqlOperations.Text.Uuid
