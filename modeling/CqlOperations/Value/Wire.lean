import CqlOperations.Number.BigEndian
import CqlOperations.Number.Bits
import CqlOperations.Session.Column
import CqlOperations.Text.Address
import CqlOperations.Text.Uuid
import CqlOperations.Value

/-! Values as the bytes that travel between a session and its nodes. -/
namespace CqlOperations

open Number (bytesOfInt bytesOfNat intOfBytes natOfBytes)

/-- Bytes with their number in front. -/
private def sized (bytes : List UInt8) : List UInt8 :=
  bytesOfInt 4 bytes.length ++ bytes

mutual

/-- The bytes of a value for a marker of some type. Only values of the very type have any; text
serves for both types of text, a collection for both types of collection, and an empty value for all
types. -/
def Value.bytes? : Value → ColumnType → Option (List UInt8)
  | .empty, _ => some []
  | .int n, .int => some (bytesOfInt 4 n)
  | .bigint n, .bigint => some (bytesOfInt 8 n)
  | .smallint n, .smallint => some (bytesOfInt 2 n)
  | .tinyint n, .tinyint => some (bytesOfInt 1 n)
  | .counter n, .counter => some (bytesOfInt 8 n)
  | .timestamp n, .timestamp => some (bytesOfInt 8 n)
  | .date n, .date => some (bytesOfNat 4 n.toNat)
  | .time n, .time => some (bytesOfInt 8 n)
  | .text s, .text | .text s, .ascii | .ascii s, .text | .ascii s, .ascii =>
    some s.toUTF8.toList
  | .boolean b, .boolean => some [if b then 1 else 0]
  | .blob bytes, .blob => some bytes
  | .double x, .double => some (bytesOfNat 8 (Number.Format.double.toBits x))
  | .float x, .float => some (bytesOfNat 4 (Number.Format.single.toBits x))
  | .uuid s, .uuid => Text.Uuid.bytes? s
  | .inet s, .inet => Text.Address.bytes? s
  | .list items, .list item | .list items, .set item
  | .set items, .list item | .set items, .set item =>
    (Value.allBytes? items item).map fun bytes => bytesOfInt 4 items.length ++ bytes
  | _, _ => none

def Value.allBytes? : List Value → ColumnType → Option (List UInt8)
  | [], _ => some []
  | v :: rest, type => do
    let first ← v.bytes? type
    let bytes ← Value.allBytes? rest type
    return sized first ++ bytes

end

namespace ColumnType

/-- Splits off `count` items, each with its length in front. None of them may be missing. -/
private def items? : Nat → List UInt8 → Option (List (List UInt8))
  | 0, _ => some []
  | count + 1, bytes =>
    let length := intOfBytes (bytes.take 4)
    let rest := bytes.drop 4
    if bytes.length < 4 ∨ length < 0 ∨ rest.length < length.toNat then none
    else (items? count (rest.drop length.toNat)).map (rest.take length.toNat :: ·)

/-- The items of a collection, with their number in front. -/
private def collection? (value? : List UInt8 → Option Value) (bytes : List UInt8) :
    Option (List Value) :=
  let count := intOfBytes (bytes.take 4)
  if bytes.length < 4 ∨ count < 0 then none
  else do (← items? count.toNat (bytes.drop 4)).mapM value?

/-- No bytes at all are an empty value. -/
private def orEmpty (f : List UInt8 → Option Value) (bytes : List UInt8) : Option Value :=
  if bytes.isEmpty then some .empty else f bytes

private def ofWidth (width : Nat) (f : List UInt8 → Value) : List UInt8 → Option Value :=
  orEmpty fun bytes => if bytes.length = width then some (f bytes) else none

private def number (width : Nat) (f : Int → Value) : List UInt8 → Option Value :=
  ofWidth width fun bytes => f (intOfBytes bytes)

/-- A time of day, in nanoseconds. -/
private def time? (bytes : List UInt8) : Option Value :=
  let n := intOfBytes bytes
  if bytes.length = 8 ∧ 0 ≤ n ∧ n < 86400000000000 then some (.time n) else none

private def text? (bytes : List UInt8) : Option String :=
  String.fromUTF8? bytes.toByteArray

/-- The value that bytes stand for in a column of the type. -/
def value? : ColumnType → List UInt8 → Option Value
  | ascii => fun bytes =>
    if bytes.all (· < 128) then (text? bytes).map .ascii else none
  | bigint => number 8 .bigint
  | blob => fun bytes => some (.blob bytes)
  | boolean => ofWidth 1 fun bytes => .boolean (natOfBytes bytes != 0)
  | counter => number 8 .counter
  | date => ofWidth 4 fun bytes => .date (natOfBytes bytes)
  | double => ofWidth 8 fun bytes => .double (Number.Format.double.ofBits (natOfBytes bytes))
  | float => ofWidth 4 fun bytes => .float (Number.Format.single.ofBits (natOfBytes bytes))
  | inet => orEmpty fun bytes => (Text.Address.text? bytes).map .inet
  | int => number 4 .int
  | smallint => number 2 .smallint
  | text => fun bytes => (text? bytes).map .text
  | time => orEmpty time?
  | timestamp => number 8 .timestamp
  | tinyint => number 1 .tinyint
  | uuid => orEmpty fun bytes => (Text.Uuid.text? bytes).map .uuid
  | list item => orEmpty fun bytes => (collection? item.value? bytes).map .list
  | set item => orEmpty fun bytes => (collection? item.value? bytes).map .set

end ColumnType
end CqlOperations
