/-! Whole numbers as bytes, the most significant one first. -/
namespace CqlOperations.Number

/-- The last `width` bytes of a number. -/
def bytesOfNat : Nat → Nat → List UInt8
  | 0, _ => []
  | width + 1, n => UInt8.ofNat (n / Nat.pow 256 width) :: bytesOfNat width n

def natOfBytes (bytes : List UInt8) : Nat :=
  bytes.foldl (fun n b => 256 * n + b.toNat) 0

/-- Negative numbers are written in two's complement. -/
def bytesOfInt (width : Nat) (n : Int) : List UInt8 :=
  bytesOfNat width (n % Nat.pow 256 width).toNat

def intOfBytes (bytes : List UInt8) : Int :=
  let n := natOfBytes bytes
  let range := Nat.pow 256 bytes.length
  if 2 * n < range then n else (n : Int) - range

end CqlOperations.Number
