import CqlOperations.Number.Binary

/-! Bit patterns of floating-point numbers: a sign bit, an exponent and a fraction. -/
namespace CqlOperations.Number.Format

/-- The significand of normal numbers starts here; it is left out of the pattern. -/
def implicitBit (f : Format) : Nat :=
  Nat.pow 2 (f.precision - 1)

/-- The pattern whose exponent is all ones and whose fraction is zero. -/
def infinityBits (f : Format) : Nat :=
  (f.maxExponent - f.minExponent + 2).toNat * f.implicitBit

def signBit (f : Format) : Nat :=
  f.infinityBits + f.implicitBit

def toBits (f : Format) : Binary → Nat
  | .nan => f.infinityBits + f.implicitBit / 2
  | .infinity negative => (if negative then f.signBit else 0) + f.infinityBits
  | .finite negative significand exponent =>
    (if negative then f.signBit else 0) +
      ((exponent - f.minExponent).toNat * f.implicitBit + significand)

def ofBits (f : Format) (bits : Nat) : Binary :=
  let negative : Bool := f.signBit ≤ bits
  let magnitude := bits % f.signBit
  let biased := magnitude / f.implicitBit
  let fraction := magnitude % f.implicitBit
  if f.infinityBits < magnitude then .nan
  else if magnitude = f.infinityBits then .infinity negative
  else if biased = 0 then .finite negative fraction f.minExponent
  else .finite negative (f.implicitBit + fraction) (f.minExponent + biased - 1)

end CqlOperations.Number.Format
