import CqlOperations.Number.Binary

/-! The fewest decimal digits that read back as the same binary number, and their layout. -/
namespace CqlOperations.Number

/-- The value `digits * 10 ^ exponent`. -/
structure Decimal where
  digits : Nat
  exponent : Int
deriving DecidableEq

/-- The reals between two fractions over one denominator, their ends included or not. -/
structure Interval where
  low : Nat
  high : Nat
  denominator : Nat
  closed : Bool

/-- The reals that round to `significand * 2 ^ exponent`. The gap below a power of two is half as
wide as the gap above it. -/
def Format.interval (f : Format) (significand : Nat) (exponent : Int) : Interval :=
  let narrow := significand = Nat.pow 2 (f.precision - 1) ∧ f.minExponent < exponent
  let (unit, den) := scaled 2 1 4 exponent
  { low := (4 * significand - if narrow then 1 else 2) * unit
    high := (4 * significand + 2) * unit
    denominator := den
    closed := significand % 2 = 0 }

/-- Whether `num / den` lies in the interval. -/
def Interval.contains (i : Interval) (num den : Nat) : Bool :=
  let low := i.low * den
  let high := i.high * den
  let x := num * i.denominator
  if i.closed then low ≤ x && x ≤ high else low < x && x < high

def Interval.containsDecimal (i : Interval) (d : Decimal) : Bool :=
  let (n, m) := scaled 10 d.digits 1 d.exponent
  i.contains n m

/-- The multiple of `10 ^ exponent` in the interval that is nearest to `num / den`, the greater one
at a midpoint. -/
def Interval.nearest? (i : Interval) (num den : Nat) (exponent : Int) : Option Decimal :=
  let (n, d) := scaled 10 num den (-exponent)
  let below : Decimal := ⟨n / d, exponent⟩
  let above : Decimal := ⟨n / d + 1, exponent⟩
  let lower := i.containsDecimal below
  let upper := i.containsDecimal above
  if lower && (!upper || 2 * (n % d) < d) then some below
  else if upper then some above
  else none

/-- The exponent of ten below or at the positive number `num / den`. -/
def floorLog10 (num den : Nat) : Int :=
  let guess : Int := (Nat.toDigits 10 num).length - (Nat.toDigits 10 den).length
  let (n, d) := scaled 10 num den (-guess)
  if n < d then guess - 1 else guess

/-- The first grid of 1, 2, … digits that meets the interval. Seventeen digits always do. -/
def Interval.shortest (i : Interval) (num den : Nat) : Decimal :=
  let top := floorLog10 num den
  let grids := (List.range 17).map fun (k : Nat) => top - (k : Int)
  (grids.findSome? (i.nearest? num den)).getD ⟨num / den, 0⟩

def Format.shortest (f : Format) (significand : Nat) (exponent : Int) : Decimal :=
  let (n, d) := scaled 2 significand 1 exponent
  (f.interval significand exponent).shortest n d

/-- Where positional notation starts and ends, as powers of ten, and the special values. -/
structure Layout where
  leastPositional : Int
  leastScientific : Int
  nan : String
  infinity : String

/-- A positional number always has a fraction; a scientific one only if it has more digits. -/
def Layout.digits (l : Layout) (d : Decimal) : String :=
  let digits := (Nat.toDigits 10 d.digits)
  let significant := (digits.reverse.dropWhile (· == '0')).reverse
  let point : Int := d.exponent + digits.length
  if significant.isEmpty then "0.0"
  else if point ≤ l.leastPositional ∨ l.leastScientific < point then
    let fraction := significant.drop 1
    String.ofList (significant.take 1) ++
      (if fraction.isEmpty then "" else "." ++ String.ofList fraction) ++ "e" ++
      toString (point - 1)
  else if point ≤ 0 then
    "0." ++ String.ofList (List.replicate (-point).toNat '0' ++ significant)
  else
    let places := point.toNat
    let whole := significant.take places
    let fraction := significant.drop places
    String.ofList (whole ++ List.replicate (places - whole.length) '0') ++ "." ++
      (if fraction.isEmpty then "0" else String.ofList fraction)

def Layout.text (l : Layout) (f : Format) : Binary → String
  | .nan => l.nan
  | .infinity negative => (if negative then "-" else "") ++ l.infinity
  | .finite negative significand exponent =>
    (if negative then "-" else "") ++
      l.digits (if significand = 0 then ⟨0, 0⟩ else f.shortest significand exponent)

end CqlOperations.Number
