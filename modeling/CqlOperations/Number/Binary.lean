/-! Binary floating-point numbers as exact integers: a significand times a power of two. -/
namespace CqlOperations.Number

/-- Significand bits, and the least and the greatest exponent of two. -/
structure Format where
  precision : Nat
  minExponent : Int
  maxExponent : Int
deriving DecidableEq

def Format.double : Format := ⟨53, -1074, 971⟩

def Format.single : Format := ⟨24, -149, 104⟩

/-- A finite number has the value `significand * 2 ^ exponent`. -/
inductive Binary where
  | nan
  | infinity (negative : Bool)
  | finite (negative : Bool) (significand : Nat) (exponent : Int)
deriving DecidableEq

/-- The integer nearest to `num / den`, the even one at a midpoint. -/
def divideToEven (num den : Nat) : Nat :=
  let quotient := num / den
  let remainder := num % den
  if 2 * remainder < den then quotient
  else if den < 2 * remainder then quotient + 1
  else quotient + quotient % 2

/-- The numerator and denominator of `num / den * base ^ exponent`. -/
def scaled (base num den : Nat) : Int → Nat × Nat
  | .ofNat k => (num * base.pow k, den)
  | .negSucc k => (num, den * base.pow (k + 1))

/-- The exponent of two below or at the positive number `num / den`. -/
def floorLog2 (num den : Nat) : Int :=
  let guess : Int := (num.log2 : Int) - den.log2
  let (n, d) := scaled 2 num den (-guess)
  if n < d then guess - 1 else guess

/-- The number of the format nearest to `num / den`, the even one at a midpoint. -/
def Format.round (f : Format) (negative : Bool) (num den : Nat) : Binary :=
  if num = 0 then .finite negative 0 f.minExponent
  else
    let exponent := max f.minExponent (floorLog2 num den - f.precision + 1)
    let (n, d) := scaled 2 num den (-exponent)
    let significand := divideToEven n d
    let (significand, exponent) :=
      if significand = Nat.pow 2 f.precision then (significand / 2, exponent + 1)
      else (significand, exponent)
    if f.maxExponent < exponent then .infinity negative
    else .finite negative significand exponent

/-- The number of the format nearest to `digits * 10 ^ exponent`. Exponents outside of any format's
range are decided without computing the power. -/
def Format.ofDecimal (f : Format) (negative : Bool) (digits : Nat) (exponent : Int) : Binary :=
  let magnitude := exponent + (Nat.toDigits 10 digits).length
  if digits = 0 ∨ magnitude < -400 then .finite negative 0 f.minExponent
  else if 400 < magnitude then .infinity negative
  else
    let (n, d) := scaled 10 digits 1 exponent
    f.round negative n d

end CqlOperations.Number
