/-! Durations, exact to the nanosecond. -/
namespace CqlOperations

structure Duration where
  nanoseconds : Nat
deriving DecidableEq

namespace Duration

def ofParts (seconds nanoseconds : Nat) : Duration :=
  ⟨seconds * 1000000000 + nanoseconds⟩

def seconds (d : Duration) : Nat :=
  d.nanoseconds / 1000000000

def subsecond (d : Duration) : Nat :=
  d.nanoseconds % 1000000000

/-- Whole milliseconds, the rest dropped. -/
def milliseconds (d : Duration) : Nat :=
  d.nanoseconds / 1000000

/-- Whole milliseconds, the rest counted as one more. -/
def ceilMilliseconds (d : Duration) : Nat :=
  (d.nanoseconds + 999999) / 1000000

/-- The digits of `n` after a point, `width` of them, without the zeros at the end. -/
def fraction (width n : Nat) : String :=
  let digits := (Nat.toDigits 10 n)
  let padded := List.replicate (width - digits.length) '0' ++ digits
  let kept := (padded.reverse.dropWhile (· == '0')).reverse
  if kept.isEmpty then "" else "." ++ String.ofList kept

/-- The largest unit of which there is at least one, with an exact fraction. -/
def text (d : Duration) : String :=
  let n := d.nanoseconds
  if 1000000000 ≤ n then toString (n / 1000000000) ++ fraction 9 (n % 1000000000) ++ "s"
  else if 1000000 ≤ n then toString (n / 1000000) ++ fraction 6 (n % 1000000) ++ "ms"
  else if 1000 ≤ n then toString (n / 1000) ++ fraction 3 (n % 1000) ++ "µs"
  else toString n ++ "ns"

end Duration
end CqlOperations
