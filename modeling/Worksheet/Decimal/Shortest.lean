import Worksheet.Decimal.Rounding

namespace Worksheet.Decimal

def scale (magnitude : Nat) : Int :=
  let whole := units magnitude / unit
  if whole = 0 then 1 - (Nat.toDigits 10 ((unit - 1) / units magnitude)).length
  else (Nat.toDigits 10 whole).length

def readsBack (magnitude : Nat) (decimal : Nat × Int) : Bool :=
  ofScientific decimal.1 decimal.2 == magnitude

/--
The two multiples of a power of ten around a magnitude, the nearer one first; if both are equally
near, the greater.
-/
def neighbors (magnitude : Nat) (exponent : Int) : List (Nat × Int) :=
  let numerator := units magnitude * Nat.pow 10 (-exponent).toNat
  let denominator := unit * Nat.pow 10 exponent.toNat
  let below := numerator / denominator
  if 2 * (numerator % denominator) < denominator then [(below, exponent), (below + 1, exponent)]
  else [(below + 1, exponent), (below, exponent)]

def expansion (magnitude : Nat) : Nat × Int := (units magnitude * Nat.pow 5 1074, -1074)

def shortest (magnitude : Nat) : Nat × Int :=
  ((List.range 17).findSome? fun n : Nat =>
    (neighbors magnitude (scale magnitude - (n + 1))).find? (readsBack magnitude)).getD
      (expansion magnitude)

end Worksheet.Decimal
