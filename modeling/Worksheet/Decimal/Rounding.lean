/-!
The finite 64-bit floats as multiples of the least positive one, 2^-1074, and the rounding of a
quotient of natural numbers to the nearest of them. A magnitude is the bit pattern of a float
without its sign.
-/

namespace Worksheet.Decimal

def unit : Nat := Nat.pow 2 1074

def infinite : Nat := 2047 * Nat.pow 2 52

/-- The finite magnitude `m` is the float `units m / unit`. -/
def units (magnitude : Nat) : Nat :=
  let exponent := magnitude / Nat.pow 2 52
  let fraction := magnitude % Nat.pow 2 52
  if exponent = 0 then fraction else (Nat.pow 2 52 + fraction) * Nat.pow 2 (exponent - 1)

def nearest (numerator denominator : Nat) : Nat :=
  let quotient := numerator / denominator
  match compare (2 * (numerator % denominator)) denominator with
  | .lt => quotient
  | .eq => quotient + quotient % 2
  | .gt => quotient + 1

/--
The magnitude nearest to a quotient. The quotient is measured in units and cut to 53 bits; a carry
out of the rounded bits moves into the exponent by itself.
-/
def ofQuotient (numerator denominator : Nat) : Nat :=
  let scaled := numerator * unit
  let shift := (scaled / denominator).log2 - 52
  min (shift * Nat.pow 2 52 + nearest scaled (denominator * Nat.pow 2 shift)) infinite

def ofScientific (significand : Nat) (exponent : Int) : Nat :=
  ofQuotient (significand * Nat.pow 10 exponent.toNat) (Nat.pow 10 (-exponent).toNat)

def magnitude (x : Float) : Nat := x.toBits.toNat % Nat.pow 2 63

def isNegative (x : Float) : Bool := Nat.pow 2 63 ≤ x.toBits.toNat

def float (negative : Bool) (magnitude : Nat) : Float :=
  Float.ofBits (UInt64.ofNat (magnitude + if negative then Nat.pow 2 63 else 0))

def zero : Float := float false 0

theorem zero_eq : zero = 0 := by decide +kernel

end Worksheet.Decimal
