import Worksheet.Decimal.Shortest

namespace Worksheet.Decimal

def dropTrailingZeros (digits : List Char) : List Char :=
  (digits.reverse.dropWhile (· = '0')).reverse

def paddedDigits (width n : Nat) : List Char :=
  let digits := Nat.toDigits 10 n
  List.replicate (width - digits.length) '0' ++ digits

def positional (significand : Nat) (exponent : Int) : List Char :=
  let numerator := significand * Nat.pow 10 exponent.toNat
  let places := (-exponent).toNat
  let whole := Nat.toDigits 10 (numerator / Nat.pow 10 places)
  match dropTrailingZeros (paddedDigits places (numerator % Nat.pow 10 places)) with
  | [] => whole
  | fraction => whole ++ '.' :: fraction

def showMagnitude (magnitude : Nat) : List Char :=
  if infinite < magnitude then "NaN".toList
  else if magnitude = infinite then "inf".toList
  else if magnitude = 0 then ['0']
  else positional (shortest magnitude).1 (shortest magnitude).2

def sign (negative : Bool) : List Char := if negative then ['-'] else []

def showFloat (x : Float) : String :=
  String.ofList
    (sign (isNegative x && decide (magnitude x ≤ infinite)) ++ showMagnitude (magnitude x))

def smallInteger? (magnitude : Nat) : Option Nat :=
  let whole := units magnitude / unit
  let isInteger := magnitude < infinite ∧ units magnitude % unit = 0
  if isInteger ∧ whole < Nat.pow 10 15 then some whole else none

/--
The text of a computed number: an integer below 10^15 in digits, so that a negative zero has no
sign; anything else as by `showFloat`.
-/
def format (x : Float) : String :=
  match smallInteger? (magnitude x) with
  | some whole => String.ofList (sign (isNegative x && whole != 0) ++ Nat.toDigits 10 whole)
  | none => showFloat x

end Worksheet.Decimal
