import Worksheet.Decimal.Rounding

namespace Worksheet.Decimal

def digits? (text : List Char) : Option Nat :=
  if ! text.isEmpty && text.all Char.isDigit then some (Nat.ofDigitChars 10 text 0) else none

def exponent? : List Char → Option Int
  | [] => some 0
  | mark :: text =>
    if mark = 'e' ∨ mark = 'E' then
      match text with
      | '-' :: digits => (digits? digits).map fun n => - (n : Int)
      | '+' :: digits => (digits? digits).map Int.ofNat
      | digits => (digits? digits).map Int.ofNat
    else none

def splitFraction : List Char → List Char × List Char
  | '.' :: text => (text.takeWhile Char.isDigit, text.dropWhile Char.isDigit)
  | text => ([], text)

def scientific? (text : List Char) : Option (Nat × Int) :=
  let whole := text.takeWhile Char.isDigit
  let (fraction, rest) := splitFraction (text.dropWhile Char.isDigit)
  match digits? (whole ++ fraction), exponent? rest with
  | some significand, some exponent => some (significand, exponent - fraction.length)
  | _, _ => none

/--
Powers of ten far beyond the range of floats are not computed: every positive number from 10^400 on
is infinite, and every one below 10^-400 is zero.
-/
def roundScientific (significand : Nat) (exponent : Int) : Nat :=
  if significand = 0 then 0
  else if 400 < exponent then infinite
  else if exponent < - (400 + significand.log2 : Int) then 0
  else ofScientific significand exponent

def magnitude? (text : List Char) : Option Nat :=
  let word := text.map Char.toLower
  if word = "inf".toList ∨ word = "infinity".toList then some infinite
  else if word = "nan".toList then some (infinite + Nat.pow 2 51)
  else (scientific? text).map fun parts => roundScientific parts.1 parts.2

def ofChars? : List Char → Option Float
  | '-' :: text => (magnitude? text).map (float true)
  | '+' :: text => (magnitude? text).map (float false)
  | text => (magnitude? text).map (float false)

def ofText? (text : String) : Option Float := ofChars? text.toList

end Worksheet.Decimal
