import Worksheet.Address.Basic

/-!
A1 notation: column letters in base 26 without a zero (A = 1, Z = 26, AA = 27), then the row
number, which counts from one. Letters are read in either case and written in upper case.
-/

namespace Worksheet

inductive AddressError where
  | empty
  | noColumn (text : String)
  | noRow (text : String)
  | badRow (text : String)
  | rowZero (text : String)
  | emptyColumn
  | badLetter (letter : Char)
  | rowBeyond (row : Nat)
  | columnBeyond
deriving DecidableEq, Repr

namespace AddressError

/-- Letters beyond the last column are not read to the end; 65535 stands for their index. -/
def message : AddressError → String
  | empty => "Invalid cell address: empty address"
  | noColumn text => "Invalid cell address: no column letters in '" ++ text ++ "'"
  | noRow text => "Invalid cell address: no row number in '" ++ text ++ "'"
  | badRow text => "Invalid cell address: invalid row number in '" ++ text ++ "'"
  | rowZero text => "Invalid cell address: row number must be >= 1 in '" ++ text ++ "'"
  | emptyColumn => "Invalid cell address: empty column letters"
  | badLetter letter => "Invalid cell address: invalid column letter '" ++ letter.toString ++ "'"
  | rowBeyond row =>
    "Row index " ++ toString row ++ " out of bounds (max: " ++ toString (Address.maxRows - 1) ++ ")"
  | columnBeyond =>
    "Column index 65535 out of bounds (max: " ++ toString (Address.maxCols - 1) ++ ")"

end AddressError

namespace Address

def columnLetter (digit : Nat) : Char := Char.ofNat ('A'.toNat + digit)

def letterWorth (letter : Char) : Nat := letter.toUpper.toNat - 'A'.toNat + 1

def columnLetters (number : Nat) : List Char :=
  if number = 0 then []
  else columnLetters ((number - 1) / 26) ++ [columnLetter ((number - 1) % 26)]
  termination_by number

def extendColumn (number : Nat) (letter : Char) : Except AddressError Nat :=
  if letter.isAlpha then
    let extended := number * 26 + letterWorth letter
    if extended ≤ maxCols then .ok extended else .error .columnBeyond
  else .error (.badLetter letter)

def readColumn (letters : List Char) : Except AddressError Nat :=
  if letters.isEmpty then .error .emptyColumn
  else (letters.foldlM extendColumn 0).map (· - 1)

/-- Row numbers from 2^32 on do not fit the number type and count as unreadable. -/
def readRow (text : String) (digits : List Char) : Except AddressError Nat :=
  if digits.isEmpty then .error (.noRow text)
  else if ¬ digits.all Char.isDigit then .error (.badRow text)
  else
    let number := Nat.ofDigitChars 10 digits 0
    if Nat.pow 2 32 ≤ number then .error (.badRow text)
    else if number = 0 then .error (.rowZero text)
    else if maxRows < number then .error (.rowBeyond (number - 1))
    else .ok (number - 1)

def parse (text : String) : Except AddressError Address :=
  let letters := text.toList.takeWhile Char.isAlpha
  let digits := text.toList.dropWhile Char.isAlpha
  if text.isEmpty then .error .empty
  else if letters.isEmpty then .error (.noColumn text)
  else do
    let col ← readColumn letters
    let row ← readRow text digits
    return ⟨row, col⟩

def columnName (col : Nat) : String := String.ofList (columnLetters (col + 1))

def name (address : Address) : String :=
  String.ofList (columnLetters (address.col + 1) ++ Nat.toDigits 10 (address.row + 1))

end Address

end Worksheet
