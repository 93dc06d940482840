import Worksheet.Decimal.Reading
import Worksheet.Expression.Error
import Worksheet.Text.Character

namespace Worksheet

inductive Operand where
  | number (value : Float)
  | variable (name : String)
deriving DecidableEq

namespace Operand

def isName : List Char → Bool
  | [] => false
  | first :: rest => Text.isLetter first && rest.all fun c => Text.isLetter c || Text.isNumeral c

/-- Names such as `inf` and `NaN` are numerals too, but do not start like a number. -/
def looksNumeric : List Char → Bool
  | [] => false
  | first :: _ => first.isDigit || first == '.'

def number? (text : List Char) : Option Float :=
  if looksNumeric text then Decimal.ofChars? text else none

def classify (text : List Char) : Except ExpressionError Operand :=
  match number? text with
  | some value => .ok (.number value)
  | none =>
    if isName text then .ok (.variable (String.ofList text))
    else .error (.invalidName (String.ofList text))

end Operand

end Worksheet
