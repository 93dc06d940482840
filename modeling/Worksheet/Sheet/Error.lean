import Worksheet.Address.Name
import Worksheet.Expression.Error

namespace Worksheet

inductive SheetError where
  | expression (cause : ExpressionError)
  | address (cause : AddressError)
  | unresolvable (name : String)
  | outOfBounds (cell : Address)
deriving DecidableEq, Repr

namespace SheetError

def message : SheetError → String
  | expression cause => cause.message
  | address cause => cause.message
  | unresolvable name => "cell reference \"" ++ name ++ "\" does not exist in this sheet"
  | outOfBounds cell =>
    "cell (" ++ toString cell.row ++ ", " ++ toString cell.col ++ ") is outside the sheet"

/-- Whether the text that caused the error was entered all the same. -/
def isCommitted : SheetError → Bool
  | expression _ | unresolvable _ => true
  | address _ | outOfBounds _ => false

end SheetError

end Worksheet
