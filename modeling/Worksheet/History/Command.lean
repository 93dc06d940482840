import Worksheet.Address.Basic
import Worksheet.Color

namespace Worksheet

inductive Command where
  | text (cell : Address) (text : String)
  | color (cells : List Address) (color : Color)
deriving DecidableEq, Repr

namespace Command

def cells : Command → List Address
  | text cell _ => [cell]
  | color cells _ => cells

end Command

end Worksheet
