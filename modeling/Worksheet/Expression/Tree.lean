import Worksheet.Decimal.Layout
import Worksheet.Expression.Operand
import Worksheet.Expression.Operator

namespace Worksheet

inductive Expr where
  | number (value : Float)
  | variable (name : String) (value : Option Float)
  | binary (op : Operator) (left right : Expr)
deriving DecidableEq

namespace Expr

def maxDepth : Nat := 512

def ofOperand : Operand → Expr
  | .number value => .number value
  | .variable name => .variable name none

def depth : Expr → Nat
  | .number _ | .variable _ _ => 0
  | .binary _ left right => max left.depth right.depth + 1

def names : Expr → List String
  | .number _ => []
  | .variable name _ => [name]
  | .binary _ left right => left.names ++ right.names

def shown : Expr → String
  | .number value => Decimal.showFloat value
  | .variable name _ => name
  | .binary op left right =>
    "(" ++ left.shown ++ " " ++ op.symbol.toString ++ " " ++ right.shown ++ ")"

def evaluate : Expr → Except String Float
  | .number value => .ok value
  | .variable _ (some value) => .ok value
  | .variable name none => .error name
  | .binary op left right => do
    let x ← left.evaluate
    let y ← right.evaluate
    return op.apply x y

def bind (name : String) (value : Float) : Expr → Expr
  | .number x => .number x
  | .variable other old => .variable other (if other = name then some value else old)
  | .binary op left right => .binary op (left.bind name value) (right.bind name value)

def occurrences (name : String) : Expr → Nat
  | .number _ => 0
  | .variable other _ => if other = name then 1 else 0
  | .binary _ left right => left.occurrences name + right.occurrences name

end Expr

end Worksheet
