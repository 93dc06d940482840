import Worksheet.Expression.Postfix

namespace Worksheet.Expr

/-- The stack holds the trees so far, last first, each with the levels of operators counted on it. -/
def assemble (expression : String) :
    List (Expr × Nat) → List PostfixItem → Except ExpressionError Expr
  | [(root, _)], [] => .ok root
  | _, [] => .error (.malformed expression)
  | stack, .operand node :: items => assemble expression ((node, 0) :: stack) items
  | (right, j) :: (left, i) :: stack, .operator op :: items =>
    if maxDepth < max i j + 1 then .error (.tooDeep expression maxDepth)
    else assemble expression ((.binary op left right, max i j + 1) :: stack) items
  | _, .operator _ :: _ => .error (.malformed expression)

def ofPostfix (items : List PostfixItem) (expression : String) : Except ExpressionError Expr :=
  assemble expression [] items

def parse (expression : String) : Except ExpressionError Expr := do
  ofPostfix (← PostfixItem.ofExpression expression) expression

end Worksheet.Expr
