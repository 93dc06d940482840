import Worksheet.Expression.Token
import Worksheet.Expression.Tree

/-!
Postfix order: each operator follows its two operands. Operators wait on a stack until one comes
that is applied later, or until the parentheses around them close.
-/

namespace Worksheet

inductive PostfixItem where
  | operand (node : Expr)
  | operator (op : Operator)
deriving DecidableEq

namespace PostfixItem

inductive Pending where
  | opening
  | operator (op : Operator)
deriving DecidableEq, Repr

/-- The waiting operators and parentheses, last first, and the items so far, last first. -/
structure State where
  pending : List Pending
  items : List PostfixItem
deriving DecidableEq

def release (op : Operator) : List Pending → List PostfixItem → State
  | .operator top :: pending, items =>
    if top.isAppliedBefore op then release op pending (.operator top :: items)
    else ⟨.operator top :: pending, items⟩
  | pending, items => ⟨pending, items⟩

def close? : List Pending → List PostfixItem → Option State
  | [], _ => none
  | .opening :: pending, items => some ⟨pending, items⟩
  | .operator top :: pending, items => close? pending (.operator top :: items)

def step (expression : String) (state : State) : Token → Except ExpressionError State
  | .operand text => do
    let operand ← Operand.classify text
    return ⟨state.pending, .operand (.ofOperand operand) :: state.items⟩
  | .operator op =>
    let released := release op state.pending state.items
    .ok ⟨.operator op :: released.pending, released.items⟩
  | .opening => .ok ⟨.opening :: state.pending, state.items⟩
  | .closing =>
    match close? state.pending state.items with
    | some closed => .ok closed
    | none => .error (.unbalanced expression .closing)

def finish (expression : String) :
    List Pending → List PostfixItem → Except ExpressionError (List PostfixItem)
  | [], items => .ok items.reverse
  | .opening :: _, _ => .error (.unbalanced expression .opening)
  | .operator top :: pending, items => finish expression pending (.operator top :: items)

def ofTokens (expression : String) (tokens : List Token) :
    Except ExpressionError (List PostfixItem) := do
  let state ← tokens.foldlM (step expression) ⟨[], []⟩
  finish expression state.pending state.items

def ofExpression (expression : String) : Except ExpressionError (List PostfixItem) :=
  let tokens := Token.scan expression.toList
  if tokens.any Token.isOperator then ofTokens expression tokens
  else .error (.noOperator expression)

end PostfixItem

end Worksheet
