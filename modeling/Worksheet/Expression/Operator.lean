namespace Worksheet

inductive Operator where
  | add
  | subtract
  | multiply
  | divide
deriving DecidableEq, Repr

inductive Associativity where
  | left
  | right
deriving DecidableEq, Repr

namespace Operator

def symbol : Operator → Char
  | add => '+'
  | subtract => '-'
  | multiply => '*'
  | divide => '/'

def ofSymbol? : Char → Option Operator
  | '+' => some add
  | '-' => some subtract
  | '*' => some multiply
  | '/' => some divide
  | _ => none

def precedence : Operator → Nat
  | add | subtract => 12
  | multiply | divide => 13

def associativity : Operator → Associativity
  | _ => .left

def apply : Operator → Float → Float → Float
  | add, x, y => x + y
  | subtract, x, y => x - y
  | multiply, x, y => x * y
  | divide, x, y => x / y

def samePrecedence (a b : Char) : Bool :=
  match ofSymbol? a, ofSymbol? b with
  | some p, some q => p.precedence == q.precedence
  | _, _ => false

def isAppliedBefore (top incoming : Operator) : Bool :=
  incoming.precedence < top.precedence ||
    (top.precedence == incoming.precedence && incoming.associativity == .left)

theorem ofSymbol?_symbol (op : Operator) : ofSymbol? op.symbol = some op := by
  cases op <;> rfl

end Operator

end Worksheet
