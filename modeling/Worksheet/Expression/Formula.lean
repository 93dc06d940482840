import Worksheet.Expression.Parse

namespace Worksheet

structure Formula where
  root : Expr
  table : List (String × Option Float)
deriving DecidableEq

namespace Formula

def ofExpr (root : Expr) : Formula := ⟨root, root.names.eraseDups.map fun name => (name, none)⟩

def parse (expression : String) : Except ExpressionError Formula :=
  (Expr.parse expression).map ofExpr

def names (formula : Formula) : List String := formula.table.map Prod.fst

def binding? (formula : Formula) (name : String) : Option (Option Float) :=
  formula.table.lookup name

def isBound (formula : Formula) (name : String) : Bool :=
  formula.binding? name matches some (some _)

def bind (formula : Formula) (name : String) (value : Float) : Formula where
  root := formula.root.bind name value
  table := formula.table.map fun entry =>
    if entry.1 = name then (name, some value) else entry

def setVariable (formula : Formula) (name : String) (value : Float) :
    Except ExpressionError Formula :=
  if name ∈ formula.names then .ok (formula.bind name value) else .error (.unknownVariable name)

def evaluate (formula : Formula) : Except String Float := formula.root.evaluate

def shown (formula : Formula) : String := formula.root.shown

end Formula

end Worksheet
