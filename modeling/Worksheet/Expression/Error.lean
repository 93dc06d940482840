namespace Worksheet

inductive Parenthesis where
  | opening
  | closing
deriving DecidableEq, Repr

inductive ExpressionError where
  | noOperator (expression : String)
  | unbalanced (expression : String) (excess : Parenthesis)
  | invalidName (name : String)
  | malformed (expression : String)
  | tooDeep (expression : String) (limit : Nat)
  | unknownVariable (name : String)
  | unsetVariable (name : String)
deriving DecidableEq, Repr

namespace Parenthesis

def excessMessage : Parenthesis → String
  | opening => "more '(' than ')'"
  | closing => "more ')' than '('"

end Parenthesis

namespace ExpressionError

def quoted (text : String) : String := "\"" ++ text ++ "\""

def message : ExpressionError → String
  | noOperator expression =>
    "the expression " ++ quoted expression ++ " does not contain a valid operator"
  | unbalanced expression excess =>
    "the expression " ++ quoted expression ++ " has " ++ excess.excessMessage
      ++ " and is therefore invalid"
  | invalidName name => "the variable " ++ quoted name ++ " is of the wrong format"
  | malformed expression =>
    "the expression " ++ quoted expression
      ++ " is malformed: operators and operands do not pair up"
  | tooDeep expression limit =>
    "the expression " ++ quoted expression ++ " nests operators deeper than " ++ toString limit
      ++ " levels"
  | unknownVariable name =>
    "the variable " ++ quoted name ++ " does not exist in the current expression"
  | unsetVariable name => "the variable " ++ quoted name ++ " is not instantiated"

end ExpressionError

end Worksheet
