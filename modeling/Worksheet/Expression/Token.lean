import Worksheet.Expression.Error
import Worksheet.Expression.Operator

namespace Worksheet

inductive Token where
  | operand (text : List Char)
  | operator (op : Operator)
  | opening
  | closing
deriving DecidableEq, Repr

namespace Token

def ofChar? : Char → Option Token
  | '(' => some .opening
  | ')' => some .closing
  | c => (Operator.ofSymbol? c).map .operator

def scanChar (c : Char) (tokens : List Token) : List Token :=
  match ofChar? c, tokens with
  | some token, tokens => token :: tokens
  | none, .operand text :: rest => .operand (c :: text) :: rest
  | none, tokens => .operand [c] :: tokens

def scan (text : List Char) : List Token := text.foldr scanChar []

def isOperator : Token → Bool
  | .operator _ => true
  | _ => false

end Token

end Worksheet
