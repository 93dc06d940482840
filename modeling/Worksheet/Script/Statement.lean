import Worksheet.Sheet.Operation

namespace Worksheet

inductive Statement where
  | set (cell : Address) (text : String)
  | color (color : Color) (cells : List Address)
  | undo
  | redo
deriving DecidableEq, Repr

inductive StatementError where
  | missingAddress
  | badAddress (name : String) (cause : AddressError)
  | badColor (text : String) (cause : ColorError)
  | missingCells
  | unknown (line : String)
deriving DecidableEq, Repr

namespace StatementError

def messages : StatementError → List String
  | missingAddress => ["'set' needs a cell address"]
  | badAddress name cause => ["Invalid cell address '" ++ name ++ "'", cause.message]
  | badColor text cause => ["Invalid color '" ++ text ++ "'", cause.message]
  | missingCells => ["'color' needs at least one cell address"]
  | unknown line => ["Unknown statement '" ++ line ++ "'"]

end StatementError

namespace Statement

def readAddress (name : List Char) : Except StatementError Address :=
  (Address.parse (String.ofList name)).mapError (.badAddress (String.ofList name))

def readColor (text : List Char) : Except StatementError Color :=
  (Color.parse (String.ofList text)).mapError (.badColor (String.ofList text))

def parseSet (rest : List Char) : Except StatementError Statement := do
  let (name, text) := Text.splitWord rest
  if name.isEmpty then throw .missingAddress
  return .set (← readAddress name) (String.ofList text)

def parseColor (rest : List Char) : Except StatementError Statement := do
  let (text, names) := Text.splitWord rest
  let color ← readColor text
  let cells ← (Text.words names).mapM readAddress
  if cells.isEmpty then throw .missingCells
  return .color color cells

def parseWords (line : List Char) : Except StatementError Statement :=
  let (keyword, rest) := Text.splitWord line
  if keyword = "set".toList then parseSet rest
  else if keyword = "color".toList then parseColor rest
  else if keyword = "undo".toList ∧ rest.isEmpty then .ok .undo
  else if keyword = "redo".toList ∧ rest.isEmpty then .ok .redo
  else .error (.unknown (String.ofList line))

def parseLine (line : List Char) : Except StatementError (Option Statement) :=
  match Text.trim line with
  | [] | '#' :: _ => .ok none
  | text => (parseWords text).map some

def operation : Statement → Operation
  | set cell text => .editText cell text
  | color painted cells => .editColor cells painted
  | undo => .undo
  | redo => .redo

end Statement

end Worksheet
