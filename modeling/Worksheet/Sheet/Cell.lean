import Worksheet.Address.Basic
import Worksheet.Color
import Worksheet.Text.Word

namespace Worksheet

inductive Content where
  | empty
  | literal (text : String)
  | formula (body : List Char)
deriving DecidableEq, Repr

namespace Content

def ofText (text : String) : Content :=
  if text.isEmpty then .empty
  else
    match Text.trimStart text.toList with
    | '=' :: body => .formula (Text.withoutBlanks body)
    | _ => .literal text

end Content

structure Cell where
  address : Address
  text : String
  value : Option String
  color : Color
deriving DecidableEq, Repr

namespace Cell

def blank (address : Address) : Cell := ⟨address, "", none, Color.white⟩

def content (cell : Cell) : Content := Content.ofText cell.text

def isEmpty (cell : Cell) : Bool := cell.text.isEmpty

end Cell

inductive Property where
  | text
  | value
  | color
deriving DecidableEq, Repr

structure Event where
  address : Address
  property : Property
deriving DecidableEq, Repr

end Worksheet
