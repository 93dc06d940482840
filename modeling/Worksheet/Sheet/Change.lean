import Worksheet.Sheet.Recalculation

namespace Worksheet.Sheet

/--
Enters a text. A formula that is rejected is entered too; its value says so, and the error tells
why.
-/
def setTextBy (sheet : Sheet) (enumeration : Graph.Enumeration) (address : Address)
    (text : String) : Outcome Unit :=
  match sheet.cell? address with
  | none => ⟨sheet, .error (.outOfBounds address)⟩
  | some cell =>
    if cell.text = text then ⟨sheet, .ok ()⟩
    else
      let recomputed := (sheet.writeText address text).recompute address
      let settled :=
        if recomputed.changed then
          recomputed.sheet.propagate address (enumeration.order recomputed.sheet.graph address)
        else recomputed.sheet
      match recomputed.error with
      | none => ⟨settled, .ok ()⟩
      | some error => ⟨settled, .error error⟩

def setText (sheet : Sheet) (address : Address) (text : String) : Outcome Unit :=
  sheet.setTextBy .sorted address text

def paint (color : Color) (sheet : Sheet) (address : Address) : Sheet :=
  match sheet.cell? address with
  | none => sheet
  | some cell => if cell.color = color then sheet else sheet.writeColor address color

def setColor (sheet : Sheet) (address : Address) (color : Color) : Outcome Unit :=
  if sheet.contains address then ⟨sheet.paint color address, .ok ()⟩
  else ⟨sheet, .error (.outOfBounds address)⟩

def setColors (sheet : Sheet) (cells : List Address) (color : Color) : Outcome Unit :=
  match sheet.firstOutside? cells with
  | some outside => ⟨sheet, .error (.outOfBounds outside)⟩
  | none => ⟨cells.foldl (paint color) sheet, .ok ()⟩

end Worksheet.Sheet
