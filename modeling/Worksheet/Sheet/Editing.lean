import Worksheet.Sheet.Change

namespace Worksheet

namespace Command

def checkBounds (command : Command) (sheet : Sheet) : Except SheetError Unit :=
  match sheet.firstOutside? command.cells with
  | some outside => .error (.outOfBounds outside)
  | none => .ok ()

def executeBy (command : Command) (enumeration : Graph.Enumeration) (sheet : Sheet) :
    Outcome Unit :=
  match command with
  | .text cell entered => sheet.setTextBy enumeration cell entered
  | .color cells painted => sheet.setColors cells painted

def execute (command : Command) (sheet : Sheet) : Outcome Unit := command.executeBy .sorted sheet

/-- The command that restores what this one would replace; a batch goes back to one color. -/
def inverse (command : Command) (sheet : Sheet) : Except SheetError Command :=
  match command with
  | .text address _ =>
    match sheet.cell? address with
    | some cell => .ok (.text address cell.text)
    | none => .error (.outOfBounds address)
  | .color [] painted => .ok (.color [] painted)
  | .color (first :: rest) _ =>
    match sheet.cell? first with
    | some cell => .ok (.color (first :: rest) cell.color)
    | none => .error (.outOfBounds first)

end Command

namespace Sheet

def undoBy (sheet : Sheet) (enumeration : Graph.Enumeration) : Outcome Nat :=
  match sheet.history.popUndo with
  | (none, _) => ⟨sheet, .ok 0⟩
  | (some command, history) =>
    match command.inverse sheet with
    | .error error => ⟨{ sheet with history }, .error error⟩
    | .ok inverse =>
      let outcome := command.executeBy enumeration { sheet with history := history.pushRedo inverse }
      ⟨outcome.sheet, outcome.result.map fun _ => outcome.sheet.history.undoCount⟩

def undo (sheet : Sheet) : Outcome Nat := sheet.undoBy .sorted

def redoBy (sheet : Sheet) (enumeration : Graph.Enumeration) : Outcome Nat :=
  match sheet.history.popRedo with
  | (none, _) => ⟨sheet, .ok 0⟩
  | (some command, history) =>
    match command.inverse sheet with
    | .error error => ⟨{ sheet with history }, .error error⟩
    | .ok inverse =>
      let outcome := command.executeBy enumeration { sheet with history := history.pushUndo inverse }
      ⟨outcome.sheet, outcome.result.map fun _ => outcome.sheet.history.redoCount⟩

def redo (sheet : Sheet) : Outcome Nat := sheet.redoBy .sorted

def editTextBy (sheet : Sheet) (enumeration : Graph.Enumeration) (address : Address)
    (text : String) : Outcome Unit :=
  match sheet.cell? address with
  | none => ⟨sheet, .error (.outOfBounds address)⟩
  | some cell =>
    if cell.text = text then ⟨sheet, .ok ()⟩
    else
      { sheet with history := sheet.history.record (.text address cell.text) }.setTextBy
        enumeration address text

def editText (sheet : Sheet) (address : Address) (text : String) : Outcome Unit :=
  sheet.editTextBy .sorted address text

def editColor (sheet : Sheet) (cells : List Address) (color : Color) : Outcome Unit :=
  match sheet.firstOutside? cells with
  | some outside => ⟨sheet, .error (.outOfBounds outside)⟩
  | none =>
    match (cells.filterMap sheet.cell?).map Cell.color with
    | [] => ⟨sheet, .ok ()⟩
    | first :: rest =>
      if (first :: rest).all (· = color) then ⟨sheet, .ok ()⟩
      else
        { sheet with history := sheet.history.record (.color cells first) }.setColors cells color

def pushUndo (sheet : Sheet) (command : Command) : Outcome Unit :=
  match command.checkBounds sheet with
  | .error error => ⟨sheet, .error error⟩
  | .ok () => ⟨{ sheet with history := sheet.history.pushUndo command }, .ok ()⟩

def pushRedo (sheet : Sheet) (command : Command) : Outcome Unit :=
  match command.checkBounds sheet with
  | .error error => ⟨sheet, .error error⟩
  | .ok () => ⟨{ sheet with history := sheet.history.pushRedo command }, .ok ()⟩

end Sheet

end Worksheet
