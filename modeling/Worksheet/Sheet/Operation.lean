import Worksheet.Sheet.Editing

namespace Worksheet

inductive Operation where
  | setText (cell : Address) (text : String)
  | setColor (cell : Address) (color : Color)
  | setColors (cells : List Address) (color : Color)
  | editText (cell : Address) (text : String)
  | editColor (cells : List Address) (color : Color)
  | undo
  | redo
  | pushUndo (command : Command)
  | pushRedo (command : Command)
  | execute (command : Command)
deriving DecidableEq, Repr

namespace Outcome

def silent (outcome : Outcome Unit) : Outcome (Option Nat) :=
  ⟨outcome.sheet, outcome.result.map fun _ => none⟩

def counted (outcome : Outcome Nat) : Outcome (Option Nat) :=
  ⟨outcome.sheet, outcome.result.map some⟩

end Outcome

namespace Operation

def performBy (operation : Operation) (enumeration : Graph.Enumeration) (sheet : Sheet) :
    Outcome (Option Nat) :=
  match operation with
  | setText cell text => (sheet.setTextBy enumeration cell text).silent
  | setColor cell color => (sheet.setColor cell color).silent
  | setColors cells color => (sheet.setColors cells color).silent
  | editText cell text => (sheet.editTextBy enumeration cell text).silent
  | editColor cells color => (sheet.editColor cells color).silent
  | undo => (sheet.undoBy enumeration).counted
  | redo => (sheet.redoBy enumeration).counted
  | pushUndo command => (sheet.pushUndo command).silent
  | pushRedo command => (sheet.pushRedo command).silent
  | execute command => (command.executeBy enumeration sheet).silent

def perform (operation : Operation) (sheet : Sheet) : Outcome (Option Nat) :=
  operation.performBy .sorted sheet

def runBy (steps : List (Graph.Enumeration × Operation)) (sheet : Sheet) : Sheet :=
  steps.foldl (fun sheet step => (step.2.performBy step.1 sheet).sheet) sheet

def run (operations : List Operation) (sheet : Sheet) : Sheet :=
  runBy (operations.map fun operation => (.sorted, operation)) sheet

end Operation

end Worksheet
