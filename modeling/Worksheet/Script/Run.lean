import Worksheet.Script.Statement

namespace Worksheet.Script

structure Warning where
  line : Nat
  error : SheetError
deriving DecidableEq, Repr

inductive Failure where
  | invalid (line : Nat) (error : StatementError)
  | refused (line : Nat) (error : SheetError)
deriving DecidableEq, Repr

structure Run where
  warnings : List Warning
  result : Except Failure Sheet

namespace Run

def warn (warning : Warning) (run : Run) : Run := ⟨warning :: run.warnings, run.result⟩

end Run

/-- The statement of each line lists the readers of a cell in its own way. -/
def runFrom (enumerations : Nat → Graph.Enumeration) (line : Nat) (sheet : Sheet) :
    List (List Char) → Run
  | [] => ⟨[], .ok sheet⟩
  | text :: rest =>
    match Statement.parseLine text with
    | .error error => ⟨[], .error (.invalid line error)⟩
    | .ok none => runFrom enumerations (line + 1) sheet rest
    | .ok (some statement) =>
      let outcome := statement.operation.performBy (enumerations line) sheet
      match outcome.result with
      | .ok _ => runFrom enumerations (line + 1) outcome.sheet rest
      | .error error =>
        if error.isCommitted then
          (runFrom enumerations (line + 1) outcome.sheet rest).warn ⟨line, error⟩
        else ⟨[], .error (.refused line error)⟩

def runBy (enumerations : Nat → Graph.Enumeration) (options : Options) (source : String) : Run :=
  runFrom enumerations 1 (Sheet.fresh options) (Text.lines source.toList)

def row (cell : Cell) : String :=
  cell.address.name ++ "\t" ++ cell.text ++ "\t" ++ cell.value.getD "" ++ "\n"

def table (sheet : Sheet) : String := String.join (sheet.written.map row)

end Worksheet.Script
