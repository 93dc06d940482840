import Worksheet.Graph.Walk
import Worksheet.History.Basic
import Worksheet.Sheet.Cell
import Worksheet.Sheet.Error

namespace Worksheet

structure Sheet where
  rows : Nat
  columns : Nat
  cells : Array Cell
  graph : Graph
  events : Array Event
  history : History
deriving DecidableEq

/-- The sheet after an operation, which may have changed it although it failed. -/
structure Outcome (α : Type) where
  sheet : Sheet
  result : Except SheetError α

structure Options where
  rows : Nat
  columns : Nat
  historyLimit : Option Nat
deriving DecidableEq, Repr

namespace Options

def standard : Options := ⟨50, 26, none⟩

def clamped (options : Options) : Options :=
  ⟨min options.rows Address.maxRows, min options.columns Address.maxCols, options.historyLimit⟩

end Options

namespace Sheet

def blankCells (rows columns : Nat) : Array Cell :=
  Array.ofFn fun i : Fin (rows * columns) => Cell.blank ⟨i / columns, i % columns⟩

def fresh (options : Options) : Sheet where
  rows := options.clamped.rows
  columns := options.clamped.columns
  cells := blankCells options.clamped.rows options.clamped.columns
  graph := Graph.empty
  events := #[]
  history := History.empty options.historyLimit

def contains (sheet : Sheet) (address : Address) : Bool :=
  address.row < sheet.rows && address.col < sheet.columns

def index (sheet : Sheet) (address : Address) : Nat := address.row * sheet.columns + address.col

def cell? (sheet : Sheet) (address : Address) : Option Cell :=
  if sheet.contains address then sheet.cells[sheet.index address]? else none

def cellByName (sheet : Sheet) (name : String) : Except SheetError Cell :=
  match Address.parse name with
  | .error cause => .error (.address cause)
  | .ok address =>
    match sheet.cell? address with
    | some cell => .ok cell
    | none => .error (.outOfBounds address)

def written (sheet : Sheet) : List Cell := sheet.cells.toList.filter fun cell => ! cell.isEmpty

def value? (sheet : Sheet) (address : Address) : Option String :=
  (sheet.cell? address).bind Cell.value

def precedents (sheet : Sheet) (address : Address) : List Address := sheet.graph.precedents address

def dependents (sheet : Sheet) (address : Address) : List Address := sheet.graph.dependents address

def isCircular (sheet : Sheet) (address : Address) : Bool := sheet.graph.isCircular address

def firstOutside? (sheet : Sheet) (cells : List Address) : Option Address :=
  cells.find? fun address => ! sheet.contains address

def modifyCell (sheet : Sheet) (address : Address) (f : Cell → Cell) : Sheet :=
  if sheet.contains address then
    { sheet with cells := sheet.cells.modify (sheet.index address) f }
  else sheet

def emit (sheet : Sheet) (address : Address) (property : Property) : Sheet :=
  { sheet with events := sheet.events.push ⟨address, property⟩ }

def writeText (sheet : Sheet) (address : Address) (text : String) : Sheet :=
  (sheet.modifyCell address fun cell => { cell with text }).emit address .text

def writeValue (sheet : Sheet) (address : Address) (value : Option String) : Sheet :=
  (sheet.modifyCell address fun cell => { cell with value }).emit address .value

def writeColor (sheet : Sheet) (address : Address) (color : Color) : Sheet :=
  (sheet.modifyCell address fun cell => { cell with color }).emit address .color

def takeEvents (sheet : Sheet) : List Event × Sheet :=
  (sheet.events.toList, { sheet with events := #[] })

end Sheet

end Worksheet
