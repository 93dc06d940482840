import Worksheet.Proofs.History.Coherence

namespace Worksheet

namespace Unguarded

open Sheet

def entry (sheet : Sheet) (address : Address) : Option Cell := sheet.cells[sheet.index address]?

def write (sheet : Sheet) (address : Address) (property : Property) (f : Cell → Cell) :
    Option Sheet :=
  if sheet.index address < sheet.cells.size then
    let cells := sheet.cells.modify (sheet.index address) f
    some ({ sheet with cells }.emit address property)
  else none

def afterByte : List Char → Option (List Char)
  | [] => none
  | c :: rest => if c.utf8Size = 1 then some rest else none

def bindReference (sheet : Sheet) (formula : Formula) (reference : String × Address) :
    Option Formula := do
  let cell ← entry sheet reference.2
  match numericValue? cell.value with
  | some value => some (formula.bind reference.1 value)
  | none => some formula

def readFormula (sheet : Sheet) (formula : Formula) : Option Reading :=
  match sheet.references formula with
  | .error error => some (.rejected error)
  | .ok references => do
    let bound ← references.foldlM (bindReference sheet) formula
    match bound.evaluate with
    | .ok value => some ⟨some (Decimal.format value), references.map Prod.snd, none⟩
    | .error _ => some ⟨some refError, references.map Prod.snd, none⟩

def readName (sheet : Sheet) (body : String) (parseError : ExpressionError) : Option Reading :=
  match Address.parse body with
  | .error _ => some (.rejected (.expression parseError))
  | .ok _ =>
    match sheet.resolve body with
    | .error error => some (.rejected error)
    | .ok address => do
      let cell ← entry sheet address
      some ⟨some (cell.value.getD refError), [address], none⟩

def read (sheet : Sheet) (text : String) : Option Reading :=
  match Content.ofText text with
  | .empty => some ⟨none, [], none⟩
  | .literal text => some ⟨some text, [], none⟩
  | .formula _ => do
    let rest ← afterByte (Text.withoutBlanks text.toList)
    let body := String.ofList rest
    match Formula.parse body with
    | .ok formula => readFormula sheet formula
    | .error parseError => readName sheet body parseError

def recompute (sheet : Sheet) (address : Address) : Option Recomputed := do
  let cell ← entry sheet address
  let reading ← read sheet cell.text
  let rewired := { sheet with graph := sheet.graph.setPrecedents address reading.precedents }
  if cell.value = reading.value then some ⟨rewired, false, reading.error⟩
  else
    let written ← write rewired address .value fun cell => { cell with value := reading.value }
    some ⟨written, true, reading.error⟩

def propagateStep (state : Sheet × AddressSet) (address : Address) :
    Option (Sheet × AddressSet) :=
  if (state.1.precedents address).any state.2.contains then do
    let recomputed ← recompute state.1 address
    some (recomputed.sheet, if recomputed.changed then state.2.insert address else state.2)
  else some state

def propagate (sheet : Sheet) (origin : Address) (order : List Address) : Option Sheet := do
  let state ← order.foldlM propagateStep (sheet, (∅ : AddressSet).insert origin)
  some state.1

def setText (sheet : Sheet) (enumeration : Graph.Enumeration) (address : Address) (text : String) :
    Option (Outcome Unit) :=
  if sheet.contains address then do
    let cell ← entry sheet address
    if cell.text = text then some ⟨sheet, .ok ()⟩
    else
      let written ← write sheet address .text fun cell => { cell with text }
      let recomputed ← recompute written address
      let settled ←
        if recomputed.changed then
          propagate recomputed.sheet address (enumeration.order recomputed.sheet.graph address)
        else some recomputed.sheet
      match recomputed.error with
      | none => some ⟨settled, .ok ()⟩
      | some error => some ⟨settled, .error error⟩
  else some ⟨sheet, .error (.outOfBounds address)⟩

def paint (color : Color) (sheet : Sheet) (address : Address) : Option Sheet := do
  let cell ← entry sheet address
  if cell.color = color then some sheet
  else write sheet address .color fun cell => { cell with color }

def setColors (sheet : Sheet) (cells : List Address) (color : Color) : Option (Outcome Unit) :=
  match sheet.firstOutside? cells with
  | some outside => some ⟨sheet, .error (.outOfBounds outside)⟩
  | none => do
    let painted ← cells.foldlM (paint color) sheet
    some ⟨painted, .ok ()⟩

def cell (sheet : Sheet) (address : Address) : Option (Option Cell) :=
  if sheet.contains address then do
    let cell ← entry sheet address
    some (some cell)
  else some none

def inverse (command : Command) (sheet : Sheet) : Option (Except SheetError Command) :=
  match command with
  | .text address _ => do
    match ← cell sheet address with
    | some cell => some (.ok (.text address cell.text))
    | none => some (.error (.outOfBounds address))
  | .color [] painted => some (.ok (.color [] painted))
  | .color (first :: rest) _ => do
    match ← cell sheet first with
    | some cell => some (.ok (.color (first :: rest) cell.color))
    | none => some (.error (.outOfBounds first))

def execute (command : Command) (enumeration : Graph.Enumeration) (sheet : Sheet) :
    Option (Outcome Unit) :=
  match command with
  | .text address entered => setText sheet enumeration address entered
  | .color cells painted => setColors sheet cells painted

def setColor (sheet : Sheet) (address : Address) (color : Color) : Option (Outcome Unit) :=
  if sheet.contains address then do
    let painted ← paint color sheet address
    some ⟨painted, .ok ()⟩
  else some ⟨sheet, .error (.outOfBounds address)⟩

def editText (sheet : Sheet) (enumeration : Graph.Enumeration) (address : Address)
    (text : String) : Option (Outcome Unit) := do
  match ← cell sheet address with
  | none => some ⟨sheet, .error (.outOfBounds address)⟩
  | some cell =>
    if cell.text = text then some ⟨sheet, .ok ()⟩
    else
      let history := sheet.history.record (.text address cell.text)
      setText { sheet with history } enumeration address text

def editColor (sheet : Sheet) (cells : List Address) (color : Color) : Option (Outcome Unit) := do
  let found ← cells.mapM (cell sheet)
  match sheet.firstOutside? cells with
  | some outside => some ⟨sheet, .error (.outOfBounds outside)⟩
  | none =>
    match (found.filterMap id).map Cell.color with
    | [] => some ⟨sheet, .ok ()⟩
    | first :: rest =>
      if (first :: rest).all (· = color) then some ⟨sheet, .ok ()⟩
      else setColors { sheet with history := sheet.history.record (.color cells first) } cells color

def undo (sheet : Sheet) (enumeration : Graph.Enumeration) : Option (Outcome Nat) :=
  match sheet.history.popUndo with
  | (none, _) => some ⟨sheet, .ok 0⟩
  | (some command, history) => do
    match ← inverse command sheet with
    | .error error => some ⟨{ sheet with history }, .error error⟩
    | .ok inverse =>
      let outcome ← execute command enumeration { sheet with history := history.pushRedo inverse }
      some ⟨outcome.sheet, outcome.result.map fun _ => outcome.sheet.history.undoCount⟩

def redo (sheet : Sheet) (enumeration : Graph.Enumeration) : Option (Outcome Nat) :=
  match sheet.history.popRedo with
  | (none, _) => some ⟨sheet, .ok 0⟩
  | (some command, history) => do
    match ← inverse command sheet with
    | .error error => some ⟨{ sheet with history }, .error error⟩
    | .ok inverse =>
      let outcome ← execute command enumeration { sheet with history := history.pushUndo inverse }
      some ⟨outcome.sheet, outcome.result.map fun _ => outcome.sheet.history.redoCount⟩

def perform (operation : Operation) (enumeration : Graph.Enumeration) (sheet : Sheet) :
    Option (Outcome (Option Nat)) :=
  match operation with
  | .setText cell text => (setText sheet enumeration cell text).map Outcome.silent
  | .setColor cell color => (setColor sheet cell color).map Outcome.silent
  | .setColors cells color => (setColors sheet cells color).map Outcome.silent
  | .editText cell text => (editText sheet enumeration cell text).map Outcome.silent
  | .editColor cells color => (editColor sheet cells color).map Outcome.silent
  | .undo => (undo sheet enumeration).map Outcome.counted
  | .redo => (redo sheet enumeration).map Outcome.counted
  | .pushUndo command => some (sheet.pushUndo command).silent
  | .pushRedo command => some (sheet.pushRedo command).silent
  | .execute command => (execute command enumeration sheet).map Outcome.silent

def next (step : Step) (sheet : Sheet) : Option Sheet :=
  match step with
  | .perform enumeration operation => (perform operation enumeration sheet).map Outcome.sheet
  | .takeEvents => some sheet.takeEvents.2

def run (steps : List Step) (sheet : Sheet) : Option Sheet :=
  steps.foldlM (fun sheet step => next step sheet) sheet

end Unguarded

end Worksheet
