import Worksheet.Sheet.Evaluation

namespace Worksheet.Sheet

structure Recomputed where
  sheet : Sheet
  changed : Bool
  error : Option SheetError

def recompute (sheet : Sheet) (address : Address) : Recomputed :=
  match sheet.cell? address with
  | none => ⟨sheet, false, none⟩
  | some cell =>
    let reading := sheet.read cell.text
    let rewired :=
      { sheet with graph := sheet.graph.setPrecedents address reading.precedents }
    if cell.value = reading.value then ⟨rewired, false, reading.error⟩
    else ⟨rewired.writeValue address reading.value, true, reading.error⟩

def propagateStep (state : Sheet × AddressSet) (address : Address) : Sheet × AddressSet :=
  if (state.1.precedents address).any state.2.contains then
    let recomputed := state.1.recompute address
    (recomputed.sheet,
      if recomputed.changed then state.2.insert address else state.2)
  else state

def propagate (sheet : Sheet) (origin : Address) (order : List Address) : Sheet :=
  (order.foldl propagateStep (sheet, (∅ : AddressSet).insert origin)).1

end Worksheet.Sheet
