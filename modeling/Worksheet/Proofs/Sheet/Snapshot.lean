import Worksheet.Proofs.History.Timeline
import Worksheet.Proofs.Sheet.Operation

namespace Worksheet.Sheet

variable {sheet : Sheet} {address : Address} {cells : List Address} {command : Command}
  {enumeration : Graph.Enumeration}

def snapshot (sheet : Sheet) : Snapshot := fun address =>
  (sheet.cell? address).map fun cell => (cell.text, cell.color)

theorem snapshot_eq (sheet : Sheet) (address : Address) :
    sheet.snapshot address =
      (sheet.text? address).bind fun text => (sheet.color? address).map fun color =>
        (text, color) := by
  rw [snapshot, text?, color?]
  cases sheet.cell? address <;> rfl

theorem snapshot_setTextBy (sheet : Sheet) (enumeration : Graph.Enumeration) (address : Address)
    (text : String) :
    (sheet.setTextBy enumeration address text).sheet.snapshot =
      (Command.text address text).applyTo sheet.snapshot := by
  funext other
  rw [snapshot_eq, text?_setTextBy, (sheet.sameInput_setTextBy enumeration address text).color,
    color?_writeText, Command.applyTo, snapshot, text?, color?]
  simp only [Command.cells, List.mem_singleton, eq_comm (a := other)]
  cases sheet.cell? other <;> split <;> rfl

theorem history_setTextBy (sheet : Sheet) (enumeration : Graph.Enumeration) (address : Address)
    (text : String) : (sheet.setTextBy enumeration address text).sheet.history = sheet.history :=
  (sheet.sameInput_setTextBy enumeration address text).history.trans
    (sheet.sameFrame_writeText address text).history

theorem snapshot_paint (color : Color) (sheet : Sheet) (address : Address) :
    (sheet.paint color address).snapshot =
      (Command.color [address] color).applyTo sheet.snapshot := by
  funext other
  simp only [Command.applyTo, Command.cells, List.mem_singleton, snapshot]
  by_cases hself : other = address
  · subst other
    rw [if_pos rfl]
    unfold paint
    cases hcell : sheet.cell? address with
    | none => simp [hcell]
    | some cell =>
      by_cases hcolor : cell.color = color
      · simp [hcell, hcolor, Command.rewrite]
      · simp [hcell, hcolor, Command.rewrite, cell?_writeColor]
  · rw [if_neg hself]
    unfold paint
    split
    · rfl
    · split
      · rfl
      · rw [cell?_writeColor, if_neg (Ne.symm hself)]

theorem history_paint (color : Color) (sheet : Sheet) (address : Address) :
    (sheet.paint color address).history = sheet.history := by
  unfold paint
  split
  · rfl
  · split
    · rfl
    · exact (sheet.sameFrame_writeColor address color).history

theorem snapshot_foldl_paint (color : Color) (sheet : Sheet) (cells : List Address) :
    (cells.foldl (paint color) sheet).snapshot =
      (Command.color cells color).applyTo sheet.snapshot := by
  induction cells generalizing sheet with
  | nil => rfl
  | cons address cells ih =>
    rw [List.foldl_cons, ih, snapshot_paint, Command.applyTo_color_cons]

theorem history_foldl_paint (color : Color) (sheet : Sheet) (cells : List Address) :
    (cells.foldl (paint color) sheet).history = sheet.history := by
  induction cells generalizing sheet with
  | nil => rfl
  | cons address cells ih => exact (ih _).trans (history_paint color sheet address)

theorem isSome_snapshot (hsize : sheet.cells.size = sheet.rows * sheet.columns)
    (address : Address) : (sheet.snapshot address).isSome = sheet.contains address := by
  rw [snapshot, Option.isSome_map, cell?]
  split
  · rename_i hcontains
    have hindex : sheet.index address < sheet.cells.size := hsize ▸ index_lt hcontains
    rw [Array.getElem?_eq_getElem hindex, Option.isSome_some, hcontains]
  · rename_i hcontains
    rw [Option.isSome_none, Bool.eq_false_iff.mpr hcontains]

theorem firstOutside?_eq_none_iff (hsize : sheet.cells.size = sheet.rows * sheet.columns) :
    sheet.firstOutside? cells = none ↔ ∀ address ∈ cells, (sheet.snapshot address).isSome := by
  simp only [firstOutside?, List.find?_eq_none, isSome_snapshot hsize, Bool.not_eq_true',
    Bool.not_eq_false]

theorem snapshot_executeBy (hsize : sheet.cells.size = sheet.rows * sheet.columns)
    (hfits : command.Fits sheet.snapshot) :
    (command.executeBy enumeration sheet).sheet.snapshot = command.applyTo sheet.snapshot := by
  cases command with
  | text address text => exact snapshot_setTextBy sheet enumeration address text
  | color cells color =>
    have hinside : sheet.firstOutside? cells = none := (firstOutside?_eq_none_iff hsize).mpr hfits
    rw [Command.executeBy, setColors, hinside]
    exact snapshot_foldl_paint color sheet cells

theorem history_executeBy (command : Command) (enumeration : Graph.Enumeration) (sheet : Sheet) :
    (command.executeBy enumeration sheet).sheet.history = sheet.history := by
  cases command with
  | text address text => exact history_setTextBy sheet enumeration address text
  | color cells color =>
    rw [Command.executeBy, setColors]
    split
    · rfl
    · exact history_foldl_paint color sheet cells

theorem inverse_eq (hfits : command.Fits sheet.snapshot) :
    command.inverse sheet = .ok (command.inverseAt sheet.snapshot) := by
  match command with
  | .text address text =>
    have hcell := hfits address (List.mem_singleton_self address)
    rw [snapshot, Option.isSome_map] at hcell
    obtain ⟨cell, hcell⟩ := Option.isSome_iff_exists.mp hcell
    simp [Command.inverse, Command.inverseAt, snapshot, hcell]
  | .color [] color => rfl
  | .color (first :: rest) color =>
    have hcell := hfits first List.mem_cons_self
    rw [snapshot, Option.isSome_map] at hcell
    obtain ⟨cell, hcell⟩ := Option.isSome_iff_exists.mp hcell
    simp [Command.inverse, Command.inverseAt, snapshot, hcell]

end Worksheet.Sheet
