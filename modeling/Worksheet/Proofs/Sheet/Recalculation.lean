import Worksheet.Proofs.Sheet.Reading
import Worksheet.Sheet.Change

namespace Worksheet.Sheet

variable {sheet before middle after : Sheet} {address other : Address} {cell : Cell}

structure SameInput (before after : Sheet) : Prop where
  rows : after.rows = before.rows
  columns : after.columns = before.columns
  size : after.cells.size = before.cells.size
  history : after.history = before.history
  text : ∀ address, after.text? address = before.text? address
  color : ∀ address, after.color? address = before.color? address

namespace SameInput

theorem refl (sheet : Sheet) : SameInput sheet sheet :=
  ⟨rfl, rfl, rfl, rfl, fun _ => rfl, fun _ => rfl⟩

theorem trans (h : SameInput before middle) (h' : SameInput middle after) :
    SameInput before after :=
  ⟨h'.rows.trans h.rows, h'.columns.trans h.columns, h'.size.trans h.size,
    h'.history.trans h.history, fun address => (h'.text address).trans (h.text address),
    fun address => (h'.color address).trans (h.color address)⟩

theorem symm (h : SameInput before after) : SameInput after before :=
  ⟨h.rows.symm, h.columns.symm, h.size.symm, h.history.symm, fun address => (h.text address).symm,
    fun address => (h.color address).symm⟩

theorem contains (h : SameInput before after) (address : Address) :
    after.contains address = before.contains address := contains_congr h.rows h.columns address

theorem precedents_reading (h : SameInput before after) (address : Address) :
    (after.reading address).precedents = (before.reading address).precedents := by
  rw [reading, reading, h.text]
  exact precedents_read_congr h.rows h.columns _

theorem reading_eq (h : SameInput before after)
    (hvalue : ∀ source ∈ (before.reading address).precedents,
      after.value? source = before.value? source) :
    after.reading address = before.reading address := by
  rw [reading, reading, h.text]
  exact read_congr h.rows h.columns hvalue

end SameInput

theorem sameInput_withGraph (sheet : Sheet) (graph : Graph) :
    SameInput sheet { sheet with graph } :=
  ⟨rfl, rfl, rfl, rfl, fun _ => rfl, fun _ => rfl⟩

theorem sameInput_writeValue (sheet : Sheet) (address : Address) (value : Option String) :
    SameInput sheet (sheet.writeValue address value) := by
  have hframe := sheet.sameFrame_writeValue address value
  refine ⟨hframe.rows, hframe.columns, hframe.size, hframe.history, fun other => ?_,
    fun other => ?_⟩
  · rw [text?, text?, cell?_writeValue]
    split <;> simp [Function.comp_def]
  · rw [color?, color?, cell?_writeValue]
    split <;> simp [Function.comp_def]

theorem value?_writeValue (h : sheet.cell? address = some cell) (value : Option String) :
    (sheet.writeValue address value).value? other =
      if address = other then value else sheet.value? other := by
  rw [value?_eq_map, cell?_writeValue]
  split
  · subst other
    simp [h]
  · rfl

theorem recompute_of_cell?_none (h : sheet.cell? address = none) :
    sheet.recompute address = ⟨sheet, false, none⟩ := by
  rw [recompute, h]

theorem reading_of_cell? (h : sheet.cell? address = some cell) :
    sheet.reading address = sheet.read cell.text := by
  rw [reading, text?, h]
  rfl

theorem reading_of_cell?_none (h : sheet.cell? address = none) :
    sheet.reading address = ⟨none, [], none⟩ := by
  rw [reading, text?, h]
  rfl

theorem sameInput_recompute (sheet : Sheet) (address : Address) :
    SameInput sheet (sheet.recompute address).sheet := by
  cases h : sheet.cell? address with
  | none =>
    rw [recompute_of_cell?_none h]
    exact .refl sheet
  | some cell =>
    simp only [recompute, h]
    split
    · exact sameInput_withGraph sheet _
    · exact (sameInput_withGraph sheet _).trans (sameInput_writeValue _ _ _)

theorem value?_recompute (sheet : Sheet) (address other : Address) :
    (sheet.recompute address).sheet.value? other =
      if address = other then (sheet.reading address).value else sheet.value? other := by
  cases h : sheet.cell? address with
  | none =>
    rw [recompute_of_cell?_none h, reading_of_cell?_none h]
    split
    · subst other
      rw [value?_eq_map, h, Option.bind_none]
    · rfl
  | some cell =>
    let rewired : Sheet :=
      { sheet with graph := sheet.graph.setPrecedents address (sheet.read cell.text).precedents }
    have h' : rewired.cell? address = some cell := h
    simp only [recompute, h, reading_of_cell? h]
    split
    · rename_i hvalue
      split
      · subst other
        rw [← hvalue]
        exact congrArg (Option.bind · Cell.value) h'
      · rfl
    · exact value?_writeValue h' _

theorem changed_recompute (sheet : Sheet) (address : Address) :
    (sheet.recompute address).changed = true ↔
      (sheet.reading address).value ≠ sheet.value? address := by
  cases h : sheet.cell? address with
  | none =>
    rw [recompute_of_cell?_none h, reading_of_cell?_none h, value?_eq_map, h]
    simp
  | some cell =>
    rw [value?_eq_map, h, Option.bind_some, reading_of_cell? h]
    simp only [recompute, h]
    split
    · simp_all
    · simpa using Ne.symm ‹_›

theorem error_recompute (sheet : Sheet) (address : Address) :
    (sheet.recompute address).error = (sheet.reading address).error := by
  cases hcell : sheet.cell? address with
  | none => rw [recompute_of_cell?_none hcell, reading_of_cell?_none hcell]
  | some cell =>
    rw [reading_of_cell? hcell]
    simp only [recompute, hcell]
    split <;> rfl

theorem graph_recompute (h : sheet.cell? address = some cell) :
    (sheet.recompute address).sheet.graph =
      sheet.graph.setPrecedents address (sheet.reading address).precedents := by
  simp only [recompute, h, reading_of_cell? h]
  split
  · rfl
  · exact (sameFrame_writeValue _ _ _).graph

theorem mem_precedents_recompute (h : sheet.cell? address = some cell) {reader source : Address} :
    source ∈ (sheet.recompute address).sheet.precedents reader ↔
      if address = reader then source ∈ (sheet.reading address).precedents
      else source ∈ sheet.precedents reader := by
  rw [precedents, graph_recompute h]
  exact Graph.mem_precedents_setPrecedents

end Worksheet.Sheet
