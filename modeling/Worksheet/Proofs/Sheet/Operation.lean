import Worksheet.Proofs.Sheet.Change
import Worksheet.Sheet.Operation

namespace Worksheet

namespace Sheet

variable {sheet before middle after : Sheet} {address : Address}

structure SameContent (before after : Sheet) : Prop where
  rows : after.rows = before.rows
  columns : after.columns = before.columns
  size : after.cells.size = before.cells.size
  graph : after.graph = before.graph
  text : ∀ address, after.text? address = before.text? address
  value : ∀ address, after.value? address = before.value? address

namespace SameContent

theorem trans (h : SameContent before middle) (h' : SameContent middle after) :
    SameContent before after :=
  ⟨h'.rows.trans h.rows, h'.columns.trans h.columns, h'.size.trans h.size,
    h'.graph.trans h.graph, fun address => (h'.text address).trans (h.text address),
    fun address => (h'.value address).trans (h.value address)⟩

theorem reading (h : SameContent before after) (address : Address) :
    after.reading address = before.reading address := by
  rw [Sheet.reading, Sheet.reading, h.text]
  exact read_congr h.rows h.columns fun source _ => h.value source

theorem wired (h : SameContent before after) (hwired : Wired before) : Wired after where
  mirrored := h.graph ▸ hwired.mirrored
  precedents reader source := by
    rw [precedents, h.graph, h.reading]
    exact hwired.precedents reader source

theorem settled_iff (h : SameContent before after) (address : Address) :
    Settled after address ↔ Settled before address := by
  rw [Settled, Settled, h.value, h.reading]

theorem touched_iff (h : SameContent before middle) (address : Address) :
    Touched middle after address ↔ Touched before after address := by
  simp only [Touched, h.text, h.value]

end SameContent

theorem sameContent_withHistory (sheet : Sheet) (history : History) :
    SameContent sheet { sheet with history } :=
  ⟨rfl, rfl, rfl, rfl, fun _ => rfl, fun _ => rfl⟩

theorem sameContent_writeColor (sheet : Sheet) (address : Address) (color : Color) :
    SameContent sheet (sheet.writeColor address color) := by
  have hframe := sheet.sameFrame_writeColor address color
  refine ⟨hframe.rows, hframe.columns, hframe.size, hframe.graph, fun other => ?_, fun other => ?_⟩
  · rw [text?, text?, cell?_writeColor]
    split <;> cases sheet.cell? other <;> rfl
  · rw [value?_eq_map, value?_eq_map, cell?_writeColor]
    split <;> cases sheet.cell? other <;> rfl

theorem sameContent_paint (color : Color) (sheet : Sheet) (address : Address) :
    SameContent sheet (sheet.paint color address) := by
  have hsame : SameContent sheet sheet := sameContent_withHistory sheet sheet.history
  unfold paint
  split
  · exact hsame
  · split
    · exact hsame
    · exact sameContent_writeColor sheet address color

theorem sameContent_foldl_paint (color : Color) (sheet : Sheet) (cells : List Address) :
    SameContent sheet (cells.foldl (paint color) sheet) := by
  induction cells generalizing sheet with
  | nil => exact sameContent_withHistory sheet sheet.history
  | cons address cells ih => exact (sameContent_paint color sheet address).trans (ih _)

theorem setColors_sheet (sheet : Sheet) (cells : List Address) (color : Color) :
    ∃ painted : List Address, (sheet.setColors cells color).sheet = painted.foldl (paint color) sheet := by
  unfold setColors
  split
  · exact ⟨[], rfl⟩
  · exact ⟨cells, rfl⟩

end Sheet

namespace Operation

open Sheet

inductive Result (enumeration : Graph.Enumeration) (sheet : Sheet) : Sheet → Prop where
  | colored (history : History) (cells : List Address) (color : Color) :
    Result enumeration sheet (cells.foldl (paint color) { sheet with history })
  | entered (history : History) (address : Address) (text : String) :
    Result enumeration sheet
      (({ sheet with history } : Sheet).setTextBy enumeration address text).sheet

variable {enumeration : Graph.Enumeration} {sheet : Sheet}

theorem Result.withHistory (history : History) :
    Result enumeration sheet { sheet with history } := .colored history [] default

theorem Result.same : Result enumeration sheet sheet := .withHistory sheet.history

theorem result_setColors (history : History) (cells : List Address) (color : Color) :
    Result enumeration sheet
      (({ sheet with history } : Sheet).setColors cells color).sheet := by
  obtain ⟨painted, heq⟩ := setColors_sheet { sheet with history } cells color
  exact heq ▸ .colored history painted color

theorem result_executeBy (history : History) (command : Command) :
    Result enumeration sheet
      (command.executeBy enumeration { sheet with history }).sheet := by
  cases command with
  | text address text => exact .entered history address text
  | color cells color => exact result_setColors history cells color

theorem result_performBy (operation : Operation) (enumeration : Graph.Enumeration)
    (sheet : Sheet) : Result enumeration sheet (operation.performBy enumeration sheet).sheet := by
  cases operation with
  | setText address text => exact .entered sheet.history address text
  | setColor address color =>
    simp only [performBy, Outcome.silent, Sheet.setColor]
    split
    · exact .colored sheet.history [address] color
    · exact .same
  | setColors cells color => exact result_setColors sheet.history cells color
  | editText address text =>
    simp only [performBy, Outcome.silent, editTextBy]
    split
    · exact .same
    · split
      · exact .same
      · exact .entered _ address text
  | editColor cells color =>
    simp only [performBy, Outcome.silent, Sheet.editColor]
    split
    · exact .same
    · split
      · exact .same
      · split
        · exact .same
        · exact result_setColors _ cells color
  | undo =>
    simp only [performBy, Outcome.counted, undoBy]
    split
    · exact .same
    · split
      · exact .withHistory _
      · exact result_executeBy _ _
  | redo =>
    simp only [performBy, Outcome.counted, redoBy]
    split
    · exact .same
    · split
      · exact .withHistory _
      · exact result_executeBy _ _
  | pushUndo command =>
    simp only [performBy, Outcome.silent, Sheet.pushUndo]
    split
    · exact .same
    · exact .withHistory _
  | pushRedo command =>
    simp only [performBy, Outcome.silent, Sheet.pushRedo]
    split
    · exact .same
    · exact .withHistory _
  | execute command => exact result_executeBy sheet.history command

theorem sameShape_performBy (operation : Operation) (enumeration : Graph.Enumeration)
    (sheet : Sheet) : SameShape sheet (operation.performBy enumeration sheet).sheet := by
  have hresult := operation.result_performBy enumeration sheet
  generalize (operation.performBy enumeration sheet).sheet = after at hresult ⊢
  cases hresult with
  | colored history cells color =>
    have h := (sameContent_withHistory sheet history).trans (sameContent_foldl_paint color _ cells)
    exact ⟨h.rows, h.columns, h.size⟩
  | entered history address text =>
    have h := ({ sheet with history } : Sheet).sameShape_setTextBy enumeration address text
    exact ⟨h.rows, h.columns, h.size⟩

theorem runBy_append (first last : List (Graph.Enumeration × Operation)) (sheet : Sheet) :
    runBy (first ++ last) sheet = runBy last (runBy first sheet) :=
  List.foldl_append

theorem runBy_concat (steps : List (Graph.Enumeration × Operation))
    (step : Graph.Enumeration × Operation) (sheet : Sheet) :
    runBy (steps ++ [step]) sheet = (step.2.performBy step.1 (runBy steps sheet)).sheet :=
  List.foldl_concat _ _ _ _

theorem sameShape_runBy (steps : List (Graph.Enumeration × Operation)) (sheet : Sheet) :
    SameShape sheet (runBy steps sheet) := by
  induction steps generalizing sheet with
  | nil => exact .refl sheet
  | cons step steps ih => exact (sameShape_performBy step.2 step.1 sheet).trans (ih _)

end Operation

end Worksheet
