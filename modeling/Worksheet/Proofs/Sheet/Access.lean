import Worksheet.Proofs.Sheet.Placement
import Worksheet.Proofs.Sheet.Unguarded

/-!
Access without guards is safe. In every state that a sheet gets into, whoever looks for a cell finds
its own entry, since no formula refers to a cell outside the grid.
-/

namespace Worksheet

theorem foldlM_eq_some_foldl {α β : Type} {f : β → α → Option β} {g : β → α → β} {p : β → Prop}
    {start : β} {items : List α} (hstart : p start)
    (hstep : ∀ state, p state → ∀ item ∈ items,
      f state item = some (g state item) ∧ p (g state item)) :
    items.foldlM f start = some (items.foldl g start) := by
  induction items generalizing start with
  | nil => rfl
  | cons item items ih =>
    obtain ⟨hitem, hnext⟩ := hstep start hstart item List.mem_cons_self
    rw [List.foldlM_cons, hitem, List.foldl_cons]
    apply ih hnext
    exact fun state hstate other hother => hstep state hstate other (List.mem_cons_of_mem _ hother)

namespace Unguarded

open Sheet

variable {sheet : Sheet} {address : Address} {text : String} {body : List Char}

theorem withoutBlanks_of_formula (h : Content.ofText text = .formula body) :
    Text.withoutBlanks text.toList = '=' :: body := by
  unfold Content.ofText at h
  split at h
  · cases h
  · split at h
    · rename_i rest htrim
      cases h
      rw [← Text.withoutBlanks_trimStart, htrim]
      rfl
    · cases h

theorem entry_eq (h : sheet.contains address) : entry sheet address = sheet.cell? address := by
  rw [entry, cell?, if_pos h]

theorem entry_eq_some (hplaced : Placed sheet) (h : sheet.contains address) :
    ∃ cell, entry sheet address = some cell ∧ sheet.cell? address = some cell := by
  obtain ⟨cell, hcell, -⟩ := hplaced.cell?_eq h
  exact ⟨cell, (entry_eq h).trans hcell, hcell⟩

theorem write_eq (hplaced : Placed sheet) (h : sheet.contains address) (property : Property)
    (f : Cell → Cell) :
    write sheet address property f = some ((sheet.modifyCell address f).emit address property) := by
  have hindex : sheet.index address < sheet.cells.size := hplaced.size ▸ index_lt h
  rw [write, if_pos hindex, modifyCell, if_pos h]

theorem bindReference_eq (hplaced : Placed sheet) (formula : Formula)
    {reference : String × Address} (h : sheet.contains reference.2) :
    bindReference sheet formula reference = some (sheet.bindReference formula reference) := by
  obtain ⟨cell, hentry, hcell⟩ := entry_eq_some hplaced h
  have hvalue : sheet.value? reference.2 = cell.value := by rw [value?, hcell, Option.bind_some]
  simp only [bindReference, hentry, Option.bind_eq_bind, Option.bind_some, Sheet.bindReference,
    hvalue]
  cases numericValue? cell.value <;> rfl

theorem readFormula_eq (hplaced : Placed sheet) (formula : Formula) :
    readFormula sheet formula = some (sheet.readFormula formula) := by
  have hspec := sheet.references_spec formula
  unfold readFormula Sheet.readFormula
  cases hreferences : sheet.references formula with
  | error error => rfl
  | ok references =>
    simp only [hreferences] at hspec
    have hbound : references.foldlM (bindReference sheet) formula =
        some (references.foldl sheet.bindReference formula) := by
      apply foldlM_eq_some_foldl (p := fun _ => True) trivial
      intro bound _ reference hreference
      have hcontains := contains_of_named? (hspec.2 reference hreference)
      exact ⟨bindReference_eq hplaced bound hcontains, trivial⟩
    simp only [hbound, Option.bind_eq_bind, Option.bind_some]
    cases (references.foldl sheet.bindReference formula).evaluate <;> rfl

theorem readName_eq (hplaced : Placed sheet) (body : String) (parseError : ExpressionError) :
    readName sheet body parseError = some (sheet.readName body parseError) := by
  unfold readName Sheet.readName
  cases Address.parse body with
  | error => rfl
  | ok =>
    cases hresolve : sheet.resolve body with
    | error => rfl
    | ok address =>
      obtain ⟨cell, hentry, hcell⟩ := entry_eq_some hplaced (contains_of_resolve hresolve)
      simp only [hentry, value?, hcell, Option.bind_eq_bind, Option.bind_some]

theorem read_eq (hplaced : Placed sheet) (text : String) :
    read sheet text = some (sheet.read text) := by
  unfold read Sheet.read
  cases hcontent : Content.ofText text with
  | empty => rfl
  | literal => rfl
  | formula body =>
    have hbyte : afterByte ('=' :: body) = some body := rfl
    simp only [withoutBlanks_of_formula hcontent, hbyte, Option.bind_eq_bind, Option.bind_some,
      readBody]
    cases Formula.parse (String.ofList body) with
    | ok formula => exact readFormula_eq hplaced formula
    | error parseError => exact readName_eq hplaced _ parseError

theorem recompute_eq (hplaced : Placed sheet) (h : sheet.contains address) :
    recompute sheet address = some (sheet.recompute address) := by
  obtain ⟨cell, hentry, hcell⟩ := entry_eq_some hplaced h
  have hrewired := hplaced.evolves (evolves_withGraph sheet address (sheet.read cell.text).precedents)
  simp only [recompute, Sheet.recompute, hentry, hcell, read_eq hplaced, Option.bind_eq_bind,
    Option.bind_some]
  split
  · rfl
  · rw [write_eq hrewired h]
    rfl

theorem propagateStep_eq {state : Sheet × AddressSet} (hplaced : Placed state.1)
    (h : state.1.contains address) :
    propagateStep state address = some (Sheet.propagateStep state address) := by
  unfold propagateStep Sheet.propagateStep
  split
  · rw [recompute_eq hplaced h]
    rfl
  · rfl

theorem propagate_eq (hplaced : Placed sheet) (origin : Address) {order : List Address}
    (h : ∀ address ∈ order, sheet.contains address) :
    propagate sheet origin order = some (sheet.propagate origin order) := by
  have hfold : order.foldlM propagateStep (sheet, (∅ : AddressSet).insert origin) =
      some (order.foldl Sheet.propagateStep (sheet, (∅ : AddressSet).insert origin)) := by
    apply foldlM_eq_some_foldl (p := fun state => Evolves sheet state.1) (.refl sheet)
    intro state hstate address hmem
    have hcontains := h address hmem
    rw [← contains_congr hstate.shape.rows hstate.shape.columns] at hcontains
    constructor
    · exact propagateStep_eq (hplaced.evolves hstate) hcontains
    · exact hstate.trans (evolves_foldl_propagateStep state [address])
  rw [propagate, hfold]
  rfl

theorem contains_of_mem_order (hwired : Wired sheet) (h : sheet.contains address)
    (enumeration : Graph.Enumeration) :
    ∀ other ∈ enumeration.order sheet.graph address, sheet.contains other := by
  intro other hother
  rcases (Graph.reads_of_mem_order hwired.mirrored hother).cases_head with rfl | ⟨source, hreads, -⟩
  · exact h
  · exact (contains_of_reads hwired hreads).1

theorem setText_eq (hplaced : Placed sheet) (hwired : Wired sheet)
    (enumeration : Graph.Enumeration) (address : Address) (text : String) :
    setText sheet enumeration address text = some (sheet.setTextBy enumeration address text) := by
  by_cases h : sheet.contains address
  · obtain ⟨cell, hentry, hcell⟩ := entry_eq_some hplaced h
    have hwritten := sheet.evolves_writeText address text
    have hrecomputed := evolves_recompute (sheet.writeText address text) address
    have hinside := contains_congr hwritten.shape.rows hwritten.shape.columns address
    have horder := contains_of_mem_order (wired_recompute_writeText hwired hcell text)
      (contains_congr hrecomputed.shape.rows hrecomputed.shape.columns address ▸ hinside ▸ h)
      enumeration
    have hwrite : write sheet address .text (fun cell => { cell with text }) =
        some (sheet.writeText address text) := write_eq hplaced h _ _
    simp only [setText, setTextBy, if_pos h, hentry, hcell, hwrite,
      recompute_eq (hplaced.evolves hwritten) (hinside ▸ h), Option.bind_eq_bind, Option.bind_some,
      propagate_eq (hplaced.evolves (hwritten.trans hrecomputed)) address horder]
    split
    · rfl
    · generalize (sheet.writeText address text).recompute address = recomputed
      split <;> cases recomputed.error <;> rfl
  · have hcell : sheet.cell? address = none := by rw [cell?, if_neg h]
    simp only [setText, setTextBy, if_neg h, hcell]

theorem paint_eq (hplaced : Placed sheet) (h : sheet.contains address) (color : Color) :
    paint color sheet address = some (sheet.paint color address) := by
  obtain ⟨cell, hentry, hcell⟩ := entry_eq_some hplaced h
  simp only [paint, Sheet.paint, hentry, hcell, Option.bind_eq_bind, Option.bind_some]
  split
  · rfl
  · exact write_eq hplaced h _ _

theorem setColors_eq (hplaced : Placed sheet) (cells : List Address) (color : Color) :
    setColors sheet cells color = some (sheet.setColors cells color) := by
  unfold setColors Sheet.setColors
  cases houtside : sheet.firstOutside? cells with
  | some outside => rfl
  | none =>
    have hfold : cells.foldlM (paint color) sheet = some (cells.foldl (Sheet.paint color) sheet) := by
      apply foldlM_eq_some_foldl (p := fun painted => Evolves sheet painted) (.refl sheet)
      intro painted hpainted address hmem
      have hcontains : sheet.contains address := by
        simpa using List.find?_eq_none.mp houtside address hmem
      rw [← contains_congr hpainted.shape.rows hpainted.shape.columns] at hcontains
      constructor
      · exact paint_eq (hplaced.evolves hpainted) hcontains color
      · exact hpainted.trans (evolves_foldl_paint color painted [address])
    simp only [hfold, Option.bind_eq_bind, Option.bind_some]

theorem setColor_eq (hplaced : Placed sheet) (address : Address) (color : Color) :
    setColor sheet address color = some (sheet.setColor address color) := by
  unfold setColor Sheet.setColor
  split
  · rw [paint_eq hplaced ‹_›]
    rfl
  · rfl

theorem cell_eq (hplaced : Placed sheet) (address : Address) :
    cell sheet address = some (sheet.cell? address) := by
  unfold cell
  split
  · obtain ⟨found, hentry, hcell⟩ := entry_eq_some hplaced ‹_›
    simp only [hentry, hcell, Option.bind_eq_bind, Option.bind_some]
  · rw [cell?, if_neg ‹_›]

theorem inverse_eq (hplaced : Placed sheet) (command : Command) :
    inverse command sheet = some (command.inverse sheet) := by
  match command with
  | .text address _ =>
    simp only [inverse, Command.inverse, cell_eq hplaced, Option.bind_eq_bind, Option.bind_some]
    cases sheet.cell? address <;> rfl
  | .color [] _ => rfl
  | .color (first :: rest) _ =>
    simp only [inverse, Command.inverse, cell_eq hplaced, Option.bind_eq_bind, Option.bind_some]
    cases sheet.cell? first <;> rfl

theorem execute_eq (hplaced : Placed sheet) (hwired : Wired sheet) (command : Command)
    (enumeration : Graph.Enumeration) :
    execute command enumeration sheet = some (command.executeBy enumeration sheet) := by
  cases command with
  | text address entered => exact setText_eq hplaced hwired enumeration address entered
  | color cells painted => exact setColors_eq hplaced cells painted

theorem execute_withHistory_eq (hplaced : Placed sheet) (hwired : Wired sheet) (history : History)
    (command : Command) (enumeration : Graph.Enumeration) :
    execute command enumeration { sheet with history } =
      some (command.executeBy enumeration { sheet with history }) := by
  apply execute_eq
  · exact hplaced.evolves (evolves_withHistory sheet history)
  · exact (sameContent_withHistory sheet history).wired hwired

theorem editText_eq (hplaced : Placed sheet) (hwired : Wired sheet)
    (enumeration : Graph.Enumeration) (address : Address) (text : String) :
    editText sheet enumeration address text =
      some (sheet.editTextBy enumeration address text) := by
  simp only [editText, editTextBy, cell_eq hplaced, Option.bind_eq_bind, Option.bind_some]
  cases sheet.cell? address with
  | none => rfl
  | some cell =>
    simp only
    split
    · rfl
    · exact execute_withHistory_eq hplaced hwired _ (.text address text) enumeration

theorem editColor_eq (hplaced : Placed sheet) (hwired : Wired sheet) (cells : List Address)
    (color : Color) :
    editColor sheet cells color = some (sheet.editColor cells color) := by
  have hcell : cell sheet = fun address => some (sheet.cell? address) :=
    funext fun address => cell_eq hplaced address
  have hfound : cells.mapM (cell sheet) = some (cells.map sheet.cell?) := by
    rw [hcell]
    exact List.mapM_pure
  simp only [editColor, Sheet.editColor, hfound, Option.bind_eq_bind, Option.bind_some,
    List.filterMap_map, Function.id_comp]
  cases sheet.firstOutside? cells with
  | some outside => rfl
  | none =>
    simp only
    cases (cells.filterMap sheet.cell?).map Cell.color with
    | nil => rfl
    | cons first rest =>
      simp only
      split
      · rfl
      · exact execute_withHistory_eq hplaced hwired _ (.color cells color) .sorted

theorem undo_eq (hplaced : Placed sheet) (hwired : Wired sheet)
    (enumeration : Graph.Enumeration) : undo sheet enumeration = some (sheet.undoBy enumeration) := by
  unfold undo undoBy
  obtain ⟨_ | command, history⟩ := sheet.history.popUndo
  · rfl
  · simp only [inverse_eq hplaced, execute_withHistory_eq hplaced hwired, Option.bind_eq_bind,
      Option.bind_some]
    cases command.inverse sheet <;> rfl

theorem redo_eq (hplaced : Placed sheet) (hwired : Wired sheet)
    (enumeration : Graph.Enumeration) : redo sheet enumeration = some (sheet.redoBy enumeration) := by
  unfold redo redoBy
  obtain ⟨_ | command, history⟩ := sheet.history.popRedo
  · rfl
  · simp only [inverse_eq hplaced, execute_withHistory_eq hplaced hwired, Option.bind_eq_bind,
      Option.bind_some]
    cases command.inverse sheet <;> rfl

theorem perform_eq (hplaced : Placed sheet) (hwired : Wired sheet) (operation : Operation)
    (enumeration : Graph.Enumeration) :
    perform operation enumeration sheet = some (operation.performBy enumeration sheet) := by
  cases operation with
  | setText cell text => rw [perform, setText_eq hplaced hwired]; rfl
  | setColor cell color => rw [perform, setColor_eq hplaced]; rfl
  | setColors cells color => rw [perform, setColors_eq hplaced]; rfl
  | editText cell text => rw [perform, editText_eq hplaced hwired]; rfl
  | editColor cells color => rw [perform, editColor_eq hplaced hwired]; rfl
  | undo => rw [perform, undo_eq hplaced hwired]; rfl
  | redo => rw [perform, redo_eq hplaced hwired]; rfl
  | pushUndo command => rfl
  | pushRedo command => rfl
  | execute command => rw [perform, execute_eq hplaced hwired]; rfl

theorem next_eq (hplaced : Placed sheet) (hwired : Wired sheet) (step : Step) :
    next step sheet = some (step.next sheet) := by
  cases step with
  | perform enumeration operation => rw [next, perform_eq hplaced hwired]; rfl
  | takeEvents => rfl

theorem run_eq (hplaced : Placed sheet) (hcoherent : Coherent sheet) (steps : List Step) :
    run steps sheet = some (Step.run steps sheet) := by
  apply foldlM_eq_some_foldl (p := fun sheet => Placed sheet ∧ Coherent sheet)
  · exact ⟨hplaced, hcoherent⟩
  · rintro sheet ⟨hplaced, hcoherent⟩ step -
    refine ⟨next_eq hplaced hcoherent.wired step, hplaced.evolves (evolves_run sheet [step]), ?_⟩
    cases step with
    | perform enumeration operation => exact hcoherent.performBy operation enumeration
    | takeEvents => exact hcoherent.takeEvents

end Unguarded

namespace Graph

variable {graph : Graph} {address : Address}

def Mentions (graph : Graph) (address : Address) : Prop :=
  address ∈ graph.readers ∨ address ∈ graph.sources ∨
    ∃ cell, address ∈ graph.dependents cell ∨ address ∈ graph.precedents cell

theorem reads_of_mentions (hmirrored : Mirrored graph) (htight : Tight graph)
    (h : graph.Mentions address) :
    ∃ other, graph.Reads address other ∨ graph.Reads other address := by
  rcases h with hreaders | hsources | ⟨cell, hcell | hcell⟩
  · obtain ⟨reader, hreader⟩ := (htight.readers.mem_iff address).mp hreaders
    rw [← mem_dependents_iff] at hreader
    exact ⟨reader, .inr ((hmirrored reader address).mp hreader)⟩
  · obtain ⟨source, hsource⟩ := (htight.sources.mem_iff address).mp hsources
    rw [← mem_precedents_iff] at hsource
    exact ⟨source, .inl hsource⟩
  · exact ⟨cell, .inl ((hmirrored address cell).mp hcell)⟩
  · exact ⟨cell, .inr hcell⟩

end Graph

open Sheet

structure Faultless (sheet : Sheet) : Prop where
  placed : Placed sheet
  mentioned : ∀ address, sheet.graph.Mentions address → sheet.contains address
  cell : ∀ address, Unguarded.cell sheet address = some (sheet.cell? address)
  perform : ∀ (operation : Operation) (enumeration : Graph.Enumeration),
    Unguarded.perform operation enumeration sheet = some (operation.performBy enumeration sheet)

theorem faultless_of_coherent {sheet : Sheet} (hplaced : Placed sheet) (hcoherent : Coherent sheet)
    (htight : sheet.graph.Tight) : Faultless sheet where
  placed := hplaced
  mentioned address hmentions := by
    have hwired := hcoherent.wired
    obtain ⟨other, hreads | hreads⟩ :=
      Graph.reads_of_mentions hwired.mirrored htight hmentions
    · exact (contains_of_reads hwired hreads).1
    · exact (contains_of_reads hwired hreads).2
  cell := Unguarded.cell_eq hplaced
  perform := Unguarded.perform_eq hplaced hcoherent.wired

theorem faultless_run (steps : List Step) (options : Options) :
    Unguarded.run steps (fresh options) = some (Step.run steps (fresh options)) ∧
      Faultless (Step.run steps (fresh options)) ∧
      ∀ text body, Content.ofText text = .formula body →
        Text.withoutBlanks text.toList = '=' :: body ∧
          Unguarded.afterByte (Text.withoutBlanks text.toList) = some body := by
  have hevolves := evolves_run (fresh options) steps
  refine ⟨?_, ?_, fun text body hformula => ?_⟩
  · exact Unguarded.run_eq (placed_fresh options) (coherent_fresh options) steps
  · exact faultless_of_coherent (placed_of_evolves hevolves) (coherent_run steps options)
      (tight_of_evolves hevolves)
  · rw [Unguarded.withoutBlanks_of_formula hformula]
    exact ⟨rfl, rfl⟩

end Worksheet
