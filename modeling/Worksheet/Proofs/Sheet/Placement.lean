import Worksheet.Proofs.Graph.Extensionality
import Worksheet.Proofs.Sheet.References

namespace Worksheet

namespace Sheet

variable {sheet before middle after : Sheet} {address other : Address} {cell : Cell}
  {options : Options}

def position? (sheet : Sheet) (address : Address) : Option Address :=
  (sheet.cell? address).map Cell.address

/-- What no operation takes away: cells never move, and the graph only changes cell by cell. -/
structure Evolves (before after : Sheet) : Prop where
  shape : SameShape before after
  position : ∀ address, after.position? address = before.position? address
  graph : Graph.Rewired before.graph after.graph

namespace Evolves

theorem refl (sheet : Sheet) : Evolves sheet sheet := ⟨.refl sheet, fun _ => rfl, .refl⟩

theorem trans (h : Evolves before middle) (h' : Evolves middle after) : Evolves before after :=
  ⟨h.shape.trans h'.shape, fun address => (h'.position address).trans (h.position address),
    Relation.ReflTransGen.trans h.graph h'.graph⟩

end Evolves

theorem evolves_withGraph (sheet : Sheet) (cell : Address) (sources : List Address) :
    Evolves sheet { sheet with graph := sheet.graph.setPrecedents cell sources } :=
  ⟨⟨rfl, rfl, rfl⟩, fun _ => rfl, Graph.rewired_setPrecedents _ _ _⟩

theorem evolves_write (sheet : Sheet) (address : Address) (property : Property) {f : Cell → Cell}
    (hf : ∀ cell, (f cell).address = cell.address) :
    Evolves sheet ((sheet.modifyCell address f).emit address property) := by
  have hframe := sheet.sameFrame_modifyCell address f
  refine ⟨⟨hframe.rows, hframe.columns, hframe.size⟩, fun other => ?_, ?_⟩
  · change ((sheet.modifyCell address f).cell? other).map Cell.address = sheet.position? other
    rw [position?, cell?_modifyCell]
    split
    · simp [Function.comp_def, hf]
    · rfl
  · change Graph.Rewired sheet.graph (sheet.modifyCell address f).graph
    rw [hframe.graph]
    exact .refl

theorem evolves_writeText (sheet : Sheet) (address : Address) (text : String) :
    Evolves sheet (sheet.writeText address text) :=
  sheet.evolves_write address .text fun _ => rfl

theorem evolves_recompute (sheet : Sheet) (address : Address) :
    Evolves sheet (sheet.recompute address).sheet := by
  cases hcell : sheet.cell? address with
  | none =>
    rw [recompute_of_cell?_none hcell]
    exact .refl sheet
  | some cell =>
    simp only [recompute, hcell]
    split
    · exact evolves_withGraph _ _ _
    · exact (evolves_withGraph _ _ _).trans (evolves_write _ address .value fun _ => rfl)

theorem evolves_foldl_propagateStep (state : Sheet × AddressSet) (order : List Address) :
    Evolves state.1 (order.foldl propagateStep state).1 := by
  induction order generalizing state with
  | nil => exact .refl _
  | cons address order ih =>
    apply Evolves.trans _ (ih _)
    unfold propagateStep
    split
    · exact evolves_recompute _ _
    · exact .refl _

theorem evolves_setTextBy (sheet : Sheet) (enumeration : Graph.Enumeration) (address : Address)
    (text : String) : Evolves sheet (sheet.setTextBy enumeration address text).sheet := by
  rcases sheet.setTextBy_sheet_cases enumeration address text with ⟨-, heq⟩ | ⟨-, -, -, heq⟩
  · rw [heq]
    exact .refl sheet
  · rw [heq]
    apply (sheet.evolves_writeText address text).trans
    apply (evolves_recompute _ address).trans
    exact evolves_foldl_propagateStep (started _ address) _

theorem evolves_foldl_paint (color : Color) (sheet : Sheet) (cells : List Address) :
    Evolves sheet (cells.foldl (paint color) sheet) := by
  induction cells generalizing sheet with
  | nil => exact .refl sheet
  | cons address cells ih =>
    apply Evolves.trans _ (ih _)
    unfold paint
    split
    · exact .refl sheet
    · split
      · exact .refl sheet
      · exact evolves_write sheet address .color fun _ => rfl

theorem evolves_withHistory (sheet : Sheet) (history : History) :
    Evolves sheet { sheet with history } := ⟨⟨rfl, rfl, rfl⟩, fun _ => rfl, .refl⟩

theorem evolves_performBy (sheet : Sheet) (enumeration : Graph.Enumeration) (operation : Operation) :
    Evolves sheet (operation.performBy enumeration sheet).sheet := by
  have hresult := operation.result_performBy enumeration sheet
  generalize (operation.performBy enumeration sheet).sheet = after at hresult ⊢
  cases hresult with
  | colored history cells color =>
    exact (evolves_withHistory sheet history).trans (evolves_foldl_paint color _ cells)
  | entered history address text =>
    exact (evolves_withHistory sheet history).trans (evolves_setTextBy _ enumeration address text)

theorem evolves_run (sheet : Sheet) (steps : List Step) : Evolves sheet (Step.run steps sheet) := by
  induction steps generalizing sheet with
  | nil => exact .refl sheet
  | cons step steps ih =>
    apply Evolves.trans _ (ih _)
    cases step with
    | perform enumeration operation => exact evolves_performBy _ _ _
    | takeEvents => exact ⟨⟨rfl, rfl, rfl⟩, fun _ => rfl, .refl⟩

theorem evolves_runBy (sheet : Sheet) (steps : List (Graph.Enumeration × Operation)) :
    Evolves sheet (Operation.runBy steps sheet) := by
  induction steps generalizing sheet with
  | nil => exact .refl sheet
  | cons step steps ih => exact (sheet.evolves_performBy step.1 step.2).trans (ih _)

theorem cell?_fresh (options : Options) (address : Address) :
    (fresh options).cell? address =
      if (fresh options).contains address then some (Cell.blank address) else none := by
  rw [cell?]
  split
  · rename_i hcontains
    have hindex : (fresh options).index address < (fresh options).rows * (fresh options).columns :=
      index_lt hcontains
    simp only [contains, Bool.and_eq_true, decide_eq_true_eq] at hcontains
    have hrow : (fresh options).index address / (fresh options).columns = address.row := by
      rw [index, Nat.mul_comm, Nat.mul_add_div (by omega), Nat.div_eq_of_lt hcontains.2,
        Nat.add_zero]
    have hcol : (fresh options).index address % (fresh options).columns = address.col := by
      rw [index, Nat.mul_add_mod', Nat.mod_eq_of_lt hcontains.2]
    have hcells : (fresh options).cells =
        blankCells (fresh options).rows (fresh options).columns := rfl
    rw [hcells, blankCells, Array.getElem?_ofFn, dif_pos hindex]
    simp only [hrow, hcol]
  · rfl

structure Placed (sheet : Sheet) : Prop where
  size : sheet.cells.size = sheet.rows * sheet.columns
  entry : ∀ row < sheet.rows, ∀ col < sheet.columns, ∃ cell,
    sheet.cells[row * sheet.columns + col]? = some cell ∧ cell.address = ⟨row, col⟩

theorem placed_of_position? (hsize : sheet.cells.size = sheet.rows * sheet.columns)
    (hposition : ∀ address, sheet.contains address → sheet.position? address = some address) :
    Placed sheet := by
  refine ⟨hsize, fun row hrow col hcol => ?_⟩
  have hcontains : sheet.contains ⟨row, col⟩ := by simp [contains, hrow, hcol]
  have hcell := hposition _ hcontains
  rw [position?, Option.map_eq_some_iff] at hcell
  obtain ⟨cell, hcell, haddress⟩ := hcell
  rw [cell?, if_pos hcontains] at hcell
  exact ⟨cell, hcell, haddress⟩

theorem Placed.cell?_eq (h : Placed sheet) (hcontains : sheet.contains address) :
    ∃ cell, sheet.cell? address = some cell ∧ cell.address = address := by
  rw [cell?, if_pos hcontains]
  simp only [contains, Bool.and_eq_true, decide_eq_true_eq] at hcontains
  exact h.entry address.row hcontains.1 address.col hcontains.2

theorem contains_of_cell? (h : sheet.cell? address = some cell) : sheet.contains address := by
  unfold cell? at h
  split at h
  · assumption
  · cases h

theorem Placed.address_eq (h : Placed sheet) (hcell : sheet.cell? address = some cell) :
    cell.address = address := by
  obtain ⟨other, hother, haddress⟩ := h.cell?_eq (contains_of_cell? hcell)
  obtain rfl := Option.some.inj (hcell.symm.trans hother)
  exact haddress

theorem Placed.evolves (h : Placed before) (h' : Evolves before after) : Placed after := by
  apply placed_of_position?
  · rw [h'.shape.size, h'.shape.rows, h'.shape.columns]
    exact h.size
  · intro address hcontains
    rw [contains_congr h'.shape.rows h'.shape.columns] at hcontains
    obtain ⟨cell, hcell, haddress⟩ := h.cell?_eq hcontains
    rw [h'.position, position?, hcell, Option.map_some, haddress]

theorem placed_fresh (options : Options) : Placed (fresh options) := by
  apply placed_of_position? Array.size_ofFn
  intro address hcontains
  rw [position?, cell?_fresh, if_pos hcontains]
  rfl

theorem placed_of_evolves (h : Evolves (fresh options) sheet) : Placed sheet :=
  (placed_fresh options).evolves h

theorem Placed.getElem?_eq (h : Placed sheet) {i : Nat} (hcell : sheet.cells[i]? = some cell) :
    sheet.cell? cell.address = some cell ∧ sheet.index cell.address = i := by
  obtain ⟨hi, -⟩ := Array.getElem?_eq_some_iff.mp hcell
  rw [h.size] at hi
  obtain ⟨address, hcontains, rfl⟩ := exists_index_eq hi
  have hhere : sheet.cell? address = some cell := by rwa [cell?, if_pos hcontains]
  rw [h.address_eq hhere]
  exact ⟨hhere, rfl⟩

theorem mem_written_iff (h : Placed sheet) :
    cell ∈ sheet.written ↔ sheet.cell? cell.address = some cell ∧ cell.text ≠ "" := by
  have hmem : cell ∈ sheet.cells ↔ sheet.cell? cell.address = some cell := by
    constructor
    · intro hmem
      obtain ⟨i, hcell⟩ := Array.mem_iff_getElem?.mp hmem
      exact (h.getElem?_eq hcell).1
    · intro hcell
      rw [cell?, if_pos (contains_of_cell? hcell)] at hcell
      exact Array.mem_of_getElem? hcell
  simp [written, Cell.isEmpty, hmem]

theorem pairwise_written (h : Placed sheet) :
    sheet.written.Pairwise fun cell next => compare cell.address next.address = .lt := by
  apply List.Pairwise.filter
  rw [List.pairwise_iff_getElem]
  intro i j hi hj hlt
  obtain ⟨-, hindex⟩ := h.getElem?_eq (Array.getElem?_eq_getElem hi)
  obtain ⟨hnext, hindex'⟩ := h.getElem?_eq (Array.getElem?_eq_getElem hj)
  apply compare_of_index_lt (contains_of_cell? hnext)
  rwa [Array.getElem_toList, hindex, hindex']

theorem tight_of_evolves (h : Evolves (fresh options) sheet) : sheet.graph.Tight :=
  h.graph.tight Graph.tight_empty

theorem graph_eq_of_text? (hbefore : Wired before) (hafter : Wired after)
    (htight : before.graph.Tight) (htight' : after.graph.Tight) (hrows : after.rows = before.rows)
    (hcolumns : after.columns = before.columns)
    (htext : ∀ address, after.text? address = before.text? address) :
    after.graph = before.graph := by
  apply Graph.eq_of_mem_precedents_iff htight' htight hafter.mirrored hbefore.mirrored
  intro reader source
  have hreading : (after.reading reader).precedents = (before.reading reader).precedents := by
    rw [reading, reading, htext]
    exact precedents_read_congr hrows hcolumns _
  rw [← precedents, ← precedents, hafter.precedents, hbefore.precedents, hreading]

theorem contains_of_named? {name : String} (h : sheet.named? name = some address) :
    sheet.contains address := by
  unfold named? at h
  split at h
  · split at h
    · cases h
      assumption
    · cases h
  · cases h

theorem contains_of_resolve {name : String} (h : sheet.resolve name = .ok address) :
    sheet.contains address := by
  rw [resolve_eq] at h
  cases hname : sheet.named? name with
  | none => simp [hname] at h
  | some other =>
    rw [hname] at h
    cases h
    exact contains_of_named? hname

theorem contains_of_reads (h : Wired sheet) {reader source : Address}
    (hreads : sheet.graph.Reads reader source) :
    sheet.contains reader ∧ sheet.contains source := by
  obtain ⟨text, htext, hrefers⟩ := (mem_precedents_iff_refers h reader source).mp hreads
  constructor
  · rw [text?, Option.map_eq_some_iff] at htext
    obtain ⟨cell, hcell, -⟩ := htext
    exact contains_of_cell? hcell
  · cases hrefers with
    | operand _ _ _ _ hsource => exact contains_of_named? hsource
    | whole _ hsource => exact contains_of_named? hsource

end Sheet

end Worksheet
