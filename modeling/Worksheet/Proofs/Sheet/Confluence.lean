import Worksheet.Proofs.Graph.Circularity
import Worksheet.Proofs.Sheet.Listing
import Worksheet.Proofs.Sheet.Notice
import Worksheet.Proofs.Sheet.Placement

namespace Worksheet

namespace Sheet

variable {sheet before after : Sheet} {address : Address}

theorem value?_refresh_of_not_leads (h : Wired (sheet.recompute address).sheet)
    (enumeration : Graph.Enumeration) {other : Address}
    (hleads : ¬ Relation.ReflTransGen (sheet.recompute address).sheet.graph.Reads other address) :
    (sheet.refresh enumeration address).value? other = sheet.value? other := by
  have hne : address ≠ other := by
    rintro rfl
    exact hleads .refl
  rw [value?_refresh_of_not_visited, value?_started_of_ne hne]
  intro hmem
  rw [visited_eq_order hmem] at hmem
  exact hleads (Graph.reads_of_mem_order h.mirrored hmem)

theorem value?_refresh_eq_of_sources (h : Wired (sheet.recompute address).sheet) {other : Address}
    (hoff : ¬ (sheet.recompute address).sheet.graph.OnCycleAvoiding address other)
    (hne : other ≠ address) {first second : Graph.Enumeration}
    (hsources : ∀ source ∈ (sheet.reading other).precedents,
      (sheet.refresh second address).value? source = (sheet.refresh first address).value? source) :
    (sheet.refresh second address).value? other = (sheet.refresh first address).value? other := by
  by_cases hsame : ∀ source ∈ (sheet.reading other).precedents,
      (sheet.refresh first address).value? source = sheet.value? source
  · rw [value?_refresh_of_ne h hoff hne hsame, value?_refresh_of_ne h hoff hne]
    intro source hsource
    rw [hsources source hsource, hsame source hsource]
  · -- One of the cells that it reads has changed in both walks, so both have recomputed it.
    have hfirst : Settled (sheet.refresh first address) other :=
      settled_refresh_of_ne h hoff hne fun hunchanged => absurd hunchanged hsame
    have hsecond : Settled (sheet.refresh second address) other := by
      apply settled_refresh_of_ne h hoff hne
      intro hunchanged
      refine absurd (fun source hsource => ?_) hsame
      rw [← hsources source hsource, hunchanged source hsource]
    have hinput := sameInput_refresh sheet first address
    have hreading : (sheet.refresh second address).reading other =
        (sheet.refresh first address).reading other := by
      apply (hinput.symm.trans (sameInput_refresh sheet second address)).reading_eq
      rw [hinput.precedents_reading]
      exact hsources
    rw [hsecond, hfirst, hreading]

theorem value?_refresh_eq (h : Wired (sheet.recompute address).sheet)
    (hcycles : (sheet.recompute address).sheet.graph.CyclesMeet address)
    (first second : Graph.Enumeration) (other : Address) :
    (sheet.refresh second address).value? other = (sheet.refresh first address).value? other := by
  induction other using hcycles.wellFounded.induction with
  | _ other ih =>
    by_cases hself : other = address
    · rw [hself, value?_refresh_self h, value?_refresh_self h]
    by_cases hleads : Relation.ReflTransGen (sheet.recompute address).sheet.graph.Reads other address
    · apply value?_refresh_eq_of_sources h (hcycles other hleads) hself
      intro source hsource
      exact ih source ⟨⟨(reads_recompute_iff h other source).mpr hsource, hself⟩, hleads⟩
    · rw [value?_refresh_of_not_leads h second hleads, value?_refresh_of_not_leads h first hleads]

theorem cell?_eq_of_detail (h : Placed before) (h' : Placed after)
    (hdetail : ∀ event, after.detail event = before.detail event) (address : Address) :
    after.cell? address = before.cell? address := by
  have htext := Detail.text.inj (hdetail ⟨address, .text⟩)
  have hvalue := Detail.value.inj (hdetail ⟨address, .value⟩)
  have hcolor := Detail.color.inj (hdetail ⟨address, .color⟩)
  simp only [text?, value?, color?] at htext hvalue hcolor
  cases hbefore : before.cell? address with
  | none =>
    rw [hbefore] at htext
    exact Option.map_eq_none_iff.mp htext
  | some cell =>
    cases hafter : after.cell? address with
    | none =>
      rw [hbefore, hafter] at htext
      cases htext
    | some cell' =>
      have haddress := (h'.address_eq hafter).trans (h.address_eq hbefore).symm
      rw [hbefore, hafter] at htext hvalue hcolor
      cases cell
      cases cell'
      simp_all

theorem cells_eq_of_cell? (h : Placed before) (h' : Placed after) (hrows : after.rows = before.rows)
    (hcolumns : after.columns = before.columns)
    (hcell : ∀ address, after.cell? address = before.cell? address) :
    after.cells = before.cells := by
  apply Array.ext_getElem?
  intro i
  by_cases hi : i < before.rows * before.columns
  · obtain ⟨address, hcontains, rfl⟩ := exists_index_eq hi
    have hhere := hcell address
    rw [cell?, cell?, contains_congr hrows hcolumns, if_pos hcontains, if_pos hcontains] at hhere
    simpa only [index, hcolumns] using hhere
  · rw [Array.getElem?_eq_none (by rw [h'.size, hrows, hcolumns]; omega),
      Array.getElem?_eq_none (by rw [h.size]; omega)]

theorem graph_refresh (h : Wired (sheet.recompute address).sheet)
    (htight : (sheet.recompute address).sheet.graph.Tight) (enumeration : Graph.Enumeration) :
    (sheet.refresh enumeration address).graph = (sheet.recompute address).sheet.graph := by
  have hinput := sameInput_refresh_of_recompute sheet enumeration address
  apply graph_eq_of_text? h (wired_refresh h enumeration) htight
  · exact (evolves_foldl_propagateStep (sheet.started address) _).graph.tight htight
  · exact hinput.rows
  · exact hinput.columns
  · exact hinput.text

end Sheet

structure Outcome.Alike (first second : Outcome Unit) : Prop where
  result : second.result = first.result
  cells : second.sheet.cells = first.sheet.cells
  graph : second.sheet.graph = first.sheet.graph
  events : second.sheet.events.toList.Perm first.sheet.events.toList

namespace Sheet

variable {sheet : Sheet} {options : Options} {address : Address} {text : String}
  {first second : Graph.Enumeration}

theorem tight_recompute_writeText (h : Evolves (fresh options) sheet) (address : Address)
    (text : String) : ((sheet.writeText address text).recompute address).sheet.graph.Tight := by
  have hwritten := h.trans (sheet.evolves_writeText address text)
  exact tight_of_evolves (hwritten.trans (evolves_recompute _ address))

theorem result_setTextBy_eq (sheet : Sheet) (first second : Graph.Enumeration) (address : Address)
    (text : String) :
    (sheet.setTextBy second address text).result = (sheet.setTextBy first address text).result := by
  cases hcell : sheet.cell? address with
  | none => simp only [setTextBy, hcell]
  | some cell => rw [result_setTextBy hcell, result_setTextBy hcell]

theorem agree_setTextBy (hwired : Wired sheet) (hsheet : Evolves (fresh options) sheet)
    (hcycles : (sheet.setTextBy first address text).sheet.graph.CyclesMeet address)
    (second : Graph.Enumeration) :
    (sheet.setTextBy second address text).sheet.graph =
        (sheet.setTextBy first address text).sheet.graph ∧
      ∀ other, (sheet.setTextBy second address text).sheet.value? other =
        (sheet.setTextBy first address text).sheet.value? other := by
  rcases sheet.setTextBy_sheet_cases first address text with
    ⟨hkept, hfirst⟩ | ⟨cell, hcell, hne, hfirst⟩
  · rcases sheet.setTextBy_sheet_cases second address text with
      ⟨-, hsecond⟩ | ⟨cell, hcell, hne, -⟩
    · rw [hfirst, hsecond]
      exact ⟨rfl, fun _ => rfl⟩
    · simp [text?, hcell, hne] at hkept
  · have hrecomputed := wired_recompute_writeText hwired hcell text
    have htight := tight_recompute_writeText hsheet address text
    rw [hfirst, graph_refresh hrecomputed htight] at hcycles
    rw [hfirst, sheet_setTextBy_of_ne hcell hne, graph_refresh hrecomputed htight,
      graph_refresh hrecomputed htight]
    exact ⟨rfl, value?_refresh_eq hrecomputed hcycles first second⟩

theorem alike_setTextBy (hwired : Wired sheet) (hsheet : Evolves (fresh options) sheet)
    (hcycles : (sheet.setTextBy first address text).sheet.graph.CyclesMeet address)
    (second : Graph.Enumeration) :
    (sheet.setTextBy first address text).Alike (sheet.setTextBy second address text) := by
  obtain ⟨hgraph, hvalue⟩ := agree_setTextBy hwired hsheet hcycles second
  have hresult := sheet.result_setTextBy_eq first second address text
  have hinput := (sheet.sameInput_setTextBy first address text).symm.trans
    (sheet.sameInput_setTextBy second address text)
  have hplaced := placed_of_evolves (hsheet.trans (sheet.evolves_setTextBy first address text))
  have hplaced' := placed_of_evolves (hsheet.trans (sheet.evolves_setTextBy second address text))
  obtain ⟨queued, hqueued⟩ := announced_setTextBy hwired first address text
  obtain ⟨queued', hqueued'⟩ := announced_setTextBy hwired second address text
  generalize sheet.setTextBy first address text = before at *
  generalize sheet.setTextBy second address text = after at *
  have hdetail : ∀ event, after.sheet.detail event = before.sheet.detail event :=
    fun event => hinput.detail_eq fun _ => hvalue event.address
  refine ⟨hresult, ?_, hgraph, ?_⟩
  · apply cells_eq_of_cell? hplaced hplaced' hinput.rows hinput.columns
    exact cell?_eq_of_detail hplaced hplaced' hdetail
  · rw [hqueued.events, hqueued'.events]
    apply List.Perm.append_left
    rw [List.perm_ext_iff_of_nodup hqueued'.nodup hqueued.nodup]
    intro event
    rw [hqueued'.mem, hqueued.mem, hdetail]

theorem alike_setTextIn (steps : List Step) (options : Options) (first second : Graph.Listing)
    (address : Address) (text : String)
    (hcycles : ((Step.run steps (fresh options)).setTextIn first address
      text).sheet.graph.CyclesMeet address) :
    ((Step.run steps (fresh options)).setTextIn first address text).Alike
      ((Step.run steps (fresh options)).setTextIn second address text) := by
  rw [setTextIn_eq] at hcycles ⊢
  rw [setTextIn_eq]
  exact alike_setTextBy (coherent_run steps options).wired (evolves_run _ steps) hcycles _

end Sheet

namespace Graph.Listing

def sorted : Listing where
  readers := Enumeration.sorted.readers
  forgotten := precedents
  examined := precedents
  perm_readers := Enumeration.sorted.perm
  perm_forgotten _ _ := .refl _
  perm_examined _ _ := .refl _

def reversed : Listing where
  readers graph cell := (graph.dependents cell).reverse
  forgotten graph cell := (graph.precedents cell).reverse
  examined graph cell := (graph.precedents cell).reverse
  perm_readers _ _ := List.reverse_perm _
  perm_forgotten _ _ := List.reverse_perm _
  perm_examined _ _ := List.reverse_perm _

end Graph.Listing

namespace Sheet

def diamond : List Step :=
  [.perform .sorted (.setText ⟨0, 1⟩ "=A1+1"), .perform .sorted (.setText ⟨0, 2⟩ "=A1*2"),
    .perform .sorted (.setText ⟨0, 3⟩ "=B1+C1"), .perform .sorted (.setText ⟨0, 0⟩ "5")]

/-- `A1` closes two cycles. The two orders recompute `B1` and `C1` one after the other, or the
other way around. -/
theorem alike_diamond :
    ((Step.run diamond (fresh ⟨1, 4, none⟩)).setTextIn .sorted ⟨0, 0⟩ "=D1").Alike
      ((Step.run diamond (fresh ⟨1, 4, none⟩)).setTextIn .reversed ⟨0, 0⟩ "=D1") ∧
    ((Step.run diamond (fresh ⟨1, 4, none⟩)).setTextIn .sorted ⟨0, 0⟩ "=D1").sheet.events ≠
      ((Step.run diamond (fresh ⟨1, 4, none⟩)).setTextIn .reversed ⟨0, 0⟩ "=D1").sheet.events := by
  constructor
  · exact alike_setTextIn diamond ⟨1, 4, none⟩ .sorted .reversed ⟨0, 0⟩ "=D1" (by decide +kernel)
  · decide +kernel

end Sheet

end Worksheet
