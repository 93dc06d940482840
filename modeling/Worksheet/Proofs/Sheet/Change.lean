import Worksheet.Proofs.Sheet.Refresh

namespace Worksheet.Sheet

variable {sheet before after : Sheet} {address other : Address} {cell : Cell} {text : String}
  {enumeration : Graph.Enumeration}

theorem value?_writeText (sheet : Sheet) (address other : Address) (text : String) :
    (sheet.writeText address text).value? other = sheet.value? other := by
  rw [value?_eq_map, value?_eq_map, cell?_writeText]
  split
  · cases sheet.cell? other <;> rfl
  · rfl

theorem color?_writeText (sheet : Sheet) (address other : Address) (text : String) :
    (sheet.writeText address text).color? other = sheet.color? other := by
  rw [color?, color?, cell?_writeText]
  split
  · cases sheet.cell? other <;> rfl
  · rfl

theorem text?_writeText (hcell : sheet.cell? address = some cell) (other : Address)
    (text : String) : (sheet.writeText address text).text? other =
      if address = other then some text else sheet.text? other := by
  rw [text?, text?, cell?_writeText]
  split
  · subst other
    rw [hcell]
    rfl
  · rfl

theorem sameInput_writeText (h : sheet.text? address = some text ∨ sheet.text? address = none) :
    SameInput (sheet.writeText address text) sheet := by
  have hframe := sheet.sameFrame_writeText address text
  refine ⟨hframe.rows.symm, hframe.columns.symm, hframe.size.symm, hframe.history.symm,
    fun other => ?_, fun other => (color?_writeText _ _ _ _).symm⟩
  rw [text?, text?, cell?_writeText]
  split
  · subst other
    rw [text?] at h
    cases hcell : sheet.cell? address <;> simp_all
  · rfl

theorem sameShape_writeText (sheet : Sheet) (address : Address) (text : String) :
    SameShape sheet (sheet.writeText address text) :=
  have h := sheet.sameFrame_writeText address text
  ⟨h.rows, h.columns, h.size⟩

theorem setTextBy_sheet_cases (sheet : Sheet) (enumeration : Graph.Enumeration)
    (address : Address) (text : String) :
    ((sheet.text? address = some text ∨ sheet.text? address = none) ∧
      (sheet.setTextBy enumeration address text).sheet = sheet) ∨
    ∃ cell, sheet.cell? address = some cell ∧ cell.text ≠ text ∧
      (sheet.setTextBy enumeration address text).sheet =
        (sheet.writeText address text).refresh enumeration address := by
  unfold setTextBy text?
  cases hcell : sheet.cell? address with
  | none => exact .inl ⟨.inr rfl, rfl⟩
  | some cell =>
    by_cases htext : cell.text = text
    · exact .inl ⟨.inl (congrArg some htext), by simp [htext]⟩
    · refine .inr ⟨cell, rfl, htext, ?_⟩
      simp only [htext, ↓reduceIte, refresh, visited]
      by_cases hchanged : ((sheet.writeText address text).recompute address).changed
      · simp only [hchanged, ↓reduceIte]
        split <;> rfl
      · simp only [hchanged, Bool.false_eq_true, ↓reduceIte, List.foldl_nil]
        split <;> rfl

theorem sheet_setTextBy_of_ne (hcell : sheet.cell? address = some cell) (htext : cell.text ≠ text)
    (enumeration : Graph.Enumeration) : (sheet.setTextBy enumeration address text).sheet =
      (sheet.writeText address text).refresh enumeration address := by
  rcases sheet.setTextBy_sheet_cases enumeration address text with
    ⟨hkept, -⟩ | ⟨-, -, -, hsheet⟩
  · simp [text?, hcell, htext] at hkept
  · exact hsheet

theorem result_setTextBy (hcell : sheet.cell? address = some cell)
    (enumeration : Graph.Enumeration) (text : String) :
    (sheet.setTextBy enumeration address text).result =
      if cell.text = text then .ok () else (sheet.read text).answer := by
  have hframe := sheet.sameFrame_writeText address text
  have herror : ((sheet.writeText address text).recompute address).error =
      (sheet.read text).error := by
    rw [error_recompute, reading, text?_writeText hcell, if_pos rfl, Option.getD_some]
    exact error_read_congr hframe.rows hframe.columns text
  simp only [setTextBy, hcell]
  split
  · rfl
  · rw [Reading.answer, ← herror]
    cases ((sheet.writeText address text).recompute address).error <;> rfl

theorem sameInput_setTextBy (sheet : Sheet) (enumeration : Graph.Enumeration)
    (address : Address) (text : String) :
    SameInput (sheet.writeText address text)
      (sheet.setTextBy enumeration address text).sheet := by
  rcases sheet.setTextBy_sheet_cases enumeration address text with
    ⟨htext, heq⟩ | ⟨cell, hcell, -, heq⟩
  · rw [heq]
    exact sameInput_writeText htext
  · rw [heq]
    exact sameInput_refresh _ _ _

theorem sameShape_setTextBy (sheet : Sheet) (enumeration : Graph.Enumeration) (address : Address)
    (text : String) : SameShape sheet (sheet.setTextBy enumeration address text).sheet :=
  have h := sheet.sameInput_setTextBy enumeration address text
  (sheet.sameShape_writeText address text).trans ⟨h.rows, h.columns, h.size⟩

theorem text?_setTextBy (sheet : Sheet) (enumeration : Graph.Enumeration)
    (address other : Address) (text : String) :
    (sheet.setTextBy enumeration address text).sheet.text? other =
      if address = other then (sheet.text? other).map fun _ => text else sheet.text? other := by
  rw [(sheet.sameInput_setTextBy enumeration address text).text, text?, text?, cell?_writeText]
  split
  · cases sheet.cell? other <;> rfl
  · rfl

theorem wired_recompute_writeText (h : Wired sheet) (hcell : sheet.cell? address = some cell)
    (text : String) : Wired ((sheet.writeText address text).recompute address).sheet := by
  have hframe := sheet.sameFrame_writeText address text
  have hcell' : (sheet.writeText address text).cell? address = some { cell with text } := by
    rw [cell?_writeText, if_pos rfl, hcell]
    rfl
  refine wired_recompute hcell' (hframe.graph ▸ h.mirrored) fun reader hreader source => ?_
  rw [precedents, hframe.graph, reading, text?_writeText hcell, if_neg (Ne.symm hreader),
    precedents_read_congr hframe.rows hframe.columns]
  exact h.precedents reader source

theorem wired_setTextBy (h : Wired sheet) (enumeration : Graph.Enumeration)
    (address : Address) (text : String) :
    Wired (sheet.setTextBy enumeration address text).sheet := by
  rcases sheet.setTextBy_sheet_cases enumeration address text with
    ⟨htext, heq⟩ | ⟨cell, hcell, -, heq⟩
  · rwa [heq]
  · rw [heq]
    exact wired_refresh (wired_recompute_writeText h hcell text) enumeration

theorem reads_congr (h : SameInput before after) (hbefore : Wired before) (hafter : Wired after) :
    before.graph.Reads = after.graph.Reads := by
  funext reader source
  rw [Graph.Reads, Graph.Reads, ← precedents, ← precedents, hbefore.precedents,
    hafter.precedents, h.precedents_reading]

theorem onCycle_congr (h : SameInput before after) (hbefore : Wired before) (hafter : Wired after)
    (address : Address) : before.graph.OnCycle address ↔ after.graph.OnCycle address := by
  rw [Graph.OnCycle, Graph.OnCycle, reads_congr h hbefore hafter]

theorem settled_writeText_iff (hcell : sheet.cell? address = some cell) (hne : other ≠ address)
    (text : String) : Settled (sheet.writeText address text) other ↔ Settled sheet other := by
  have hframe := sheet.sameFrame_writeText address text
  rw [Settled, value?_writeText, reading, text?_writeText hcell, if_neg (Ne.symm hne),
    read_congr hframe.rows hframe.columns fun source _ => value?_writeText _ _ _ _]
  rfl

def Touched (before after : Sheet) (address : Address) : Prop :=
  after.text? address ≠ before.text? address ∨
    ∃ source ∈ (after.reading address).precedents, after.value? source ≠ before.value? source

theorem not_touched_self (sheet : Sheet) (address : Address) : ¬ Touched sheet sheet address := by
  rintro (htext | ⟨source, -, hvalue⟩)
  · exact htext rfl
  · exact hvalue rfl

theorem touched_refresh_iff (hcell : sheet.cell? address = some cell) (hne : other ≠ address) :
    Touched sheet ((sheet.writeText address text).refresh enumeration address) other ↔
      ∃ source ∈ ((sheet.writeText address text).reading other).precedents,
        ((sheet.writeText address text).refresh enumeration address).value? source ≠
          (sheet.writeText address text).value? source := by
  have hsame := sameInput_refresh (sheet.writeText address text) enumeration address
  have htext : ((sheet.writeText address text).refresh enumeration address).text? other =
      sheet.text? other := by
    rw [hsame.text, text?_writeText hcell, if_neg (Ne.symm hne)]
  simp only [Touched, htext, ne_eq, not_true_eq_false, false_or, hsame.precedents_reading,
    value?_writeText]

theorem settled_refresh_writeText_iff
    (h : Wired ((sheet.writeText address text).recompute address).sheet)
    (hcell : sheet.cell? address = some cell) (hne : other ≠ address)
    (hoff : ¬ ((sheet.writeText address text).recompute address).sheet.graph.OnCycle other) :
    Settled ((sheet.writeText address text).refresh enumeration address) other ↔
      Touched sheet ((sheet.writeText address text).refresh enumeration address) other ∨
        Settled sheet other := by
  rw [touched_refresh_iff hcell hne, ← settled_writeText_iff hcell hne text]
  generalize sheet.writeText address text = written at h hoff ⊢
  have hinput := sameInput_refresh written enumeration address
  have havoiding : ¬ (written.recompute address).sheet.graph.OnCycleAvoiding address other :=
    fun hcycle => hoff hcycle.onCycle
  constructor
  · intro hsettled
    refine or_iff_not_imp_left.mpr fun hsame => ?_
    simp only [not_exists, not_and, not_not] at hsame
    refine settled_congr hinput.symm hsettled (value?_refresh_of_ne h havoiding hne hsame).symm ?_
    rw [hinput.precedents_reading]
    exact fun source hsource => (hsame source hsource).symm
  · rintro hbefore
    apply settled_refresh_of_ne h havoiding hne
    intro hsame
    apply hbefore.resolve_left
    rintro ⟨source, hsource, hvalue⟩
    exact hvalue (hsame source hsource)

/-- An edit settles the cells off the cycles that it touches, and leaves the others as they were. -/
theorem settled_setTextBy_iff (h : Wired sheet)
    (hoff : ¬ (sheet.setTextBy enumeration address text).sheet.graph.OnCycle other) :
    Settled (sheet.setTextBy enumeration address text).sheet other ↔
      Touched sheet (sheet.setTextBy enumeration address text).sheet other ∨
        Settled sheet other := by
  rcases sheet.setTextBy_sheet_cases enumeration address text with
    ⟨-, heq⟩ | ⟨cell, hcell, htext, heq⟩
  · rw [heq, or_iff_right (sheet.not_touched_self other)]
  · have hwired := wired_recompute_writeText h hcell text
    rw [heq, ← onCycle_congr (sameInput_refresh_of_recompute _ _ _) hwired
      (wired_refresh hwired enumeration)] at hoff
    rw [heq]
    by_cases hne : other = address
    · subst other
      refine ⟨fun _ => .inl (.inl ?_), fun _ => settled_refresh_self hwired hoff⟩
      rw [(sameInput_refresh _ _ _).text, text?_writeText hcell, if_pos rfl, text?, hcell]
      simpa using Ne.symm htext
    · exact settled_refresh_writeText_iff hwired hcell hne hoff

end Worksheet.Sheet
