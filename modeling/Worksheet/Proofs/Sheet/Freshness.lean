import Mathlib.Data.List.Induction
import Mathlib.Data.List.Infix
import Worksheet.Proofs.Sheet.Meaning
import Worksheet.Proofs.Sheet.Operation

/-!
No stale values. Whatever is done to a sheet, a cell that was on no cycle since its text was entered
has the value that its text means, even if there are cycles elsewhere.
-/

namespace Worksheet

namespace Sheet

variable {options : Options} {address : Address} {cell : Cell}

theorem eq_blank_of_cell?_fresh (h : (fresh options).cell? address = some cell) :
    ∃ position, cell = Cell.blank position := by
  unfold cell? at h
  split at h
  · simp only [fresh, blankCells, Array.getElem?_ofFn] at h
    split at h
    · exact ⟨_, (Option.some.inj h).symm⟩
    · simp at h
  · simp at h

theorem reading_fresh (options : Options) (address : Address) :
    (fresh options).reading address = ⟨none, [], none⟩ := by
  cases hcell : (fresh options).cell? address with
  | none => exact reading_of_cell?_none hcell
  | some cell =>
    obtain ⟨position, rfl⟩ := eq_blank_of_cell?_fresh hcell
    rw [reading_of_cell? hcell]
    rfl

theorem wired_fresh (options : Options) : Wired (fresh options) where
  mirrored := Graph.mirrored_empty
  precedents reader source := by
    rw [reading_fresh, precedents, Graph.mem_precedents_iff]
    simp [fresh, Graph.empty, AdjacencyMap.neighbors]

theorem settled_fresh (options : Options) (address : Address) :
    Settled (fresh options) address := by
  rw [Settled, reading_fresh, value?_eq_map]
  cases hcell : (fresh options).cell? address with
  | none => rfl
  | some cell =>
    obtain ⟨position, rfl⟩ := eq_blank_of_cell?_fresh hcell
    rfl

end Sheet

namespace Operation

open Sheet

variable {sheet : Sheet} {address : Address} {steps : List (Graph.Enumeration × Operation)}

theorem wired_performBy (h : Wired sheet) (operation : Operation)
    (enumeration : Graph.Enumeration) : Wired (operation.performBy enumeration sheet).sheet := by
  have hresult := operation.result_performBy enumeration sheet
  generalize (operation.performBy enumeration sheet).sheet = after at hresult ⊢
  cases hresult with
  | colored history cells color =>
    exact ((sameContent_withHistory sheet history).trans (sameContent_foldl_paint _ _ _)).wired h
  | entered history address text =>
    exact wired_setTextBy ((sameContent_withHistory sheet history).wired h) _ _ _

theorem settled_performBy_iff (h : Wired sheet) (operation : Operation)
    (enumeration : Graph.Enumeration)
    (hoff : ¬ (operation.performBy enumeration sheet).sheet.graph.OnCycle address) :
    Settled (operation.performBy enumeration sheet).sheet address ↔
      Touched sheet (operation.performBy enumeration sheet).sheet address ∨
        Settled sheet address := by
  have hresult := operation.result_performBy enumeration sheet
  generalize (operation.performBy enumeration sheet).sheet = after at hoff hresult ⊢
  cases hresult with
  | colored history cells color =>
    have hsame := (sameContent_withHistory sheet history).trans
      (sameContent_foldl_paint color _ cells)
    rw [hsame.settled_iff, ← hsame.touched_iff, or_iff_right (not_touched_self _ _)]
  | entered history entry text =>
    have hsame := sameContent_withHistory sheet history
    rw [settled_setTextBy_iff (hsame.wired h) hoff, hsame.touched_iff, hsame.settled_iff]

theorem wired_runBy (h : Wired sheet) (steps : List (Graph.Enumeration × Operation)) :
    Wired (runBy steps sheet) := by
  induction steps using List.reverseRecOn with
  | nil => exact h
  | append_singleton steps step ih =>
    rw [runBy_concat]
    exact wired_performBy ih step.2 step.1

/-- The cell is on no cycle in any state since its text was last changed. -/
def OffCycle (steps : List (Graph.Enumeration × Operation)) (sheet : Sheet) (address : Address) :
    Prop :=
  ∀ first last, steps = first ++ last →
    (∀ middle, middle <+: last →
      (runBy (first ++ middle) sheet).text? address = (runBy first sheet).text? address) →
    ¬ (runBy first sheet).graph.OnCycle address

theorem OffCycle.last (h : OffCycle steps sheet address) :
    ¬ (runBy steps sheet).graph.OnCycle address :=
  h steps [] (List.append_nil _).symm fun middle hmiddle => by
    rw [List.prefix_nil.mp hmiddle, List.append_nil]

theorem OffCycle.init {step : Graph.Enumeration × Operation}
    (h : OffCycle (steps ++ [step]) sheet address)
    (htext : (runBy (steps ++ [step]) sheet).text? address = (runBy steps sheet).text? address) :
    OffCycle steps sheet address := by
  intro first last hsteps hkept
  refine h first (last ++ [step]) (by rw [hsteps, List.append_assoc]) fun middle hmiddle => ?_
  rcases List.prefix_concat_iff.mp hmiddle with rfl | hmiddle
  · rw [← List.append_assoc, ← hsteps, htext, hsteps]
    exact hkept last (List.prefix_refl _)
  · exact hkept middle hmiddle

theorem settled_runBy (hwired : Wired sheet) (hsettled : Settled sheet address)
    (hoff : OffCycle steps sheet address) : Settled (runBy steps sheet) address := by
  induction steps using List.reverseRecOn with
  | nil => exact hsettled
  | append_singleton steps step ih =>
    have hlast := hoff.last
    have hinit : (runBy (steps ++ [step]) sheet).text? address = (runBy steps sheet).text? address →
        Settled (runBy steps sheet) address := fun htext => ih (hoff.init htext)
    rw [runBy_concat] at hlast hinit ⊢
    rw [settled_performBy_iff (wired_runBy hwired steps) step.2 step.1 hlast]
    exact or_iff_not_imp_left.mpr fun htouched => hinit (not_ne_iff.mp (not_or.mp htouched).1)

theorem value_eq_meaning_of_offCycle {options : Options} {cell : Cell}
    (hcell : (runBy steps (fresh options)).cell? address = some cell)
    (hoff : OffCycle steps (fresh options) address) :
    cell.value = (runBy steps (fresh options)).meaning cell.text := by
  have hsettled := settled_runBy (wired_fresh options) (settled_fresh options address) hoff
  rw [Settled, reading_of_cell? hcell, read_value, value?_eq_map, hcell] at hsettled
  exact hsettled

/-- The cells `A1` and `B1` read each other, and the others stand beside the cycle. -/
def besideCycle : List (Graph.Enumeration × Operation) :=
  [(.sorted, .setText ⟨0, 0⟩ "5"), (.sorted, .setText ⟨0, 1⟩ "=A1+1"),
    (.sorted, .setText ⟨0, 0⟩ "=B1"), (.sorted, .setText ⟨0, 2⟩ "\t= (A1\u00A0+ 1) * 2"),
    (.sorted, .setText ⟨0, 3⟩ "note"), (.sorted, .setText ⟨0, 4⟩ "= D1 - a1 /\t4"),
    (.sorted, .setText ⟨0, 5⟩ " = b1"), (.sorted, .setText ⟨0, 6⟩ "= A1 + Z9")]

theorem offCycle_of_dependents_eq_nil (hwired : Wired sheet)
    (h : ∀ first ∈ steps.inits, (runBy first sheet).dependents address = []) :
    OffCycle steps sheet address := by
  intro first last hsteps _ hcycle
  have hinits := h first ((List.mem_inits _ _).mpr ⟨last, hsteps.symm⟩)
  obtain ⟨reader, -, hreads⟩ := Relation.TransGen.tail'_iff.mp hcycle
  have hreader := ((wired_runBy hwired first).mirrored reader address).mpr hreads
  rw [← dependents, hinits] at hreader
  exact List.not_mem_nil hreader

theorem value_besideCycle :
    (runBy besideCycle (fresh ⟨1, 7, none⟩)).graph.OnCycle ⟨0, 0⟩ ∧
      some "14" = (runBy besideCycle (fresh ⟨1, 7, none⟩)).meaning "\t= (A1\u00A0+ 1) * 2" ∧
      some "-1.5" = (runBy besideCycle (fresh ⟨1, 7, none⟩)).meaning "= D1 - a1 /\t4" ∧
      some "7" = (runBy besideCycle (fresh ⟨1, 7, none⟩)).meaning " = b1" ∧
      some "REF ERROR" = (runBy besideCycle (fresh ⟨1, 7, none⟩)).meaning "= A1 + Z9" := by
  have hfirst : (runBy besideCycle (fresh ⟨1, 7, none⟩)).graph.Reads ⟨0, 0⟩ ⟨0, 1⟩ := by
    rw [Graph.Reads]
    decide +kernel
  have hsecond : (runBy besideCycle (fresh ⟨1, 7, none⟩)).graph.Reads ⟨0, 1⟩ ⟨0, 0⟩ := by
    rw [Graph.Reads]
    decide +kernel
  have hvalue {cell : Cell}
      (hcell : (runBy besideCycle (fresh ⟨1, 7, none⟩)).cell? cell.address = some cell)
      (hunread : ∀ first ∈ besideCycle.inits,
        (runBy first (fresh ⟨1, 7, none⟩)).dependents cell.address = []) :
      cell.value = (runBy besideCycle (fresh ⟨1, 7, none⟩)).meaning cell.text :=
    value_eq_meaning_of_offCycle hcell (offCycle_of_dependents_eq_nil (wired_fresh _) hunread)
  refine ⟨.head hfirst (.single hsecond), ?_, ?_, ?_, ?_⟩
  · exact @hvalue ⟨⟨0, 2⟩, _, some "14", Color.white⟩ (by decide +kernel) (by decide +kernel)
  · exact @hvalue ⟨⟨0, 4⟩, _, some "-1.5", Color.white⟩ (by decide +kernel) (by decide +kernel)
  · exact @hvalue ⟨⟨0, 5⟩, _, some "7", Color.white⟩ (by decide +kernel) (by decide +kernel)
  · exact @hvalue ⟨⟨0, 6⟩, _, some "REF ERROR", Color.white⟩ (by decide +kernel) (by decide +kernel)

end Operation

end Worksheet
