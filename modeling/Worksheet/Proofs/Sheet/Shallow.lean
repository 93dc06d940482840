import Worksheet.Proofs.Sheet.Freshness

namespace Worksheet

namespace Content

def isPlain (text : String) : Bool := ! (ofText text matches .formula _)

end Content

namespace Sheet

variable {sheet : Sheet} {cell : Address} {text : String} {enumeration : Graph.Enumeration}

theorem precedents_read_of_isPlain (sheet : Sheet) (h : Content.isPlain text = true) :
    (sheet.read text).precedents = [] := by
  unfold read
  rw [Content.isPlain] at h
  cases hcontent : Content.ofText text with
  | empty => rfl
  | literal => rfl
  | formula body => simp [hcontent] at h

theorem Wired.reads_iff (h : Wired sheet) (htext : sheet.text? cell = some text)
    (source : Address) : sheet.graph.Reads cell source ↔ source ∈ (sheet.read text).precedents := by
  have hprecedents := h.precedents cell source
  rw [reading, htext, Option.getD_some] at hprecedents
  exact hprecedents

theorem Wired.not_reads_of_isPlain (h : Wired sheet) (htext : sheet.text? cell = some text)
    (hplain : Content.isPlain text = true) (source : Address) :
    ¬ sheet.graph.Reads cell source := by
  rw [h.reads_iff htext, precedents_read_of_isPlain sheet hplain]
  exact List.not_mem_nil

structure Shallow (sheet : Sheet) (cell : Address) (text : String) : Prop where
  written : sheet.text? cell = some text
  sources : ∀ source ∈ (sheet.read text).precedents,
    (sheet.text? source).any Content.isPlain = true

instance (sheet : Sheet) (cell : Address) (text : String) : Decidable (Shallow sheet cell text) :=
  decidable_of_iff (sheet.text? cell = some text ∧ ∀ source ∈ (sheet.read text).precedents,
    (sheet.text? source).any Content.isPlain = true)
    ⟨fun h => ⟨h.1, h.2⟩, fun h => ⟨h.written, h.sources⟩⟩

theorem Wired.not_onCycle_of_isPlain (h : Wired sheet) (htext : sheet.text? cell = some text)
    (hplain : Content.isPlain text = true) : ¬ sheet.graph.OnCycle cell := by
  intro hcycle
  obtain ⟨source, hreads, -⟩ := Relation.TransGen.head'_iff.mp hcycle
  exact h.not_reads_of_isPlain htext hplain source hreads

theorem Shallow.not_onCycle (h : Shallow sheet cell text) (hwired : Wired sheet) :
    ¬ sheet.graph.OnCycle cell := by
  intro hcycle
  obtain ⟨source, hreads, hpath⟩ := Relation.TransGen.head'_iff.mp hcycle
  have hsource := h.sources source ((hwired.reads_iff h.written source).mp hreads)
  obtain ⟨other, hother, hplain⟩ : ∃ other, sheet.text? source = some other ∧
      Content.isPlain other = true := by
    cases hother : sheet.text? source with
    | none => simp [hother] at hsource
    | some other => exact ⟨other, rfl, by simpa [hother] using hsource⟩
  rcases Relation.ReflTransGen.cases_head hpath with heq | ⟨next, hnext, -⟩
  · rw [heq] at hreads hother
    exact hwired.not_reads_of_isPlain hother hplain _ hreads
  · exact hwired.not_reads_of_isPlain hother hplain next hnext

end Sheet

namespace Operation

open Sheet

variable {sheet : Sheet} {cell source : Address} {text : String} {enumeration : Graph.Enumeration}
  {after : List (Graph.Enumeration × Operation)}

theorem settled_of_isPlain (steps : List (Graph.Enumeration × Operation)) (options : Options)
    (htext : (runBy steps (fresh options)).text? source = some text)
    (hplain : Content.isPlain text = true) : Settled (runBy steps (fresh options)) source := by
  have hwired := wired_fresh options
  apply settled_runBy hwired (settled_fresh options source)
  intro first last hsteps hkept
  apply (wired_runBy hwired first).not_onCycle_of_isPlain _ hplain
  rw [← hkept last (List.prefix_refl last), ← hsteps, htext]

theorem settled_of_shallow (hwired : Wired sheet) (hnew : sheet.text? cell ≠ some text)
    (hshallow : ∀ first, first <+: after →
      Shallow (runBy first (sheet.setTextBy enumeration cell text).sheet) cell text) :
    Settled (runBy after (sheet.setTextBy enumeration cell text).sheet) cell := by
  have hentered : Shallow (sheet.setTextBy enumeration cell text).sheet cell text :=
    hshallow [] List.nil_prefix
  have hwired' := wired_setTextBy hwired enumeration cell text
  apply settled_runBy hwired'
  · apply (settled_setTextBy_iff hwired (hentered.not_onCycle hwired')).mpr
    refine .inl (.inl ?_)
    rw [hentered.written]
    exact hnew.symm
  · rintro first last rfl -
    exact (hshallow first (List.prefix_append first last)).not_onCycle (wired_runBy hwired' first)

end Operation

end Worksheet
