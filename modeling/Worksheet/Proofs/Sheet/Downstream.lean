import Worksheet.Proofs.Sheet.Confluence

namespace Worksheet

namespace Graph

variable {graph : Graph}

theorem precedents_eq_of_mem_iff {before after : Graph} {cell : Address}
    (h : ∀ source, source ∈ after.precedents cell ↔ source ∈ before.precedents cell) :
    after.precedents cell = before.precedents cell := by
  have hneighbors : after.sources.neighbors cell = before.sources.neighbors cell := by
    apply Std.ExtTreeSet.ext_mem
    intro source
    rw [← mem_precedents_iff, ← mem_precedents_iff]
    exact h source
  rw [precedents, precedents, hneighbors]

def Downstream (graph : Graph) : Address → Address → Prop :=
  Relation.ReflTransGen fun source reader => reader ∈ graph.dependents source

theorem downstream_iff (h : graph.Mirrored) (source cell : Address) :
    graph.Downstream source cell ↔ Relation.ReflTransGen graph.Reads cell source := by
  have hedge : graph.Reads = Function.swap fun source reader => reader ∈ graph.dependents source := by
    funext reader source
    exact propext (h reader source).symm
  rw [Downstream, hedge, Relation.reflTransGen_swap]

end Graph

namespace Sheet

variable {sheet : Sheet} {origin : Address} {cell : Cell} {text : String}
  {enumeration : Graph.Enumeration}

structure Confined (before after : Sheet) (origin : Address) : Prop where
  shape : SameShape before after
  history : after.history = before.history
  text : ∀ other ≠ origin, after.text? other = before.text? other
  color : ∀ other, after.color? other = before.color? other
  precedents : ∀ other ≠ origin, after.precedents other = before.precedents other
  value : ∀ other, ¬ after.graph.Downstream origin other → after.value? other = before.value? other

theorem precedents_setTextBy (h : Wired sheet) (enumeration : Graph.Enumeration) (text : String)
    {other : Address} (hne : other ≠ origin) :
    (sheet.setTextBy enumeration origin text).sheet.precedents other = sheet.precedents other := by
  have hshape := sheet.sameShape_setTextBy enumeration origin text
  apply Graph.precedents_eq_of_mem_iff
  intro source
  apply ((wired_setTextBy h enumeration origin text).precedents other source).trans
  rw [reading, text?_setTextBy, if_neg (Ne.symm hne),
    precedents_read_congr hshape.rows hshape.columns]
  exact (h.precedents other source).symm

theorem value?_setTextBy_of_not_downstream (h : Wired sheet) {other : Address}
    (hother : ¬ (sheet.setTextBy enumeration origin text).sheet.graph.Downstream origin other) :
    (sheet.setTextBy enumeration origin text).sheet.value? other = sheet.value? other := by
  rcases sheet.setTextBy_sheet_cases enumeration origin text with
    ⟨-, heq⟩ | ⟨cell, hcell, -, heq⟩
  · rw [heq]
  · have hwired := wired_recompute_writeText h hcell text
    have hafter := wired_refresh hwired enumeration
    have hreads := reads_congr (sameInput_refresh_of_recompute _ enumeration origin) hwired hafter
    rw [heq] at hother ⊢
    rw [Graph.downstream_iff hafter.mirrored, ← hreads] at hother
    rw [value?_refresh_of_not_leads hwired enumeration hother, value?_writeText]

theorem confined_setTextBy_run (steps : List Step) (options : Options)
    (enumeration : Graph.Enumeration) (origin : Address) (text : String) :
    Confined (Step.run steps (fresh options))
      ((Step.run steps (fresh options)).setTextBy enumeration origin text).sheet origin := by
  have hwired := (coherent_run steps options).wired
  generalize Step.run steps (fresh options) = sheet at hwired
  constructor
  case shape => exact sameShape_setTextBy sheet enumeration origin text
  case history => exact history_setTextBy sheet enumeration origin text
  case text =>
    intro other hne
    rw [text?_setTextBy, if_neg (Ne.symm hne)]
  case color =>
    intro other
    rw [(sheet.sameInput_setTextBy enumeration origin text).color, color?_writeText]
  case precedents =>
    intro other hne
    exact precedents_setTextBy hwired enumeration text hne
  case value =>
    intro other hother
    exact value?_setTextBy_of_not_downstream hwired hother

end Sheet

end Worksheet
