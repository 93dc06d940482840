import Worksheet.Graph.Walk

namespace Worksheet.Graph

def Mirrored (graph : Graph) : Prop :=
  ∀ reader source, reader ∈ graph.dependents source ↔ source ∈ graph.precedents reader

variable {graph : Graph} {cell source : Address}

theorem mirrored_empty : Mirrored empty := by
  intro reader source
  rw [mem_dependents_iff, mem_precedents_iff]
  simp [empty, AdjacencyMap.neighbors]

theorem mirrored_add (h : Mirrored graph) (precedent dependent : Address) :
    Mirrored (graph.add precedent dependent) := by
  intro reader source
  rw [mem_dependents_add, mem_precedents_add, h reader source, and_comm]

theorem mirrored_clearPrecedents (h : Mirrored graph) (cell : Address) :
    Mirrored (graph.clearPrecedents cell) := by
  intro reader source
  rw [mem_dependents_clearPrecedents, mem_precedents_clearPrecedents, h reader source]
  constructor
  · rintro ⟨hedge, hcleared⟩
    exact ⟨fun heq => hcleared ⟨heq ▸ hedge, heq.symm⟩, hedge⟩
  · rintro ⟨hne, hedge⟩
    exact ⟨hedge, fun hcleared => hne hcleared.2.symm⟩

theorem mirrored_setPrecedents (h : Mirrored graph) (cell : Address) (sources : List Address) :
    Mirrored (graph.setPrecedents cell sources) := by
  unfold setPrecedents
  generalize hstart : graph.clearPrecedents cell = start
  have hmirrored : Mirrored start := hstart ▸ mirrored_clearPrecedents h cell
  clear hstart
  induction sources generalizing start with
  | nil => exact hmirrored
  | cons source sources ih => exact ih _ (mirrored_add hmirrored source cell)

inductive Edit where
  | add (precedent dependent : Address)
  | clear (cell : Address)
deriving DecidableEq, Repr

def Edit.apply (edit : Edit) (graph : Graph) : Graph :=
  match edit with
  | add precedent dependent => graph.add precedent dependent
  | clear cell => graph.clearPrecedents cell

def build (edits : List Edit) : Graph := edits.foldl (fun graph edit => edit.apply graph) empty

theorem mirrored_apply (h : Mirrored graph) (edit : Edit) : Mirrored (edit.apply graph) := by
  cases edit with
  | add precedent dependent => exact mirrored_add h precedent dependent
  | clear cell => exact mirrored_clearPrecedents h cell

theorem mirrored_build (edits : List Edit) : Mirrored (build edits) := by
  apply List.foldlRecOn _ _ mirrored_empty
  intro graph hgraph edit _
  exact mirrored_apply hgraph edit

theorem nodup_precedents (graph : Graph) (cell : Address) : (graph.precedents cell).Nodup := by
  apply Std.ExtTreeSet.distinct_toList.imp
  rintro source _ hne rfl
  exact hne Std.ReflCmp.compare_self

theorem mem_sources_of_mem_precedents (h : source ∈ graph.precedents cell) :
    cell ∈ graph.sources := by
  rw [mem_precedents_iff, AdjacencyMap.neighbors] at h
  refine Decidable.byContradiction fun hcell => ?_
  rw [Std.ExtTreeMap.getD_eq_fallback hcell] at h
  simp at h

end Worksheet.Graph
