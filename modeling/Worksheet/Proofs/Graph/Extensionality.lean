import Mathlib.Logic.Relation
import Mathlib.Tactic.ByContra
import Worksheet.Proofs.Graph.Edges

namespace Worksheet

namespace AdjacencyMap

variable {map other : AdjacencyMap}

def Tight (map : AdjacencyMap) : Prop := ∀ cell ∈ map, map.neighbors cell ≠ ∅

theorem neighbors_of_not_mem {cell : Address} (h : cell ∉ map) : map.neighbors cell = ∅ :=
  Std.ExtTreeMap.getD_eq_fallback h

theorem getElem?_of_mem {cell : Address} (h : cell ∈ map) :
    map[cell]? = some (map.neighbors cell) :=
  Std.ExtTreeMap.getElem?_eq_some_getD h

theorem Tight.mem_iff (h : Tight map) (cell : Address) :
    cell ∈ map ↔ ∃ neighbor, neighbor ∈ map.neighbors cell := by
  constructor
  · intro hcell
    by_contra hnone
    apply h cell hcell
    exact Std.ExtTreeSet.eq_empty_iff_forall_not_mem.mpr (not_exists.mp hnone)
  · rintro ⟨neighbor, hneighbor⟩
    by_contra hcell
    rw [neighbors_of_not_mem hcell] at hneighbor
    exact Std.ExtTreeSet.not_mem_empty hneighbor

theorem eq_of_mem_neighbors_iff (h : Tight map) (h' : Tight other)
    (hneighbors : ∀ cell neighbor, neighbor ∈ map.neighbors cell ↔ neighbor ∈ other.neighbors cell) :
    map = other := by
  apply Std.ExtTreeMap.ext_getElem?
  intro cell
  have hmem : cell ∈ map ↔ cell ∈ other := by
    rw [h.mem_iff, h'.mem_iff]
    exact exists_congr (hneighbors cell)
  by_cases hcell : cell ∈ map
  · rw [getElem?_of_mem hcell, getElem?_of_mem (hmem.mp hcell)]
    exact congrArg some (Std.ExtTreeSet.ext_mem (hneighbors cell))
  · rw [Std.ExtTreeMap.getElem?_eq_none hcell,
      Std.ExtTreeMap.getElem?_eq_none fun hother => hcell (hmem.mpr hother)]

theorem tight_empty : Tight ∅ := by
  intro cell hcell
  exact absurd hcell Std.ExtTreeMap.not_mem_empty

theorem tight_link (h : Tight map) (cell neighbor : Address) : Tight (map.link cell neighbor) := by
  intro kept hkept
  rw [neighbors_link]
  split
  · exact Std.ExtTreeSet.insert_ne_empty
  · rename_i hne
    apply h
    rw [link, Std.ExtTreeMap.mem_insert] at hkept
    exact hkept.resolve_left (by simpa using hne)

theorem tight_erase (h : Tight map) (cell : Address) : Tight (map.erase cell) := by
  intro kept hkept
  rw [Std.ExtTreeMap.mem_erase] at hkept
  rw [neighbors_erase, if_neg (by simpa using hkept.1)]
  exact h kept hkept.2

theorem tight_unlink (h : Tight map) (cell neighbor : Address) :
    Tight (map.unlink cell neighbor) := by
  unfold unlink
  simp only
  split
  · exact tight_erase h cell
  · rename_i hrest
    intro kept hkept
    by_cases hcell : cell = kept
    · subst kept
      rw [Std.ExtTreeSet.isEmpty_iff] at hrest
      simpa [neighbors] using hrest
    · rw [Std.ExtTreeMap.mem_insert] at hkept
      have hkept' := h kept (hkept.resolve_left (by simpa using hcell))
      simpa [neighbors, Std.ExtTreeMap.getD_insert, hcell] using hkept'

end AdjacencyMap

namespace Graph

variable {graph before middle after : Graph}

structure Tight (graph : Graph) : Prop where
  readers : AdjacencyMap.Tight graph.readers
  sources : AdjacencyMap.Tight graph.sources

theorem eq_of_mem_precedents_iff (h : Tight before) (h' : Tight after) (hmirrored : Mirrored before)
    (hmirrored' : Mirrored after)
    (hprecedents : ∀ reader source, source ∈ before.precedents reader ↔
      source ∈ after.precedents reader) : before = after := by
  have hsources : before.sources = after.sources := by
    apply AdjacencyMap.eq_of_mem_neighbors_iff h.sources h'.sources
    intro reader source
    rw [← mem_precedents_iff, ← mem_precedents_iff]
    exact hprecedents reader source
  have hreaders : before.readers = after.readers := by
    apply AdjacencyMap.eq_of_mem_neighbors_iff h.readers h'.readers
    intro source reader
    rw [← mem_dependents_iff, ← mem_dependents_iff, hmirrored, hmirrored']
    exact hprecedents reader source
  cases before
  cases after
  simp_all

theorem tight_empty : Tight empty := ⟨AdjacencyMap.tight_empty, AdjacencyMap.tight_empty⟩

theorem tight_add (h : Tight graph) (precedent dependent : Address) :
    Tight (graph.add precedent dependent) :=
  ⟨AdjacencyMap.tight_link h.readers _ _, AdjacencyMap.tight_link h.sources _ _⟩

theorem tight_clearPrecedents (h : Tight graph) (cell : Address) :
    Tight (graph.clearPrecedents cell) := by
  constructor
  · apply List.foldlRecOn _ _ h.readers
    intro readers hreaders source _
    exact AdjacencyMap.tight_unlink hreaders source cell
  · exact AdjacencyMap.tight_erase h.sources cell

theorem tight_setPrecedents (h : Tight graph) (cell : Address) (sources : List Address) :
    Tight (graph.setPrecedents cell sources) := by
  apply List.foldlRecOn _ _ (tight_clearPrecedents h cell)
  intro later hlater source _
  exact tight_add hlater source cell

def Rewired : Graph → Graph → Prop :=
  Relation.ReflTransGen fun before after => ∃ cell sources, after = before.setPrecedents cell sources

theorem rewired_setPrecedents (graph : Graph) (cell : Address) (sources : List Address) :
    Rewired graph (graph.setPrecedents cell sources) := .single ⟨cell, sources, rfl⟩

theorem Rewired.tight (h : Rewired before after) (htight : Tight before) : Tight after := by
  induction h with
  | refl => exact htight
  | tail _ hstep ih =>
    obtain ⟨cell, sources, rfl⟩ := hstep
    exact tight_setPrecedents ih cell sources

end Graph

end Worksheet
