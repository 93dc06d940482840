import Std.Data.ExtTreeMap
import Std.Data.ExtTreeSet
import Worksheet.Address.Basic

namespace Worksheet

abbrev AddressSet := Std.ExtTreeSet Address

abbrev AdjacencyMap := Std.ExtTreeMap Address AddressSet

structure Graph where
  readers : AdjacencyMap
  sources : AdjacencyMap
deriving DecidableEq

namespace AdjacencyMap

def neighbors (map : AdjacencyMap) (cell : Address) : AddressSet := map.getD cell ∅

def link (map : AdjacencyMap) (cell neighbor : Address) : AdjacencyMap :=
  map.insert cell ((map.neighbors cell).insert neighbor)

def unlink (map : AdjacencyMap) (cell neighbor : Address) : AdjacencyMap :=
  let rest := (map.neighbors cell).erase neighbor
  if rest.isEmpty then map.erase cell else map.insert cell rest

theorem neighbors_link (map : AdjacencyMap) (cell neighbor other : Address) :
    (map.link cell neighbor).neighbors other =
      if cell = other then (map.neighbors cell).insert neighbor else map.neighbors other := by
  simp [link, neighbors, Std.ExtTreeMap.getD_insert]

theorem neighbors_unlink (map : AdjacencyMap) (cell neighbor other : Address) :
    (map.unlink cell neighbor).neighbors other =
      if cell = other then (map.neighbors cell).erase neighbor else map.neighbors other := by
  unfold unlink
  by_cases hempty : ((map.neighbors cell).erase neighbor).isEmpty
  · rw [if_pos hempty, Std.ExtTreeSet.isEmpty_iff.mp hempty]
    simp [neighbors, Std.ExtTreeMap.getD_erase]
  · rw [if_neg hempty]
    simp [neighbors, Std.ExtTreeMap.getD_insert]

theorem neighbors_erase (map : AdjacencyMap) (cell other : Address) :
    AdjacencyMap.neighbors (map.erase cell) other =
      if cell = other then ∅ else map.neighbors other := by
  simp [neighbors, Std.ExtTreeMap.getD_erase]

end AdjacencyMap

namespace Graph

def empty : Graph := ⟨∅, ∅⟩

instance : Inhabited Graph := ⟨empty⟩

def precedents (graph : Graph) (cell : Address) : List Address :=
  (graph.sources.neighbors cell).toList

def dependents (graph : Graph) (cell : Address) : List Address :=
  (graph.readers.neighbors cell).toList

def add (graph : Graph) (precedent dependent : Address) : Graph where
  readers := graph.readers.link precedent dependent
  sources := graph.sources.link dependent precedent

def clearPrecedents (graph : Graph) (cell : Address) : Graph where
  readers := (graph.precedents cell).foldl (fun readers source => readers.unlink source cell)
    graph.readers
  sources := graph.sources.erase cell

def setPrecedents (graph : Graph) (cell : Address) (precedents : List Address) : Graph :=
  precedents.foldl (fun graph precedent => graph.add precedent cell) (graph.clearPrecedents cell)

variable {graph : Graph} {cell other precedent dependent : Address}

theorem mem_precedents_iff :
    other ∈ graph.precedents cell ↔ other ∈ graph.sources.neighbors cell := by
  simp [precedents]

theorem mem_dependents_iff :
    other ∈ graph.dependents cell ↔ other ∈ graph.readers.neighbors cell := by
  simp [dependents]

theorem mem_precedents_add :
    other ∈ (graph.add precedent dependent).precedents cell ↔
      (dependent = cell ∧ precedent = other) ∨ other ∈ graph.precedents cell := by
  rw [mem_precedents_iff, mem_precedents_iff, add, AdjacencyMap.neighbors_link]
  split <;> simp_all

theorem mem_dependents_add :
    other ∈ (graph.add precedent dependent).dependents cell ↔
      (precedent = cell ∧ dependent = other) ∨ other ∈ graph.dependents cell := by
  rw [mem_dependents_iff, mem_dependents_iff, add, AdjacencyMap.neighbors_link]
  split <;> simp_all

theorem mem_precedents_clearPrecedents :
    other ∈ (graph.clearPrecedents dependent).precedents cell ↔
      dependent ≠ cell ∧ other ∈ graph.precedents cell := by
  rw [mem_precedents_iff, mem_precedents_iff, clearPrecedents, AdjacencyMap.neighbors_erase]
  split <;> simp_all

theorem mem_dependents_clearPrecedents :
    other ∈ (graph.clearPrecedents dependent).dependents cell ↔
      other ∈ graph.dependents cell ∧
        ¬ (cell ∈ graph.precedents dependent ∧ other = dependent) := by
  have hfold (sources : List Address) (readers : AdjacencyMap) :
      other ∈ (sources.foldl (fun readers source => readers.unlink source dependent)
          readers).neighbors cell ↔
        other ∈ readers.neighbors cell ∧ ¬ (cell ∈ sources ∧ other = dependent) := by
    induction sources generalizing readers with
    | nil => simp
    | cons source sources ih => grind [AdjacencyMap.neighbors_unlink]
  rw [mem_dependents_iff, mem_dependents_iff, clearPrecedents]
  exact hfold _ _

theorem mem_precedents_setPrecedents {sources : List Address} :
    other ∈ (graph.setPrecedents dependent sources).precedents cell ↔
      if dependent = cell then other ∈ sources else other ∈ graph.precedents cell := by
  have hfold (start : Graph) :
      other ∈ (sources.foldl (fun graph source => graph.add source dependent) start).precedents
          cell ↔
        (dependent = cell ∧ other ∈ sources) ∨ other ∈ start.precedents cell := by
    induction sources generalizing start with
    | nil => simp
    | cons source sources ih => grind [mem_precedents_add]
  rw [setPrecedents, hfold, mem_precedents_clearPrecedents]
  split <;> simp_all

end Graph

end Worksheet
