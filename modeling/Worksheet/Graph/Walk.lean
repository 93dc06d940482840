import Worksheet.Graph.Basic

/-!
Walks along the edges of a graph. The order of recalculation is the reverse of the order in which a
depth-first walk along readers finishes its cells. Both walks take the order in which the neighbors
of a cell are listed as a parameter, and both end because the cells still to visit get fewer.
-/

namespace Worksheet

theorem AdjacencyMap.size_erase_lt {map : AdjacencyMap} {cell : Address} (h : cell ∈ map) :
    (map.erase cell).size < map.size := by
  have hsize := Std.ExtTreeMap.size_erase (t := map) (k := cell)
  have hpos : map.size ≠ 0 := by
    intro hzero
    rw [← Std.ExtTreeMap.eq_empty_iff_size_eq_zero] at hzero
    simp [hzero] at h
  simp [h] at hsize
  omega

namespace Graph

/-- The cells that are not finished, the last one first, each with the readers left to look at. -/
abbrev Path := List (Address × List Address)

def advance (unvisited : AdjacencyMap) (finished : List Address) :
    Path → List Address × Option (Address × Path)
  | [] => (finished, none)
  | (cell, readers) :: path =>
    match readers.dropWhile (· ∉ unvisited) with
    | [] => advance unvisited (cell :: finished) path
    | reader :: rest => (finished, some (reader, (cell, rest) :: path))

theorem mem_of_dropWhile_not_mem {map : AdjacencyMap} {cells rest : List Address} {cell : Address}
    (h : cells.dropWhile (· ∉ map) = cell :: rest) : cell ∈ map := by
  have hhead := List.head?_dropWhile_not (fun c => decide (c ∉ map)) cells
  rw [h] at hhead
  simpa using hhead

theorem mem_of_advance {unvisited : AdjacencyMap} {path rest : Path} {reader : Address}
    {finished finished' : List Address}
    (h : advance unvisited finished path = (finished', some (reader, rest))) :
    reader ∈ unvisited := by
  fun_induction advance unvisited finished path with
  | case1 => simp at h
  | case2 _ _ _ _ _ ih => exact ih h
  | case3 _ _ _ _ _ _ hdrop =>
    simp only [Prod.mk.injEq, Option.some.injEq] at h
    exact h.2.1 ▸ mem_of_dropWhile_not_mem hdrop

/-- The finished cells, the last one first. A cell is visited as soon as the path reaches it. -/
def finish (next : Address → List Address) (unvisited : AdjacencyMap) (finished : List Address)
    (path : Path) : List Address :=
  match _h : advance unvisited finished path with
  | (finished, none) => finished
  | (finished, some (reader, path)) =>
    finish next (unvisited.erase reader) finished ((reader, next reader) :: path)
  termination_by unvisited.size
  decreasing_by exact AdjacencyMap.size_erase_lt (mem_of_advance _h)

def orderBy (graph : Graph) (next : Address → List Address) (origin : Address) : List Address :=
  (finish next (graph.sources.erase origin) [] [(origin, next origin)]).tail

/-- A way to list the readers of each cell of a graph, each of them once. -/
structure Enumeration where
  readers : Graph → Address → List Address
  perm (graph : Graph) (cell : Address) : (readers graph cell).Perm (graph.dependents cell)

namespace Enumeration

def sorted : Enumeration := ⟨dependents, fun _ _ => .refl _⟩

def order (enumeration : Enumeration) (graph : Graph) (origin : Address) : List Address :=
  graph.orderBy (enumeration.readers graph) origin

end Enumeration

def order (graph : Graph) (origin : Address) : List Address := Enumeration.sorted.order graph origin

def leadsTo (next : Address → List Address) (target : Address) (unseen : AdjacencyMap)
    (pending : List Address) : Bool :=
  match _h : pending.dropWhile (· ∉ unseen) with
  | [] => false
  | cell :: rest =>
    (next cell).contains target ||
      leadsTo next target (unseen.erase cell) (next cell ++ rest)
  termination_by unseen.size
  decreasing_by exact AdjacencyMap.size_erase_lt (mem_of_dropWhile_not_mem _h)

def isCircularBy (graph : Graph) (next : Address → List Address) (cell : Address) : Bool :=
  leadsTo next cell graph.sources [cell]

def isCircular (graph : Graph) (cell : Address) : Bool := graph.isCircularBy graph.precedents cell

end Graph

end Worksheet
