import Mathlib.Data.List.Basic
import Mathlib.Data.List.Induction
import Mathlib.Data.Set.Insert
import Worksheet.Proofs.Graph.Extensionality

namespace Worksheet.Graph

variable {graph : Graph} {edges : Set (Address × Address)}

def Edit.rewrite (edit : Edit) (edges : Set (Address × Address)) : Set (Address × Address) :=
  match edit with
  | add precedent dependent => insert (precedent, dependent) edges
  | clear cell => {edge ∈ edges | edge.2 ≠ cell}

def edgesAfter (edits : List Edit) : Set (Address × Address) :=
  edits.foldl (fun edges edit => edit.rewrite edges) ∅

def Enumerates (cells : List Address) (set : Set Address) : Prop :=
  cells.Nodup ∧ ∀ cell, cell ∈ cells ↔ cell ∈ set

structure Represents (graph : Graph) (edges : Set (Address × Address)) : Prop where
  dependents : ∀ cell, Enumerates (graph.dependents cell) {reader | (cell, reader) ∈ edges}
  precedents : ∀ cell, Enumerates (graph.precedents cell) {source | (source, cell) ∈ edges}
  mirrored : Mirrored graph
  tight : Tight graph

theorem nodup_dependents (graph : Graph) (cell : Address) : (graph.dependents cell).Nodup := by
  apply Std.ExtTreeSet.distinct_toList.imp
  rintro reader _ hne rfl
  exact hne Std.ReflCmp.compare_self

theorem represents_of_mem_precedents (hmirrored : Mirrored graph) (htight : Tight graph)
    (h : ∀ source reader, source ∈ graph.precedents reader ↔ (source, reader) ∈ edges) :
    Represents graph edges where
  dependents cell := by
    refine ⟨nodup_dependents graph cell, fun reader => ?_⟩
    rw [hmirrored reader cell]
    exact h cell reader
  precedents cell := ⟨nodup_precedents graph cell, fun source => h source cell⟩
  mirrored := hmirrored
  tight := htight

theorem represents_empty : Represents empty ∅ := by
  apply represents_of_mem_precedents mirrored_empty tight_empty
  intro source reader
  rw [mem_precedents_iff]
  simp [empty, AdjacencyMap.neighbors]

theorem tight_apply (h : Tight graph) (edit : Edit) : Tight (edit.apply graph) := by
  cases edit with
  | add precedent dependent => exact tight_add h precedent dependent
  | clear cell => exact tight_clearPrecedents h cell

theorem Represents.apply (h : Represents graph edges) (edit : Edit) :
    Represents (edit.apply graph) (edit.rewrite edges) := by
  apply represents_of_mem_precedents (mirrored_apply h.mirrored edit) (tight_apply h.tight edit)
  intro source reader
  have hedge : source ∈ graph.precedents reader ↔ (source, reader) ∈ edges :=
    (h.precedents reader).2 source
  cases edit with
  | add precedent dependent =>
    rw [Edit.apply, mem_precedents_add, hedge, Edit.rewrite, Set.mem_insert_iff, Prod.mk.injEq]
    constructor
    · rintro (⟨rfl, rfl⟩ | hold)
      · exact .inl ⟨rfl, rfl⟩
      · exact .inr hold
    · rintro (⟨rfl, rfl⟩ | hold)
      · exact .inl ⟨rfl, rfl⟩
      · exact .inr hold
  | clear cell =>
    rw [Edit.apply, mem_precedents_clearPrecedents, hedge, and_comm, ne_comm]
    rfl

theorem represents_build (edits : List Edit) : Represents (build edits) (edgesAfter edits) := by
  induction edits using List.reverseRecOn with
  | nil => exact represents_empty
  | append_singleton edits edit ih =>
    rw [build, edgesAfter, List.foldl_concat, List.foldl_concat]
    exact ih.apply edit

theorem Represents.unique {other : Set (Address × Address)} (h : Represents graph edges)
    (h' : Represents graph other) : edges = other := by
  ext ⟨source, reader⟩
  exact ((h.precedents reader).2 source).symm.trans ((h'.precedents reader).2 source)

theorem represents_build_iff (edits : List Edit) (edges : Set (Address × Address)) :
    Represents (build edits) edges ↔ edges = edgesAfter edits := by
  constructor
  · intro h
    exact h.unique (represents_build edits)
  · rintro rfl
    exact represents_build edits

-- A cell that reads itself is cleared at both ends, and the cell that reads it keeps its edge.
example : build [.add ⟨0, 0⟩ ⟨0, 0⟩, .add ⟨0, 0⟩ ⟨0, 1⟩, .clear ⟨0, 0⟩, .clear ⟨0, 2⟩] =
    build [.add ⟨0, 0⟩ ⟨0, 1⟩] := by
  decide +kernel

end Worksheet.Graph
