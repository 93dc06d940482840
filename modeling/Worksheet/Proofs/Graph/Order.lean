import Worksheet.Proofs.Graph.Edges
import Worksheet.Proofs.Graph.Traversal

/-!
The order of recalculation, however the readers of a cell are listed: a cell comes after all that it
reads unless it lies on a cycle that avoids the origin of the walk.
-/

namespace Worksheet.Graph

def Reads (graph : Graph) (reader source : Address) : Prop := source ∈ graph.precedents reader

def OnCycle (graph : Graph) (cell : Address) : Prop := Relation.TransGen graph.Reads cell cell

def ReadsAvoiding (graph : Graph) (origin reader source : Address) : Prop :=
  graph.Reads reader source ∧ reader ≠ origin

def OnCycleAvoiding (graph : Graph) (origin cell : Address) : Prop :=
  Relation.TransGen (graph.ReadsAvoiding origin) cell cell

variable {graph : Graph} {enumeration : Enumeration} {origin cell reader source : Address}
  {first last : List Address}

theorem mem_readers_iff (h : graph.Mirrored) :
    reader ∈ enumeration.readers graph source ↔ graph.Reads reader source :=
  (enumeration.perm graph source).mem_iff.trans (h reader source)

theorem mem_sources_of_mem_readers (h : graph.Mirrored) :
    ∀ source, ∀ reader ∈ enumeration.readers graph source, reader ∈ graph.sources :=
  fun _ _ hreader => mem_sources_of_mem_precedents ((mem_readers_iff h).mp hreader)

theorem OnCycleAvoiding.onCycle (h : graph.OnCycleAvoiding origin cell) : graph.OnCycle cell :=
  Relation.TransGen.mono (fun _ _ hreads => hreads.1) _ _ h

theorem reads_of_leads (h : graph.Mirrored)
    (hleads : Leads (enumeration.readers graph) origin source reader) :
    Relation.ReflTransGen (graph.ReadsAvoiding origin) reader source := by
  induction hleads with
  | refl => exact .refl
  | tail _ hstep ih => exact .head ⟨(mem_readers_iff h).mp hstep.1, hstep.2⟩ ih

theorem nodup_order (h : graph.Mirrored) (enumeration : Enumeration) (origin : Address) :
    (origin :: enumeration.order graph origin).Nodup :=
  nodup_orderBy origin (mem_sources_of_mem_readers h)

theorem reads_of_mem_order (h : graph.Mirrored) (hcell : cell ∈ enumeration.order graph origin) :
    Relation.ReflTransGen graph.Reads cell origin :=
  Relation.ReflTransGen.mono (fun _ _ hreads => hreads.1) _ _
    (reads_of_leads h (leads_of_mem_orderBy (mem_sources_of_mem_readers h) hcell))

theorem reader_mem_order (h : graph.Mirrored)
    (hsource : source ∈ origin :: enumeration.order graph origin)
    (hreads : graph.Reads reader source) (hne : reader ≠ origin) :
    reader ∈ enumeration.order graph origin :=
  (List.mem_cons.mp (reader_mem_orderBy (mem_sources_of_mem_readers h) hsource
    ((mem_readers_iff h).mpr hreads))).resolve_left hne

theorem mem_order_of_reads (h : graph.Mirrored)
    (hpath : Relation.ReflTransGen graph.Reads cell origin) (hne : cell ≠ origin) :
    cell ∈ enumeration.order graph origin := by
  have hmem : cell ∈ origin :: enumeration.order graph origin := by
    clear hne
    induction hpath using Relation.ReflTransGen.head_induction_on with
    | refl => exact List.mem_cons_self
    | @head reader source hreads _ ih =>
      by_cases hreader : reader = origin
      · exact hreader ▸ List.mem_cons_self
      · exact List.mem_cons_of_mem _ (reader_mem_order h ih hreads hreader)
  exact (List.mem_cons.mp hmem).resolve_left hne

theorem ne_origin_of_mem_order (h : graph.Mirrored)
    (hcell : cell ∈ enumeration.order graph origin) : cell ≠ origin := by
  rintro rfl
  exact (List.nodup_cons.mp (nodup_order h enumeration cell)).1 hcell

theorem reads_of_order (h : graph.Mirrored)
    (horder : enumeration.order graph origin = first ++ reader :: last)
    (hsource : source ∈ reader :: last) (hreads : graph.Reads reader source) :
    Relation.TransGen (graph.ReadsAvoiding origin) source reader := by
  have hmem (cell : Address) (hcell : cell ∈ reader :: last) :
      cell ∈ enumeration.order graph origin := horder ▸ List.mem_append_right _ hcell
  rcases List.mem_cons.mp hsource with rfl | hlast
  · exact .single ⟨hreads, ne_origin_of_mem_order h (hmem source hsource)⟩
  · have hleads := leads_of_orderBy (mem_sources_of_mem_readers h) horder hlast
      ((mem_readers_iff h).mpr hreads)
    rcases Relation.reflTransGen_iff_eq_or_transGen.mp (reads_of_leads h hleads) with rfl | hpath
    · exact .single ⟨hreads, ne_origin_of_mem_order h (hmem reader List.mem_cons_self)⟩
    · exact hpath

theorem source_not_mem_of_order (h : graph.Mirrored) (hcell : ¬ graph.OnCycleAvoiding origin cell)
    (horder : enumeration.order graph origin = first ++ cell :: last)
    (hreads : graph.Reads cell source) : source ∉ cell :: last := by
  intro hsource
  apply hcell
  have hne : cell ≠ origin :=
    ne_origin_of_mem_order h (horder ▸ List.mem_append_right _ List.mem_cons_self)
  exact .head ⟨hreads, hne⟩ (reads_of_order h horder hsource hreads)

theorem idxOf_order_lt (h : graph.Mirrored) (hreader : reader ∈ enumeration.order graph origin)
    (hsource : source ∈ enumeration.order graph origin) (hreads : graph.Reads reader source)
    (hpath : ¬ Relation.TransGen (graph.ReadsAvoiding origin) source reader) :
    (enumeration.order graph origin).idxOf source <
      (enumeration.order graph origin).idxOf reader := by
  obtain ⟨first, last, horder⟩ := List.append_of_mem hreader
  have hnodup := (List.nodup_cons.mp (nodup_order h enumeration origin)).2
  have hlast : source ∉ reader :: last := fun hmem => hpath (reads_of_order h horder hmem hreads)
  rw [horder] at hnodup hsource ⊢
  have hfirst : source ∈ first := (List.mem_append.mp hsource).resolve_right hlast
  have hnew : reader ∉ first := fun hmem =>
    (List.nodup_append.mp hnodup).2.2 reader hmem reader List.mem_cons_self rfl
  rw [List.idxOf_append_of_mem hfirst, List.idxOf_append_of_notMem hnew, List.idxOf_cons_self]
  exact List.idxOf_lt_length_of_mem hfirst

/--
The cells to recalculate after the origin, each after what it reads. Only a cycle that avoids the
origin leaves no such order for the cells on it.
-/
structure EvaluationOrder (graph : Graph) (origin : Address) (cells : List Address) : Prop where
  nodup : cells.Nodup
  mem_iff : ∀ cell, cell ∈ cells ↔ Relation.TransGen graph.Reads cell origin ∧ cell ≠ origin
  sorted : ∀ reader ∈ cells, ∀ source ∈ cells, graph.Reads reader source →
    ¬ Relation.TransGen (graph.ReadsAvoiding origin) source reader →
      cells.idxOf source < cells.idxOf reader

theorem evaluationOrder_order (edits : List Edit) (enumeration : Enumeration) (origin : Address) :
    EvaluationOrder (build edits) origin (enumeration.order (build edits) origin) := by
  have h := mirrored_build edits
  constructor
  · exact (List.nodup_cons.mp (nodup_order h enumeration origin)).2
  · intro cell
    constructor
    · intro hcell
      have hne := ne_origin_of_mem_order h hcell
      have hpath := reads_of_mem_order h hcell
      exact ⟨(Relation.reflTransGen_iff_eq_or_transGen.mp hpath).resolve_left (Ne.symm hne), hne⟩
    · rintro ⟨hpath, hne⟩
      exact mem_order_of_reads h hpath.to_reflTransGen hne
  · intro reader hreader source hsource hreads hpath
    exact idxOf_order_lt h hreader hsource hreads hpath

end Worksheet.Graph
