import Mathlib.Data.Fintype.EquivFin
import Mathlib.Data.Fintype.Sets
import Worksheet.Proofs.Graph.Order

/-!
The search for a cycle finds one exactly if there is one, and without cycles nothing reads on
forever. A walk is not disturbed by cycles that run through its origin.
-/

namespace Worksheet.Graph

variable {next : Address → List Address} {target origin cell : Address} {unseen : AdjacencyMap}
  {pending rest : List Address} {graph : Graph}

def Lists (next : Address → List Address) (cell other : Address) : Prop := other ∈ next cell

theorem listed_of_leadsTo (h : leadsTo next target unseen pending = true) :
    ∃ cell ∈ pending, Relation.TransGen (Lists next) cell target := by
  fun_induction leadsTo next target unseen pending with
  | case1 => simp at h
  | case2 unseen pending cell rest hdrop ih =>
    have hsuffix : cell :: rest <:+ pending := hdrop ▸ List.dropWhile_suffix _
    rcases Bool.or_eq_true _ _ ▸ h with hfound | hfound
    · exact ⟨cell, hsuffix.mem List.mem_cons_self, .single (List.contains_iff_mem.mp hfound)⟩
    · obtain ⟨other, hother, hpath⟩ := ih hfound
      rcases List.mem_append.mp hother with hother | hother
      · exact ⟨cell, hsuffix.mem List.mem_cons_self, .head hother hpath⟩
      · exact ⟨other, hsuffix.mem (List.mem_cons_of_mem _ hother), hpath⟩

/-- What the search has left behind does not list the target, and only lists seen or pending cells. -/
def Searched (next : Address → List Address) (target : Address) (unseen : AdjacencyMap)
    (pending : List Address) : Prop :=
  ∀ cell, cell ∉ unseen → ∀ other ∈ next cell, other ≠ target ∧ (other ∈ unseen → other ∈ pending)

theorem not_listed_of_leadsTo (hsearched : Searched next target unseen pending)
    (h : leadsTo next target unseen pending = false) (hcell : cell ∈ unseen → cell ∈ pending) :
    ¬ Relation.TransGen (Lists next) cell target := by
  fun_induction leadsTo next target unseen pending generalizing cell with
  | case1 unseen pending hdrop =>
    have hseen : ∀ other, (other ∈ unseen → other ∈ pending) → other ∉ unseen := fun other hother hmem =>
      absurd hmem (by simpa using List.dropWhile_eq_nil_iff.mp hdrop other (hother hmem))
    intro hpath
    induction hpath using Relation.TransGen.head_induction_on with
    | single hlast => exact (hsearched _ (hseen _ hcell) _ hlast).1 rfl
    | head hstep _ ih => exact ih (hsearched _ (hseen _ hcell) _ hstep).2
  | case2 unseen pending current rest hdrop ih =>
    rw [Bool.or_eq_false_iff] at h
    have hkept : ∀ other, (other ∈ unseen → other ∈ pending) →
        other ∈ unseen.erase current → other ∈ next current ++ rest := by
      intro other hother hmem
      rw [Std.ExtTreeMap.mem_erase] at hmem
      rcases mem_of_dropWhile_eq_cons hdrop (hother hmem.2) with hunseen | rfl | hrest
      · exact absurd hmem.2 hunseen
      · simp at hmem
      · exact List.mem_append_right _ hrest
    refine ih ?_ h.2 (hkept cell hcell)
    intro seen hseen other hother
    by_cases hcurrent : seen = current
    · subst seen
      refine ⟨?_, fun _ => List.mem_append_left _ hother⟩
      rintro rfl
      exact absurd (List.contains_iff_mem.mpr hother) (by simpa using h.1)
    · have hunseen : seen ∉ unseen := fun hmem =>
        hseen (Std.ExtTreeMap.mem_erase.mpr ⟨by simpa using Ne.symm hcurrent, hmem⟩)
      obtain ⟨hne, hpending⟩ := hsearched seen hunseen other hother
      exact ⟨hne, hkept other hpending⟩

theorem leadsTo_iff (hknown : ∀ cell, ∀ other ∈ next cell, cell ∈ unseen) :
    leadsTo next target unseen pending = true ↔
      ∃ cell ∈ pending, Relation.TransGen (Lists next) cell target := by
  refine ⟨listed_of_leadsTo, ?_⟩
  rintro ⟨cell, hcell, hpath⟩
  have hsearched : Searched next target unseen pending := fun cell hseen other hother =>
    absurd (hknown cell other hother) hseen
  by_cases hfound : leadsTo next target unseen pending = true
  · exact hfound
  · exact absurd hpath (not_listed_of_leadsTo hsearched (Bool.eq_false_iff.mpr hfound) fun _ => hcell)

theorem leadsTo_sources_iff (hnext : ∀ cell source, source ∈ next cell ↔ graph.Reads cell source) :
    leadsTo next target graph.sources [cell] = true ↔ Relation.TransGen graph.Reads cell target := by
  have hlists : Lists next = graph.Reads := by
    funext cell source
    exact propext (hnext cell source)
  have hknown : ∀ cell, ∀ source ∈ next cell, cell ∈ graph.sources := fun cell source hsource =>
    mem_sources_of_mem_precedents ((hnext cell source).mp hsource)
  rw [leadsTo_iff hknown, hlists]
  simp only [List.mem_singleton, exists_eq_left]

theorem not_onCycle_of_isCircular (h : graph.isCircular cell = false) : ¬ graph.OnCycle cell := by
  intro hcycle
  have hfound := (leadsTo_sources_iff fun _ _ => Iff.rfl).mpr hcycle
  rw [isCircular, isCircularBy, hfound] at h
  exact Bool.noConfusion h

theorem isCircularBy_eq_true_iff (hnext : ∀ cell, (next cell).Perm (graph.precedents cell))
    (cell : Address) : graph.isCircularBy next cell = true ↔ graph.OnCycle cell :=
  leadsTo_sources_iff fun cell _ => (hnext cell).mem_iff

/-- A1 and B1 read each other; C1 only reads A1, and D1 is only read by A1. -/
def flanked : Graph :=
  build [.add ⟨0, 0⟩ ⟨0, 1⟩, .add ⟨0, 1⟩ ⟨0, 0⟩, .add ⟨0, 0⟩ ⟨0, 2⟩, .add ⟨0, 3⟩ ⟨0, 0⟩]

theorem isCircularBy_flanked :
    (∀ cell, (flanked.precedents cell).reverse.Perm (flanked.precedents cell)) ∧
      flanked.OnCycle ⟨0, 0⟩ ∧ flanked.OnCycle ⟨0, 1⟩ ∧
        ¬ flanked.OnCycle ⟨0, 2⟩ ∧ ¬ flanked.OnCycle ⟨0, 3⟩ := by
  have hnext (cell : Address) : (flanked.precedents cell).reverse.Perm (flanked.precedents cell) :=
    List.reverse_perm _
  simp only [← isCircularBy_eq_true_iff hnext]
  exact ⟨hnext, by decide +kernel⟩

theorem wellFounded_of_reads {edge : Address → Address → Prop}
    (hedge : ∀ reader source, edge reader source → graph.Reads reader source)
    (h : ∀ cell, ¬ Relation.TransGen edge cell cell) :
    WellFounded fun source reader => edge reader source := by
  -- Only the finitely many cells that read something can be on an endless path.
  let Known := {cell // cell ∈ graph.sources.keys}
  let after : Known → Known → Prop :=
    fun source reader => Relation.TransGen edge reader.1 source.1
  have hunknown : ∀ cell, cell ∉ graph.sources → Acc (fun source reader => edge reader source) cell :=
    fun cell hcell => .intro _ fun source hsource =>
      absurd (mem_sources_of_mem_precedents (hedge cell source hsource)) hcell
  have htrans : IsTrans Known after := ⟨fun _ _ _ hfirst hsecond => hsecond.trans hfirst⟩
  have hirrefl : Std.Irrefl after := ⟨fun cell hcell => h cell.1 hcell⟩
  have hfintype : Fintype Known := List.Subtype.fintype _
  have hwf : WellFounded after := Finite.wellFounded_of_trans_of_irrefl after
  have hknown : ∀ reader : Known,
      Acc (fun source reader => edge reader source) reader.1 := by
    intro reader
    induction reader using hwf.induction with
    | _ reader ih =>
      refine .intro _ fun source hsource => ?_
      by_cases hmem : source ∈ graph.sources
      · exact ih ⟨source, Std.ExtTreeMap.mem_keys.mpr hmem⟩ (.single hsource)
      · exact hunknown source hmem
  refine ⟨fun reader => ?_⟩
  by_cases hmem : reader ∈ graph.sources
  · exact hknown ⟨reader, Std.ExtTreeMap.mem_keys.mpr hmem⟩
  · exact hunknown reader hmem

theorem wellFounded_reads (h : ∀ cell, ¬ graph.OnCycle cell) :
    WellFounded fun source reader => graph.Reads reader source :=
  wellFounded_of_reads (fun _ _ => id) h

def CyclesMeet (graph : Graph) (origin : Address) : Prop :=
  ∀ cell, Relation.ReflTransGen graph.Reads cell origin → ¬ graph.OnCycleAvoiding origin cell

def precedentsAvoiding (graph : Graph) (origin cell : Address) : List Address :=
  if cell = origin then [] else graph.precedents cell

theorem lists_precedentsAvoiding (graph : Graph) (origin : Address) :
    Lists (graph.precedentsAvoiding origin) = graph.ReadsAvoiding origin := by
  funext reader source
  by_cases hne : reader = origin <;> simp [Lists, precedentsAvoiding, ReadsAvoiding, Reads, hne]

theorem onCycleAvoiding_iff (cell : Address) :
    graph.OnCycleAvoiding origin cell ↔
      leadsTo (graph.precedentsAvoiding origin) cell graph.sources [cell] = true := by
  rw [leadsTo_iff]
  · simp only [List.mem_singleton, exists_eq_left, lists_precedentsAvoiding]
    rfl
  · intro cell source hsource
    unfold precedentsAvoiding at hsource
    split at hsource
    · exact absurd hsource List.not_mem_nil
    · exact mem_sources_of_mem_precedents hsource

theorem leads_iff (cell : Address) :
    Relation.ReflTransGen graph.Reads cell origin ↔
      origin = cell ∨ leadsTo graph.precedents origin graph.sources [cell] = true := by
  rw [Relation.reflTransGen_iff_eq_or_transGen, leadsTo_sources_iff fun _ _ => Iff.rfl]

instance (graph : Graph) (origin : Address) : Decidable (graph.CyclesMeet origin) :=
  decidable_of_iff (∀ cell ∈ graph.sources.keys,
    (origin = cell ∨ leadsTo graph.precedents origin graph.sources [cell] = true) →
      ¬ leadsTo (graph.precedentsAvoiding origin) cell graph.sources [cell] = true) (by
    simp only [CyclesMeet, leads_iff, onCycleAvoiding_iff]
    constructor
    · intro h cell hleads hcycle
      refine h cell ?_ hleads hcycle
      have hedge := Relation.TransGen.head'_iff.mp ((onCycleAvoiding_iff cell).mpr hcycle)
      obtain ⟨source, hreads, -⟩ := hedge
      exact Std.ExtTreeMap.mem_keys.mpr (mem_sources_of_mem_precedents hreads.1)
    · exact fun h cell _ => h cell)

theorem CyclesMeet.wellFounded (h : graph.CyclesMeet origin) :
    WellFounded fun source reader => graph.ReadsAvoiding origin reader source ∧
      Relation.ReflTransGen graph.Reads reader origin := by
  have hreads : ∀ reader source, graph.ReadsAvoiding origin reader source ∧
      Relation.ReflTransGen graph.Reads reader origin → graph.Reads reader source :=
    fun _ _ hedge => hedge.1.1
  apply wellFounded_of_reads hreads
  intro cell hcycle
  obtain ⟨source, hedge, -⟩ := Relation.TransGen.head'_iff.mp hcycle
  apply h cell hedge.2
  exact Relation.TransGen.mono (fun _ _ hedge => hedge.1) _ _ hcycle

end Worksheet.Graph
