import Worksheet.Proofs.Sheet.Propagation

namespace Worksheet.Sheet

variable {sheet : Sheet} {address other : Address} {enumeration : Graph.Enumeration}

def visited (sheet : Sheet) (enumeration : Graph.Enumeration) (address : Address) :
    List Address :=
  if (sheet.recompute address).changed then
    enumeration.order (sheet.recompute address).sheet.graph address
  else []

def started (sheet : Sheet) (address : Address) : Sheet × AddressSet :=
  ((sheet.recompute address).sheet, (∅ : AddressSet).insert address)

def refresh (sheet : Sheet) (enumeration : Graph.Enumeration) (address : Address) : Sheet :=
  ((sheet.visited enumeration address).foldl propagateStep (sheet.started address)).1

theorem propagating_started (h : Wired (sheet.recompute address).sheet) :
    Propagating sheet (sheet.started address) := by
  refine ⟨sameInput_recompute _ _, h, fun other hother => ?_⟩
  rw [started, value?_recompute, if_neg]
  rintro rfl
  simp [started] at hother

theorem value?_started_of_ne (h : address ≠ other) :
    (sheet.started address).1.value? other = sheet.value? other := by
  rw [started, value?_recompute, if_neg h]

theorem visited_eq_order (h : other ∈ sheet.visited enumeration address) :
    sheet.visited enumeration address =
      enumeration.order (sheet.recompute address).sheet.graph address := by
  unfold visited at h ⊢
  split
  · rfl
  · rename_i hchanged
    rw [if_neg hchanged] at h
    exact absurd h List.not_mem_nil

theorem nodup_visited (h : Wired (sheet.recompute address).sheet)
    (enumeration : Graph.Enumeration) :
    (address :: sheet.visited enumeration address).Nodup := by
  have hnodup := Graph.nodup_order h.mirrored enumeration address
  unfold visited
  split
  · exact hnodup
  · exact List.nodup_singleton _

theorem reads_recompute_iff (h : Wired (sheet.recompute address).sheet) (reader source : Address) :
    (sheet.recompute address).sheet.graph.Reads reader source ↔
      source ∈ (sheet.reading reader).precedents := by
  rw [Graph.Reads, ← precedents, h.precedents, (sameInput_recompute _ _).precedents_reading]

theorem value?_refresh_of_not_visited (h : other ∉ sheet.visited enumeration address) :
    (sheet.refresh enumeration address).value? other = (sheet.started address).1.value? other :=
  value?_foldl_propagateStep _ h

theorem sameInput_refresh (sheet : Sheet) (enumeration : Graph.Enumeration) (address : Address) :
    SameInput sheet (sheet.refresh enumeration address) :=
  (sameInput_recompute sheet address).trans (sameInput_foldl_propagateStep (sheet.started address) _)

theorem sameInput_refresh_of_recompute (sheet : Sheet) (enumeration : Graph.Enumeration)
    (address : Address) :
    SameInput (sheet.recompute address).sheet (sheet.refresh enumeration address) :=
  (sameInput_recompute sheet address).symm.trans (sameInput_refresh sheet enumeration address)

theorem wired_refresh (h : Wired (sheet.recompute address).sheet)
    (enumeration : Graph.Enumeration) : Wired (sheet.refresh enumeration address) :=
  ((propagating_started h).foldl _).wired

theorem value?_refresh_self (h : Wired (sheet.recompute address).sheet)
    (enumeration : Graph.Enumeration) :
    (sheet.refresh enumeration address).value? address = (sheet.reading address).value := by
  have hself : address ∉ sheet.visited enumeration address :=
    (List.nodup_cons.mp (nodup_visited h enumeration)).1
  rw [value?_refresh_of_not_visited hself, started, value?_recompute, if_pos rfl]

theorem settled_refresh_self (h : Wired (sheet.recompute address).sheet)
    (hoff : ¬ (sheet.recompute address).sheet.graph.OnCycle address) :
    Settled (sheet.refresh enumeration address) address := by
  rw [Settled, (sameInput_refresh sheet enumeration address).reading_eq, value?_refresh_self h]
  intro source hsource
  have hreads := (reads_recompute_iff h address source).mpr hsource
  have hne : address ≠ source := by
    rintro rfl
    exact hoff (.single hreads)
  have hmem : source ∉ sheet.visited enumeration address := by
    intro hmem
    rw [visited_eq_order hmem] at hmem
    exact hoff (.head' hreads (Graph.reads_of_mem_order h.mirrored hmem))
  rw [value?_refresh_of_not_visited hmem, value?_started_of_ne hne]

theorem value?_refresh_of_not_mem (h : Wired (sheet.recompute address).sheet)
    (hne : other ≠ address) (hother : other ∉ sheet.visited enumeration address)
    {source : Address} (hsource : source ∈ (sheet.reading other).precedents) :
    (sheet.refresh enumeration address).value? source = sheet.value? source := by
  have hreads := (reads_recompute_iff h other source).mpr hsource
  by_cases hchanged : (sheet.recompute address).changed
  · rw [visited, if_pos hchanged] at hother
    have hmem : source ∉ address :: sheet.visited enumeration address := by
      intro hmem
      rw [visited, if_pos hchanged] at hmem
      exact hother (Graph.reader_mem_order h.mirrored hmem hreads hne)
    rw [List.mem_cons, not_or] at hmem
    rw [value?_refresh_of_not_visited hmem.2, value?_started_of_ne (Ne.symm hmem.1)]
  · have hself := hchanged
    rw [changed_recompute, not_not] at hself
    rw [refresh, visited, if_neg hchanged, List.foldl_nil, started, value?_recompute]
    split
    · subst source
      exact hself
    · rfl

theorem exists_split_of_mem_visited (h : Wired (sheet.recompute address).sheet)
    (hoff : ¬ (sheet.recompute address).sheet.graph.OnCycleAvoiding address other)
    (hother : other ∈ sheet.visited enumeration address) :
    ∃ first last, sheet.visited enumeration address = first ++ other :: last ∧
      first.Nodup ∧ address ∉ first ∧ other ∉ first ∧ other ∉ last ∧
      ∀ source ∈ (sheet.reading other).precedents, source ∉ other :: last := by
  obtain ⟨first, last, hsplit⟩ := List.append_of_mem hother
  obtain ⟨hself, hnodup⟩ := List.nodup_cons.mp (nodup_visited h enumeration)
  rw [hsplit] at hself hnodup
  obtain ⟨hfirst, hlast, hdisjoint⟩ := List.nodup_append.mp hnodup
  refine ⟨first, last, hsplit, hfirst, fun hmem => hself (List.mem_append_left _ hmem),
    fun hmem => hdisjoint other hmem other List.mem_cons_self rfl, (List.nodup_cons.mp hlast).1,
    fun source hsource => ?_⟩
  rw [visited_eq_order hother] at hsplit
  exact Graph.source_not_mem_of_order h.mirrored hoff hsplit
    ((reads_recompute_iff h other source).mpr hsource)

theorem settled_refresh_of_ne (h : Wired (sheet.recompute address).sheet)
    (hoff : ¬ (sheet.recompute address).sheet.graph.OnCycleAvoiding address other) (hne : other ≠ address)
    (hsettled : (∀ source ∈ (sheet.reading other).precedents,
      (sheet.refresh enumeration address).value? source = sheet.value? source) →
        Settled sheet other) :
    Settled (sheet.refresh enumeration address) other := by
  have hstarted : (sheet.started address).1.value? other = sheet.value? other :=
    value?_started_of_ne (Ne.symm hne)
  by_cases hother : other ∈ sheet.visited enumeration address
  · obtain ⟨first, last, hsplit, -, -, hfirst, hlast, hsources⟩ :=
      exists_split_of_mem_visited h hoff hother
    have hmiddle := (propagating_started h).foldl first
    rw [refresh, hsplit, List.foldl_append] at hsettled ⊢
    refine settled_foldl_cons hmiddle hlast hsources ?_ hsettled
    rw [value?_foldl_propagateStep _ hfirst, hstarted]
  · have hsame : ∀ source ∈ (sheet.reading other).precedents,
        (sheet.refresh enumeration address).value? source = sheet.value? source :=
      fun source hsource => value?_refresh_of_not_mem h hne hother hsource
    refine settled_congr (sameInput_refresh _ _ _) (hsettled hsame) ?_ hsame
    rw [value?_refresh_of_not_visited hother, hstarted]

theorem changed_of_mem_visited (h : other ∈ sheet.visited enumeration address) :
    (sheet.recompute address).changed := by
  unfold visited at h
  split at h
  · assumption
  · exact absurd h List.not_mem_nil

theorem value?_refresh_of_ne (h : Wired (sheet.recompute address).sheet)
    (hoff : ¬ (sheet.recompute address).sheet.graph.OnCycleAvoiding address other) (hne : other ≠ address)
    (hsame : ∀ source ∈ (sheet.reading other).precedents,
      (sheet.refresh enumeration address).value? source = sheet.value? source) :
    (sheet.refresh enumeration address).value? other = sheet.value? other := by
  have hstarted : (sheet.started address).1.value? other = sheet.value? other :=
    value?_started_of_ne (Ne.symm hne)
  by_cases hother : other ∈ sheet.visited enumeration address
  · obtain ⟨first, last, hsplit, hnodup, hself, hfirst, hlast, hsources⟩ :=
      exists_split_of_mem_visited h hoff hother
    have hmiddle := (propagating_started h).foldl first
    have hmarked : ∀ marked ∈ (first.foldl propagateStep (sheet.started address)).2,
        (first.foldl propagateStep (sheet.started address)).1.value? marked ≠
          sheet.value? marked := by
      apply value?_ne_of_mem_foldl hnodup
      · intro visit hvisit
        exact value?_started_of_ne fun heq => hself (heq ▸ hvisit)
      · intro marked hmem
        obtain rfl : address = marked := by simpa [started] using hmem
        rw [started, value?_recompute, if_pos rfl, ← changed_recompute]
        exact changed_of_mem_visited hother
    rw [refresh, hsplit, List.foldl_append] at hsame ⊢
    rw [value?_foldl_cons hmiddle hlast hsources hmarked hsame,
      value?_foldl_propagateStep _ hfirst, hstarted]
  · rw [value?_refresh_of_not_visited hother, hstarted]

end Worksheet.Sheet
