import Mathlib.Data.List.Basic
import Worksheet.Proofs.Graph.Order
import Worksheet.Proofs.Sheet.Recalculation

namespace Worksheet.Sheet

variable {sheet base before after : Sheet} {address other : Address} {cell : Cell}
  {state : Sheet × AddressSet} {order : List Address}

structure Wired (sheet : Sheet) : Prop where
  mirrored : sheet.graph.Mirrored
  precedents : ∀ reader source,
    source ∈ sheet.precedents reader ↔ source ∈ (sheet.reading reader).precedents

def Settled (sheet : Sheet) (address : Address) : Prop :=
  sheet.value? address = (sheet.reading address).value

theorem mirrored_recompute (h : sheet.graph.Mirrored) (address : Address) :
    (sheet.recompute address).sheet.graph.Mirrored := by
  cases hcell : sheet.cell? address with
  | none =>
    rw [recompute_of_cell?_none hcell]
    exact h
  | some cell =>
    rw [graph_recompute hcell]
    exact Graph.mirrored_setPrecedents h _ _

theorem wired_recompute (hcell : sheet.cell? address = some cell) (h : sheet.graph.Mirrored)
    (hothers : ∀ reader, reader ≠ address → ∀ source,
      source ∈ sheet.precedents reader ↔ source ∈ (sheet.reading reader).precedents) :
    Wired (sheet.recompute address).sheet where
  mirrored := mirrored_recompute h address
  precedents reader source := by
    rw [(sameInput_recompute sheet address).precedents_reading, mem_precedents_recompute hcell]
    split
    · subst reader
      rfl
    · exact hothers reader (Ne.symm ‹_›) source

theorem Wired.recompute (h : Wired sheet) (address : Address) :
    Wired (sheet.recompute address).sheet := by
  cases hcell : sheet.cell? address with
  | none =>
    rw [recompute_of_cell?_none hcell]
    exact h
  | some cell => exact wired_recompute hcell h.mirrored fun reader _ => h.precedents reader

theorem sameInput_propagateStep (state : Sheet × AddressSet) (address : Address) :
    SameInput state.1 (propagateStep state address).1 := by
  unfold propagateStep
  split
  · exact sameInput_recompute _ _
  · exact .refl _

theorem sameInput_foldl_propagateStep (state : Sheet × AddressSet) (order : List Address) :
    SameInput state.1 (order.foldl propagateStep state).1 := by
  induction order generalizing state with
  | nil => exact .refl _
  | cons address order ih => exact (sameInput_propagateStep state address).trans (ih _)

/-- In the middle of a walk: the cells not marked as changed have the values of `base`. -/
structure Propagating (base : Sheet) (state : Sheet × AddressSet) : Prop where
  input : SameInput base state.1
  wired : Wired state.1
  value : ∀ address, address ∉ state.2 → state.1.value? address = base.value? address

theorem Propagating.step (h : Propagating base state) (address : Address) :
    Propagating base (propagateStep state address) := by
  have hinput := h.input.trans (sameInput_propagateStep state address)
  revert hinput
  unfold propagateStep
  split
  · refine fun hinput => ⟨hinput, h.wired.recompute address, fun other hother => ?_⟩
    simp only at hother ⊢
    rw [value?_recompute]
    split at hother
    · rw [Std.ExtTreeSet.mem_insert, not_or] at hother
      rw [if_neg (by simpa using hother.1)]
      exact h.value other hother.2
    · rename_i hchanged
      rw [changed_recompute, not_not] at hchanged
      split
      · subst other
        rw [hchanged]
        exact h.value address hother
      · exact h.value other hother
  · exact fun _ => h

theorem Propagating.foldl (h : Propagating base state) (order : List Address) :
    Propagating base (order.foldl propagateStep state) :=
  List.foldlRecOn order propagateStep h fun _ h address _ => h.step address

theorem value?_propagateStep (state : Sheet × AddressSet) (h : address ≠ other) :
    (propagateStep state address).1.value? other = state.1.value? other := by
  unfold propagateStep
  split
  · rw [value?_recompute, if_neg h]
  · rfl

theorem value?_foldl_propagateStep (state : Sheet × AddressSet) (h : other ∉ order) :
    (order.foldl propagateStep state).1.value? other = state.1.value? other := by
  induction order generalizing state with
  | nil => rfl
  | cons address order ih =>
    rw [List.mem_cons, not_or] at h
    rw [List.foldl_cons, ih _ h.2, value?_propagateStep _ (Ne.symm h.1)]

theorem settled_congr (h : SameInput before after) (hsettled : Settled before address)
    (hvalue : after.value? address = before.value? address)
    (hsources : ∀ source ∈ (before.reading address).precedents,
      after.value? source = before.value? source) :
    Settled after address := by
  rw [Settled, h.reading_eq hsources, hvalue]
  exact hsettled

theorem value?_ne_of_mem_propagateStep (hvalue : state.1.value? address = base.value? address)
    (hmarked : ∀ other ∈ state.2, state.1.value? other ≠ base.value? other) :
    ∀ other ∈ (propagateStep state address).2,
      (propagateStep state address).1.value? other ≠ base.value? other := by
  intro other hother
  unfold propagateStep at hother ⊢
  by_cases hany : (state.1.precedents address).any state.2.contains
  · simp only [if_pos hany] at hother ⊢
    rw [value?_recompute]
    by_cases hchanged : (state.1.recompute address).changed
    · rw [if_pos hchanged, Std.ExtTreeSet.mem_insert] at hother
      rw [changed_recompute, hvalue] at hchanged
      by_cases hne : address = other
      · subst other
        rwa [if_pos rfl]
      · rw [if_neg hne]
        exact hmarked other (hother.resolve_left (by simpa using hne))
    · rw [if_neg hchanged] at hother
      have hne : address ≠ other := fun heq => hmarked other hother (heq ▸ hvalue)
      rw [if_neg hne]
      exact hmarked other hother
  · rw [if_neg hany] at hother ⊢
    exact hmarked other hother

theorem value?_ne_of_mem_foldl (hnodup : order.Nodup)
    (hvalue : ∀ address ∈ order, state.1.value? address = base.value? address)
    (hmarked : ∀ address ∈ state.2, state.1.value? address ≠ base.value? address) :
    ∀ address ∈ (order.foldl propagateStep state).2,
      (order.foldl propagateStep state).1.value? address ≠ base.value? address := by
  -- A second visit could take a value back to that of `base`, with the mark left behind.
  induction order generalizing state with
  | nil => exact hmarked
  | cons address order ih =>
    obtain ⟨hfresh, hnodup⟩ := List.nodup_cons.mp hnodup
    refine ih hnodup (fun other hother => ?_)
      (value?_ne_of_mem_propagateStep (hvalue address List.mem_cons_self) hmarked)
    have hne : address ≠ other := fun heq => hfresh (heq ▸ hother)
    rw [value?_propagateStep state hne]
    exact hvalue other (List.mem_cons_of_mem _ hother)

theorem Propagating.any_changed_iff (h : Propagating base state) (address : Address) :
    (state.1.precedents address).any state.2.contains = true ↔
      ∃ source ∈ (base.reading address).precedents, source ∈ state.2 := by
  rw [List.any_eq_true]
  refine exists_congr fun source => ?_
  rw [h.wired.precedents, h.input.precedents_reading, Std.ExtTreeSet.contains_iff_mem]

theorem Propagating.value?_propagateStep_self (h : Propagating base state)
    (hsame : ¬ ∃ source ∈ (base.reading address).precedents, source ∈ state.2) :
    (propagateStep state address).1.value? address = state.1.value? address := by
  rw [propagateStep, if_neg ((h.any_changed_iff address).not.mpr hsame)]

theorem settled_foldl_cons (h : Propagating base state) {last : List Address}
    (hlast : address ∉ last)
    (hsources : ∀ source ∈ (base.reading address).precedents, source ∉ address :: last)
    (hvalue : state.1.value? address = base.value? address)
    (hsettled : (∀ source ∈ (base.reading address).precedents,
      ((address :: last).foldl propagateStep state).1.value? source = base.value? source) →
        Settled base address) :
    Settled ((address :: last).foldl propagateStep state).1 address := by
  have hfinal := h.foldl (address :: last)
  have hread : ∀ source ∈ (base.reading address).precedents,
      ((address :: last).foldl propagateStep state).1.value? source = state.1.value? source :=
    fun source hsource => value?_foldl_propagateStep state (hsources source hsource)
  have hkept : ((address :: last).foldl propagateStep state).1.value? address =
      (propagateStep state address).1.value? address := value?_foldl_propagateStep _ hlast
  generalize (address :: last).foldl propagateStep state = final at hfinal hread hkept hsettled ⊢
  by_cases hchanged : ∃ source ∈ (base.reading address).precedents, source ∈ state.2
  · have hreading : final.1.reading address = state.1.reading address := by
      apply (h.input.symm.trans hfinal.input).reading_eq
      rw [h.input.precedents_reading]
      exact hread
    rw [Settled, hkept, hreading, propagateStep, if_pos ((h.any_changed_iff address).mpr hchanged),
      value?_recompute, if_pos rfl]
  · have hsame : ∀ source ∈ (base.reading address).precedents,
        final.1.value? source = base.value? source := by
      intro source hsource
      rw [hread source hsource]
      exact h.value source fun hmem => hchanged ⟨source, hsource, hmem⟩
    refine settled_congr hfinal.input (hsettled hsame) ?_ hsame
    rw [hkept, h.value?_propagateStep_self hchanged, hvalue]

theorem value?_foldl_cons (h : Propagating base state) {last : List Address}
    (hlast : address ∉ last)
    (hsources : ∀ source ∈ (base.reading address).precedents, source ∉ address :: last)
    (hmarked : ∀ other ∈ state.2, state.1.value? other ≠ base.value? other)
    (hsame : ∀ source ∈ (base.reading address).precedents,
      ((address :: last).foldl propagateStep state).1.value? source = base.value? source) :
    ((address :: last).foldl propagateStep state).1.value? address = state.1.value? address := by
  rw [List.foldl_cons, value?_foldl_propagateStep _ hlast, h.value?_propagateStep_self]
  rintro ⟨source, hsource, hchanged⟩
  apply hmarked source hchanged
  rw [← hsame source hsource, value?_foldl_propagateStep state (hsources source hsource)]

end Worksheet.Sheet
