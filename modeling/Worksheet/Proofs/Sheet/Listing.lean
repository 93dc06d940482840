import Worksheet.Sheet.Change

namespace Worksheet

namespace AdjacencyMap

theorem getElem?_unlink (map : AdjacencyMap) (cell neighbor other : Address) :
    (map.unlink cell neighbor)[other]? =
      if cell = other then
        if ((map.neighbors cell).erase neighbor).isEmpty then none
        else some ((map.neighbors cell).erase neighbor)
      else map[other]? := by
  unfold unlink
  simp only
  by_cases hempty : ((map.neighbors cell).erase neighbor).isEmpty
  · rw [if_pos hempty, if_pos hempty, Std.ExtTreeMap.getElem?_erase]
    simp only [Std.compare_eq_iff_eq]
  · rw [if_neg hempty, if_neg hempty, Std.ExtTreeMap.getElem?_insert]
    simp only [Std.compare_eq_iff_eq]

theorem unlink_comm (map : AdjacencyMap) (first second neighbor : Address) :
    (map.unlink first neighbor).unlink second neighbor =
      (map.unlink second neighbor).unlink first neighbor := by
  by_cases hne : first = second
  · rw [hne]
  · apply Std.ExtTreeMap.ext_getElem?
    intro other
    simp only [getElem?_unlink, neighbors_unlink, if_neg hne, if_neg (Ne.symm hne)]
    by_cases hfirst : first = other
    · subst other
      rw [if_pos rfl, if_neg (Ne.symm hne), if_pos rfl]
    · rw [if_neg hfirst, if_neg hfirst]

end AdjacencyMap

namespace Graph

def clearPrecedentsIn (graph : Graph) (order : List Address) (cell : Address) : Graph where
  readers := order.foldl (fun readers source => readers.unlink source cell) graph.readers
  sources := graph.sources.erase cell

def setPrecedentsIn (graph : Graph) (order : List Address) (cell : Address)
    (precedents : List Address) : Graph :=
  precedents.foldl (fun graph precedent => graph.add precedent cell)
    (graph.clearPrecedentsIn order cell)

theorem setPrecedentsIn_eq {graph : Graph} {order : List Address} {cell : Address}
    (h : order.Perm (graph.precedents cell)) (precedents : List Address) :
    graph.setPrecedentsIn order cell precedents = graph.setPrecedents cell precedents := by
  have hcleared : graph.clearPrecedentsIn order cell = graph.clearPrecedents cell := by
    have hreaders := h.foldl_eq' (f := fun readers source => readers.unlink source cell)
      (fun first _ second _ readers => readers.unlink_comm first second cell) graph.readers
    rw [clearPrecedentsIn, clearPrecedents, hreaders]
  rw [setPrecedentsIn, setPrecedents, hcleared]

/--
The orders in which neighbors are gone through, each one chosen for its own purpose. While a text is
entered nothing is gone through twice for the same purpose, so each time may have an order of its own.
-/
structure Listing where
  readers : Graph → Address → List Address
  forgotten : Graph → Address → List Address
  examined : Graph → Address → List Address
  perm_readers (graph : Graph) (cell : Address) : (readers graph cell).Perm (graph.dependents cell)
  perm_forgotten (graph : Graph) (cell : Address) :
    (forgotten graph cell).Perm (graph.precedents cell)
  perm_examined (graph : Graph) (cell : Address) :
    (examined graph cell).Perm (graph.precedents cell)

def Listing.enumeration (listing : Listing) : Enumeration := ⟨listing.readers, listing.perm_readers⟩

end Graph

namespace Sheet

variable {sheet : Sheet} {listing : Graph.Listing} {address : Address}

def recomputeIn (sheet : Sheet) (listing : Graph.Listing) (address : Address) : Recomputed :=
  match sheet.cell? address with
  | none => ⟨sheet, false, none⟩
  | some cell =>
    let reading := sheet.read cell.text
    let rewired :=
      { sheet with
        graph := sheet.graph.setPrecedentsIn (listing.forgotten sheet.graph address) address
          reading.precedents }
    if cell.value = reading.value then ⟨rewired, false, reading.error⟩
    else ⟨rewired.writeValue address reading.value, true, reading.error⟩

def propagateStepIn (listing : Graph.Listing) (state : Sheet × AddressSet) (address : Address) :
    Sheet × AddressSet :=
  if (listing.examined state.1.graph address).any state.2.contains then
    let recomputed := state.1.recomputeIn listing address
    (recomputed.sheet,
      if recomputed.changed then state.2.insert address else state.2)
  else state

def propagateIn (sheet : Sheet) (listing : Graph.Listing) (origin : Address)
    (order : List Address) : Sheet :=
  (order.foldl (propagateStepIn listing) (sheet, (∅ : AddressSet).insert origin)).1

def setTextIn (sheet : Sheet) (listing : Graph.Listing) (address : Address) (text : String) :
    Outcome Unit :=
  match sheet.cell? address with
  | none => ⟨sheet, .error (.outOfBounds address)⟩
  | some cell =>
    if cell.text = text then ⟨sheet, .ok ()⟩
    else
      let recomputed := (sheet.writeText address text).recomputeIn listing address
      let settled :=
        if recomputed.changed then
          recomputed.sheet.propagateIn listing address
            (listing.enumeration.order recomputed.sheet.graph address)
        else recomputed.sheet
      ⟨settled, recomputed.error.elim (.ok ()) .error⟩

theorem recomputeIn_eq (sheet : Sheet) (listing : Graph.Listing) (address : Address) :
    sheet.recomputeIn listing address = sheet.recompute address := by
  have hperm := listing.perm_forgotten sheet.graph address
  unfold recomputeIn recompute
  cases sheet.cell? address with
  | none => rfl
  | some cell => simp only [Graph.setPrecedentsIn_eq hperm]

theorem propagateStepIn_eq (listing : Graph.Listing) (state : Sheet × AddressSet)
    (address : Address) : propagateStepIn listing state address = propagateStep state address := by
  have hany := (listing.perm_examined state.1.graph address).any_eq (f := state.2.contains)
  rw [propagateStepIn, propagateStep, hany, recomputeIn_eq]
  rfl

theorem setTextIn_eq (sheet : Sheet) (listing : Graph.Listing) (address : Address) (text : String) :
    sheet.setTextIn listing address text = sheet.setTextBy listing.enumeration address text := by
  have hstep : propagateStepIn listing = propagateStep := by
    funext state address
    exact propagateStepIn_eq listing state address
  unfold setTextIn setTextBy
  cases sheet.cell? address with
  | none => rfl
  | some cell =>
    simp only [recomputeIn_eq, propagateIn, propagate, hstep]
    split
    · rfl
    · cases ((sheet.writeText address text).recompute address).error <;> rfl

end Sheet

end Worksheet
