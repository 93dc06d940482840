import Mathlib.Data.List.Nodup
import Mathlib.Data.List.TakeWhile
import Mathlib.Logic.Relation
import Worksheet.Graph.Walk

namespace Worksheet.Graph

/-- A path along readers that does not come back to `origin`. -/
def Leads (next : Address → List Address) (origin : Address) : Address → Address → Prop :=
  Relation.ReflTransGen fun cell reader => reader ∈ next cell ∧ reader ≠ origin

structure Traversal (next : Address → List Address) (origin : Address) (unvisited : AdjacencyMap)
    (finished : List Address) (path : Path) : Prop where
  nodup : (path.map Prod.fst ++ finished).Nodup
  visited : ∀ cell ∈ path.map Prod.fst ++ finished, cell ∉ unvisited
  known : ∀ cell, ∀ reader ∈ next cell,
    reader ∈ unvisited ∨ reader ∈ path.map Prod.fst ++ finished
  root : (path.map Prod.fst).getLast? = some origin ∨ path = [] ∧ finished.head? = some origin
  reached : ∀ cell ∈ path.map Prod.fst ++ finished, Leads next origin origin cell
  climbs : (path.map Prod.fst).Pairwise fun last first => Leads next origin first last
  listed : ∀ frame ∈ path, ∀ reader ∈ frame.2, reader ∈ next frame.1
  frames : ∀ frame ∈ path, ∀ reader ∈ next frame.1, reader ∈ frame.2 ∨ reader ∉ unvisited
  closed : ∀ cell ∈ finished, ∀ reader ∈ next cell, reader ∉ unvisited
  settled : ∀ cell later, cell :: later <:+ finished →
    ∀ reader ∈ next cell, reader ∈ later ∨ Leads next origin reader cell

variable {next : Address → List Address} {origin cell reader : Address} {unvisited : AdjacencyMap}
  {finished readers rest : List Address} {path : Path}

theorem not_mem_of_dropWhile_eq_nil (h : readers.dropWhile (· ∉ unvisited) = [])
    (hreader : reader ∈ readers) : reader ∉ unvisited := by
  simpa using List.dropWhile_eq_nil_iff.mp h reader hreader

theorem mem_of_dropWhile_eq_cons (h : readers.dropWhile (· ∉ unvisited) = reader :: rest)
    {other : Address} (hother : other ∈ readers) :
    other ∉ unvisited ∨ other = reader ∨ other ∈ rest := by
  rw [← List.takeWhile_append_dropWhile (p := (· ∉ unvisited)) (l := readers), h, List.mem_append,
    List.mem_cons] at hother
  rcases hother with hother | hother
  · exact .inl (by simpa using List.mem_takeWhile_imp hother)
  · exact .inr hother

theorem not_mem_erase {other : Address} (h : other ∉ unvisited) (reader : Address) :
    other ∉ unvisited.erase reader := fun hmem => h (Std.ExtTreeMap.mem_of_mem_erase hmem)

namespace Traversal

theorem leads_head (h : Traversal next origin unvisited finished ((cell, readers) :: path))
    {first : Address} (hfirst : first ∈ cell :: path.map Prod.fst) :
    Leads next origin first cell := by
  rcases List.mem_cons.mp hfirst with rfl | hfirst
  · exact .refl
  · exact (List.pairwise_cons.mp h.climbs).1 first hfirst

theorem origin_mem (h : Traversal next origin unvisited finished ((cell, readers) :: path)) :
    origin ∈ ((cell, readers) :: path).map Prod.fst ++ finished := by
  rcases h.root with hroot | ⟨hnil, -⟩
  · exact List.mem_append_left _ (List.mem_of_getLast? hroot)
  · exact absurd hnil (List.cons_ne_nil _ _)

theorem pop (h : Traversal next origin unvisited finished ((cell, readers) :: path))
    (hreaders : ∀ reader ∈ readers, reader ∉ unvisited) :
    Traversal next origin unvisited (cell :: finished) path := by
  have hmem (other : Address) : other ∈ path.map Prod.fst ++ cell :: finished ↔
      other ∈ ((cell, readers) :: path).map Prod.fst ++ finished := List.perm_middle.mem_iff
  have hvisited : ∀ reader ∈ next cell, reader ∉ unvisited := fun reader hreader =>
    (h.frames _ List.mem_cons_self reader hreader).elim (hreaders reader) id
  refine
    { nodup := List.nodup_middle.mpr h.nodup
      visited := fun other hother => h.visited other ((hmem other).mp hother)
      known := fun other reader hreader => (h.known other reader hreader).imp_right (hmem reader).mpr
      root := ?root
      reached := fun other hother => h.reached other ((hmem other).mp hother)
      climbs := (List.pairwise_cons.mp h.climbs).2
      listed := fun frame hframe => h.listed frame (List.mem_cons_of_mem _ hframe)
      frames := fun frame hframe => h.frames frame (List.mem_cons_of_mem _ hframe)
      closed := ?closed
      settled := ?settled }
  case root =>
    have hroot := h.root
    cases path with
    | nil =>
      simp only [List.map_cons, List.map_nil, List.getLast?_singleton, Option.some.injEq,
        reduceCtorEq, false_and, or_false] at hroot
      exact .inr ⟨rfl, congrArg some hroot⟩
    | cons frame path =>
      simp only [List.map_cons, List.getLast?_cons_cons, reduceCtorEq, false_and, or_false] at hroot
      exact .inl hroot
  case closed =>
    intro other hother
    rcases List.mem_cons.mp hother with rfl | hother
    · exact hvisited
    · exact h.closed other hother
  case settled =>
    -- A reader that is not finished yet is still on the path, which leads on to the popped cell.
    intro other later hsuffix reader hreader
    rcases List.suffix_cons_iff.mp hsuffix with heq | hsuffix
    · obtain ⟨rfl, rfl⟩ := List.cons.inj heq
      have hseen := (h.known other reader hreader).resolve_left (hvisited reader hreader)
      rw [List.map_cons, List.mem_append] at hseen
      exact hseen.symm.imp_right h.leads_head
    · exact h.settled other later hsuffix reader hreader

theorem push (h : Traversal next origin unvisited finished ((cell, readers) :: path))
    (hdrop : readers.dropWhile (· ∉ unvisited) = reader :: rest) :
    Traversal next origin (unvisited.erase reader) finished
      ((reader, next reader) :: (cell, rest) :: path) := by
  have hfresh : reader ∉ ((cell, readers) :: path).map Prod.fst ++ finished := fun hmem =>
    h.visited reader hmem (mem_of_dropWhile_not_mem hdrop)
  have hsuffix : reader :: rest <:+ readers := hdrop ▸ List.dropWhile_suffix _
  have hrest : ∀ third ∈ reader :: rest, third ∈ next cell := fun third hthird =>
    h.listed _ List.mem_cons_self third (hsuffix.mem hthird)
  have hstep : reader ∈ next cell ∧ reader ≠ origin :=
    ⟨hrest reader List.mem_cons_self, fun heq => hfresh (heq ▸ h.origin_mem)⟩
  refine
    { nodup := List.nodup_cons.mpr ⟨hfresh, h.nodup⟩
      visited := ?visited
      known := ?known
      root := ?root
      reached := ?reached
      climbs := List.pairwise_cons.mpr ⟨fun first hfirst => (h.leads_head hfirst).tail hstep, h.climbs⟩
      listed := ?listed
      frames := ?frames
      closed := fun other hother third hthird =>
        not_mem_erase (h.closed other hother third hthird) reader
      settled := h.settled }
  case visited =>
    intro other hother
    rcases List.mem_cons.mp hother with rfl | hother
    · simp
    · exact not_mem_erase (h.visited other hother) reader
  case known =>
    intro other third hthird
    by_cases heq : third = reader
    · exact .inr (heq ▸ List.mem_cons_self)
    · refine (h.known other third hthird).imp (fun hmem => ?_) (List.mem_cons_of_mem _)
      exact Std.ExtTreeMap.mem_erase.mpr ⟨by simpa using Ne.symm heq, hmem⟩
  case root =>
    have hroot := h.root
    left
    simpa using hroot
  case reached =>
    intro other hother
    rcases List.mem_cons.mp hother with rfl | hother
    · exact (h.reached cell List.mem_cons_self).tail hstep
    · exact h.reached other hother
  case listed =>
    intro frame hframe third hthird
    simp only [List.mem_cons] at hframe
    rcases hframe with rfl | rfl | hframe
    · exact hthird
    · exact hrest third (List.mem_cons_of_mem _ hthird)
    · exact h.listed frame (List.mem_cons_of_mem _ hframe) third hthird
  case frames =>
    intro frame hframe third hthird
    simp only [List.mem_cons] at hframe
    rcases hframe with rfl | rfl | hframe
    · exact .inl hthird
    · rcases h.frames _ List.mem_cons_self third hthird with hmem | hmem
      · rcases mem_of_dropWhile_eq_cons hdrop hmem with hunvisited | rfl | hmem
        · exact .inr (not_mem_erase hunvisited reader)
        · exact .inr (by simp)
        · exact .inl hmem
      · exact .inr (not_mem_erase hmem reader)
    · refine (h.frames frame (List.mem_cons_of_mem _ hframe) third hthird).imp_right fun hmem => ?_
      exact not_mem_erase hmem reader

theorem advance (h : Traversal next origin unvisited finished path) :
    match Graph.advance unvisited finished path with
    | (finished, none) => Traversal next origin unvisited finished []
    | (finished, some (reader, path)) =>
      Traversal next origin (unvisited.erase reader) finished ((reader, next reader) :: path) := by
  fun_induction Graph.advance unvisited finished path with
  | case1 => exact h
  | case2 _ _ _ _ hdrop ih => exact ih (h.pop fun _ => not_mem_of_dropWhile_eq_nil hdrop)
  | case3 _ _ _ _ _ _ hdrop => exact h.push hdrop

theorem finish (h : Traversal next origin unvisited finished path) :
    ∃ left, Traversal next origin left (Graph.finish next unvisited finished path) [] := by
  fun_induction Graph.finish next unvisited finished path with
  | case1 unvisited finished path finished' hadvance =>
    have hwalk := h.advance
    rw [hadvance] at hwalk
    exact ⟨unvisited, hwalk⟩
  | case2 unvisited finished path finished' reader path' hadvance ih =>
    have hwalk := h.advance
    rw [hadvance] at hwalk
    exact ih hwalk

end Traversal

variable {graph : Graph} {before after : List Address} {source : Address}

theorem traversal_start (origin : Address)
    (hnext : ∀ cell, ∀ reader ∈ next cell, reader ∈ graph.sources) :
    Traversal next origin (graph.sources.erase origin) [] [(origin, next origin)] where
  nodup := by simp
  visited cell hcell := by
    obtain rfl : cell = origin := by simpa using hcell
    simp
  known cell reader hreader := by
    by_cases heq : reader = origin
    · exact .inr (by simp [heq])
    · exact .inl (Std.ExtTreeMap.mem_erase.mpr
        ⟨by simpa using Ne.symm heq, hnext cell reader hreader⟩)
  root := .inl rfl
  reached cell hcell := by
    obtain rfl : cell = origin := by simpa using hcell
    exact .refl
  climbs := List.pairwise_singleton _ _
  listed frame hframe := by
    obtain rfl := List.mem_singleton.mp hframe
    exact fun _ => id
  frames frame hframe := by
    obtain rfl := List.mem_singleton.mp hframe
    exact fun _ => .inl
  closed := by simp
  settled := by simp

theorem traversal_orderBy (origin : Address)
    (hnext : ∀ cell, ∀ reader ∈ next cell, reader ∈ graph.sources) :
    ∃ left, Traversal next origin left (origin :: graph.orderBy next origin) [] := by
  obtain ⟨left, hwalk⟩ := (traversal_start origin hnext).finish
  have hhead := hwalk.root
  simp only [List.map_nil, List.getLast?_nil, reduceCtorEq, true_and, false_or] at hhead
  obtain ⟨order, horder⟩ := List.head?_eq_some_iff.mp hhead
  refine ⟨left, ?_⟩
  rw [orderBy, horder, List.tail_cons, ← horder]
  exact hwalk

theorem nodup_orderBy (origin : Address)
    (hnext : ∀ cell, ∀ reader ∈ next cell, reader ∈ graph.sources) :
    (origin :: graph.orderBy next origin).Nodup := by
  obtain ⟨_, hwalk⟩ := traversal_orderBy origin hnext
  exact hwalk.nodup

theorem leads_of_mem_orderBy (hnext : ∀ cell, ∀ reader ∈ next cell, reader ∈ graph.sources)
    (hcell : cell ∈ graph.orderBy next origin) : Leads next origin origin cell := by
  obtain ⟨_, hwalk⟩ := traversal_orderBy origin hnext
  exact hwalk.reached cell (List.mem_cons_of_mem _ hcell)

theorem reader_mem_orderBy (hnext : ∀ cell, ∀ reader ∈ next cell, reader ∈ graph.sources)
    (hcell : cell ∈ origin :: graph.orderBy next origin) (hreader : reader ∈ next cell) :
    reader ∈ origin :: graph.orderBy next origin := by
  obtain ⟨_, hwalk⟩ := traversal_orderBy origin hnext
  exact (hwalk.known cell reader hreader).resolve_left (hwalk.closed cell hcell reader hreader)

theorem leads_of_orderBy (hnext : ∀ cell, ∀ reader ∈ next cell, reader ∈ graph.sources)
    (horder : graph.orderBy next origin = before ++ cell :: after) (hsource : source ∈ after)
    (hcell : cell ∈ next source) : Leads next origin cell source := by
  obtain ⟨_, hwalk⟩ := traversal_orderBy origin hnext
  obtain ⟨first, last, rfl⟩ := List.append_of_mem hsource
  have hsuffix : source :: last <:+ origin :: graph.orderBy next origin :=
    ⟨origin :: before ++ cell :: first, by simp [horder]⟩
  refine (hwalk.settled source last hsuffix cell hcell).resolve_left fun hlast => ?_
  have hnodup := hwalk.nodup
  rw [horder] at hnodup
  have := (List.nodup_append.mp (List.nodup_cons.mp hnodup).2).2.1
  simp_all

end Worksheet.Graph
