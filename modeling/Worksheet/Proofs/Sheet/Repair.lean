import Worksheet.Proofs.Graph.Circularity
import Worksheet.Proofs.Sheet.Freshness

/-!
What cycles leave behind when they are gone. A sheet without cycles has the values that entering its
texts anew would give, unless a value that went wrong on a cycle was touched by no later step.
-/

namespace Worksheet

namespace Sheet

variable {sheet before after : Sheet} {options : Options} {address : Address}

def Acyclic (sheet : Sheet) : Prop :=
  ∀ address, sheet.contains address → sheet.isCircular address = false

instance (sheet : Sheet) : Decidable sheet.Acyclic := decidable_of_iff _ forall_contains_iff

theorem Acyclic.not_onCycle (h : Acyclic sheet) (hwired : Wired sheet) (address : Address) :
    ¬ sheet.graph.OnCycle address := by
  by_cases hcontains : sheet.contains address
  · exact Graph.not_onCycle_of_isCircular (h address hcontains)
  · intro hcycle
    obtain ⟨source, hreads, -⟩ := Relation.TransGen.head'_iff.mp hcycle
    have hcell : sheet.cell? address = none := by rw [cell?, if_neg hcontains]
    have hsource := (hwired.precedents address source).mp hreads
    rw [reading_of_cell?_none hcell] at hsource
    exact List.not_mem_nil hsource

theorem value?_eq_of_settled (hoff : ∀ address, ¬ before.graph.OnCycle address)
    (hwired : Wired before) (hrows : after.rows = before.rows)
    (hcolumns : after.columns = before.columns)
    (htext : ∀ address, after.text? address = before.text? address)
    (hbefore : ∀ address, Settled before address) (hafter : ∀ address, Settled after address)
    (address : Address) : after.value? address = before.value? address := by
  induction address using (Graph.wellFounded_reads hoff).induction with
  | _ address ih =>
    have hreading : after.reading address = before.reading address := by
      rw [reading, reading, htext]
      apply read_congr hrows hcolumns
      intro source hsource
      exact ih source ((hwired.precedents address source).mpr hsource)
    rw [hafter address, hbefore address, hreading]

theorem not_onCycle_of_text (hoff : ∀ address, ¬ before.graph.OnCycle address)
    (hbefore : Wired before) (hafter : Wired after) (hrows : after.rows = before.rows)
    (hcolumns : after.columns = before.columns)
    (htext : ∀ address, after.text? address = before.text? address ∨
      (after.reading address).precedents = [])
    (address : Address) : ¬ after.graph.OnCycle address := by
  intro hcycle
  refine hoff address (Relation.TransGen.mono (fun reader source hreads => ?_) _ _ hcycle)
  have hsource := (hafter.precedents reader source).mp hreads
  rcases htext reader with htext | hnone
  · rw [reading, htext, precedents_read_congr hrows hcolumns] at hsource
    exact (hbefore.precedents reader source).mpr hsource
  · rw [hnone] at hsource
    exact absurd hsource List.not_mem_nil

theorem getD_text?_fresh (options : Options) (address : Address) :
    ((fresh options).text? address).getD "" = "" := by
  rw [text?]
  cases hcell : (fresh options).cell? address with
  | none => rfl
  | some cell =>
    obtain ⟨position, rfl⟩ := eq_blank_of_cell?_fresh hcell
    rfl

theorem text?_eq_some_or_none (hshape : SameShape (fresh options) sheet) (address : Address) :
    ((fresh options).text? address).map (fun _ => (sheet.text? address).getD "") =
      sheet.text? address := by
  have hnone := hshape.text?_eq_none_iff address
  cases hblank : (fresh options).text? address with
  | none => exact (hnone.mpr hblank).symm
  | some blank =>
    cases htext : sheet.text? address with
    | none => simp [hnone.mp htext] at hblank
    | some text => rfl

end Sheet

namespace Operation

open Sheet

variable {sheet : Sheet} {options : Options} {address : Address}
  {first last : List (Graph.Enumeration × Operation)} {again : List (Graph.Enumeration × Address)}

def reentry (sheet : Sheet) (again : List (Graph.Enumeration × Address)) :
    List (Graph.Enumeration × Operation) :=
  again.map fun entry => (entry.1, .setText entry.2 ((sheet.text? entry.2).getD ""))

theorem text?_reentry (hshape : SameShape (fresh options) sheet)
    (again : List (Graph.Enumeration × Address)) (address : Address) :
    (runBy (reentry sheet again) (fresh options)).text? address =
      if address ∈ again.map Prod.snd then sheet.text? address
      else (fresh options).text? address := by
  induction again using List.reverseRecOn with
  | nil => rfl
  | append_singleton again entry ih =>
    simp only [reentry, List.map_append, List.map_cons, List.map_nil, List.mem_append,
      List.mem_singleton] at ih ⊢
    rw [runBy_concat, performBy, Outcome.silent, text?_setTextBy, ih]
    by_cases hself : entry.2 = address
    · have hmem : address ∈ again.map Prod.snd ∨ address = entry.2 := .inr hself.symm
      rw [if_pos hself, if_pos hmem, hself]
      split
      · cases sheet.text? address <;> rfl
      · exact text?_eq_some_or_none hshape address
    · rw [if_neg hself]
      simp only [Ne.symm hself, or_false]

theorem settled_reentry (hwired : Wired sheet) (hoff : ∀ address, ¬ sheet.graph.OnCycle address)
    (hshape : SameShape (fresh options) sheet) (again : List (Graph.Enumeration × Address))
    (address : Address) : Settled (runBy (reentry sheet again) (fresh options)) address := by
  apply settled_runBy (wired_fresh options) (settled_fresh options address)
  intro first last hsteps _
  -- What has been entered so far reads no more than the whole sheet does.
  obtain ⟨earlier, later, -, hfirst, -⟩ := List.map_eq_append_iff.mp hsteps
  obtain rfl : first = reentry sheet earlier := hfirst.symm
  have hsame := sameShape_runBy (reentry sheet earlier) (fresh options)
  refine not_onCycle_of_text hoff hwired (wired_runBy (wired_fresh options) _)
    (hsame.rows.trans hshape.rows.symm) (hsame.columns.trans hshape.columns.symm) (fun other => ?_)
    address
  have htext := text?_reentry hshape earlier other
  split at htext
  · exact .inl htext
  · right
    rw [reading, htext, getD_text?_fresh]
    rfl

theorem text?_reentry_of_mem (hshape : SameShape (fresh options) sheet)
    (hagain : ∀ address, (fresh options).contains address → address ∈ again.map Prod.snd)
    (address : Address) :
    (runBy (reentry sheet again) (fresh options)).text? address = sheet.text? address := by
  rw [text?_reentry hshape]
  split
  · rfl
  · rename_i hmem
    have hblank : (fresh options).text? address = none := by
      rw [text?, cell?, if_neg fun hcontains => hmem (hagain address hcontains)]
      rfl
    rw [hblank, (hshape.text?_eq_none_iff address).mpr hblank]

theorem value?_eq_reentry_iff_settled (hwired : Wired sheet)
    (hoff : ∀ address, ¬ sheet.graph.OnCycle address) (hshape : SameShape (fresh options) sheet)
    (hagain : ∀ address, (fresh options).contains address → address ∈ again.map Prod.snd) :
    (∀ address, sheet.value? address =
      (runBy (reentry sheet again) (fresh options)).value? address) ↔
      ∀ address, Settled sheet address := by
  have hanew := sameShape_runBy (reentry sheet again) (fresh options)
  have hrows := hanew.rows.trans hshape.rows.symm
  have hcolumns := hanew.columns.trans hshape.columns.symm
  have htext := text?_reentry_of_mem hshape hagain
  have hsettled := settled_reentry hwired hoff hshape again
  constructor
  · intro hvalue address
    rw [Settled, hvalue address, hsettled address, reading, reading, htext]
    exact congrArg Reading.value (read_congr hrows hcolumns fun source _ => (hvalue source).symm)
  · intro hbefore address
    exact (value?_eq_of_settled hoff hwired hrows hcolumns htext hbefore hsettled address).symm

theorem settled_runBy_iff (h : Wired sheet)
    (hoff : ∀ middle, middle <+: last → middle ≠ [] → ¬ (runBy middle sheet).graph.OnCycle address) :
    Settled (runBy last sheet) address ↔ Settled sheet address ∨
      ∃ middle step, middle ++ [step] <+: last ∧
        Touched (runBy middle sheet) (runBy (middle ++ [step]) sheet) address := by
  induction last using List.reverseRecOn with
  | nil => simp [runBy]
  | append_singleton steps step ih =>
    have hlast := hoff (steps ++ [step]) (List.prefix_refl _) (List.concat_ne_nil _ _)
    have hinit := ih fun middle hmiddle => hoff middle (hmiddle.trans (List.prefix_append _ _))
    rw [runBy_concat] at hlast ⊢
    rw [settled_performBy_iff (wired_runBy h steps) step.2 step.1 hlast, hinit, ← runBy_concat]
    constructor
    · rintro (htouched | hsettled | ⟨middle, later, hmiddle, htouched⟩)
      · exact .inr ⟨steps, step, List.prefix_refl _, htouched⟩
      · exact .inl hsettled
      · exact .inr ⟨middle, later, hmiddle.trans (List.prefix_append _ _), htouched⟩
    · rintro (hsettled | ⟨middle, later, hmiddle, htouched⟩)
      · exact .inr (.inl hsettled)
      · rcases List.prefix_concat_iff.mp hmiddle with heq | hmiddle
        · obtain ⟨rfl, hstep⟩ := List.append_inj' heq rfl
          obtain rfl := List.singleton_inj.mp hstep
          exact .inl htouched
        · exact .inr (.inr ⟨middle, later, hmiddle, htouched⟩)

/--
The values are those of the same texts entered anew exactly if each value that was not the one of
its text was touched after the last cycle had been cut.
-/
theorem value?_eq_reentry_iff_touched (hfinal : Acyclic (runBy (first ++ last) (fresh options)))
    (hlast : ∀ middle, middle <+: last → middle ≠ [] →
      Acyclic (runBy (first ++ middle) (fresh options)))
    (hagain : ∀ address, (fresh options).contains address → address ∈ again.map Prod.snd) :
    (∀ address, (runBy (first ++ last) (fresh options)).value? address =
      (runBy (reentry (runBy (first ++ last) (fresh options)) again) (fresh options)).value?
        address) ↔
      ∀ address, Settled (runBy first (fresh options)) address ∨
        ∃ middle step, middle ++ [step] <+: last ∧
          Touched (runBy (first ++ middle) (fresh options))
            (runBy (first ++ (middle ++ [step])) (fresh options)) address := by
  have hwired := wired_runBy (wired_fresh options) (first ++ last)
  rw [value?_eq_reentry_iff_settled hwired (hfinal.not_onCycle hwired) (sameShape_runBy _ _) hagain]
  apply forall_congr'
  intro address
  have hfirst := wired_runBy (wired_fresh options) first
  simp only [runBy_append first]
  apply settled_runBy_iff hfirst
  intro middle hmiddle hne
  have hacyclic := hlast middle hmiddle hne
  rw [runBy_append] at hacyclic
  exact hacyclic.not_onCycle (wired_runBy hfirst middle) address

/-- Cutting the cycle of `A1` and `B1` by the value that `B1` already shows leaves `A1` as it is. -/
def cutUnchanged : List (Graph.Enumeration × Operation) :=
  [(.sorted, .setText ⟨0, 0⟩ "5"), (.sorted, .setText ⟨0, 1⟩ "=A1+1"),
    (.sorted, .setText ⟨0, 0⟩ "=B1"), (.sorted, .setText ⟨0, 1⟩ "7")]

theorem not_touched_cutUnchanged :
    ¬ ∀ address, Settled (runBy (cutUnchanged.take 3) (fresh ⟨1, 2, none⟩)) address ∨
      ∃ middle step, middle ++ [step] <+: cutUnchanged.drop 3 ∧
        Touched (runBy (cutUnchanged.take 3 ++ middle) (fresh ⟨1, 2, none⟩))
          (runBy (cutUnchanged.take 3 ++ (middle ++ [step])) (fresh ⟨1, 2, none⟩)) address := by
  have hlast : ∀ middle, middle <+: cutUnchanged.drop 3 → middle ≠ [] →
      Acyclic (runBy (cutUnchanged.take 3 ++ middle) (fresh ⟨1, 2, none⟩)) := by
    intro middle hmiddle hne
    rcases List.prefix_cons_iff.mp hmiddle with hnil | ⟨rest, hcut, hrest⟩
    · exact absurd hnil hne
    · rw [hcut, List.prefix_nil.mp hrest]
      decide +kernel
  have hagain : ∀ address, (fresh ⟨1, 2, none⟩).contains address →
      address ∈ [(Graph.Enumeration.sorted, (⟨0, 0⟩ : Address)), (.sorted, ⟨0, 1⟩)].map Prod.snd := by
    rintro ⟨row, col⟩ hcontains
    simp only [contains, Bool.and_eq_true, decide_eq_true_eq] at hcontains
    obtain ⟨hrow : row < 1, hcol : col < 2⟩ := hcontains
    obtain rfl : row = 0 := by omega
    obtain rfl | rfl : col = 0 ∨ col = 1 := by omega
    · decide
    · decide
  intro htouched
  have hvalue := (value?_eq_reentry_iff_touched (by decide +kernel) hlast hagain).mpr htouched ⟨0, 0⟩
  revert hvalue
  decide +kernel

theorem value?_ne_reentry_cutUnchanged :
    Acyclic (runBy cutUnchanged (fresh ⟨1, 2, none⟩)) ∧
      (runBy cutUnchanged (fresh ⟨1, 2, none⟩)).value? ⟨0, 0⟩ = some "6" ∧
      (runBy (reentry (runBy cutUnchanged (fresh ⟨1, 2, none⟩))
        [(.sorted, ⟨0, 0⟩), (.sorted, ⟨0, 1⟩)]) (fresh ⟨1, 2, none⟩)).value? ⟨0, 0⟩ =
          some "7" := by
  decide +kernel

end Operation

end Worksheet
