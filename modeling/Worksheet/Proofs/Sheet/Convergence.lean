import Worksheet.Proofs.Sheet.Placement
import Worksheet.Proofs.Sheet.Repair

/-!
Sheets that never have a cycle are what their texts make them. Whatever led to the texts, the values
and the graph are the same, and so is the answer to each text when they are entered one by one.
-/

namespace Worksheet

namespace Operation

open Sheet

variable {sheet : Sheet} {options options' : Options} {address : Address}
  {steps first second : List (Graph.Enumeration × Operation)}
  {again again' : List (Graph.Enumeration × Address)}

def NeverCircular (steps : List (Graph.Enumeration × Operation)) (sheet : Sheet) : Prop :=
  ∀ first, first <+: steps → Acyclic (runBy first sheet)

instance (steps : List (Graph.Enumeration × Operation)) (sheet : Sheet) :
    Decidable (NeverCircular steps sheet) :=
  decidable_of_iff (∀ first ∈ steps.inits, Acyclic (runBy first sheet)) (by
    simp only [List.mem_inits]
    rfl)

theorem NeverCircular.not_onCycle (h : NeverCircular steps sheet) (hwired : Wired sheet)
    (address : Address) : ¬ (runBy steps sheet).graph.OnCycle address :=
  (h steps (List.prefix_refl steps)).not_onCycle (wired_runBy hwired steps) address

theorem NeverCircular.settled (h : NeverCircular steps (fresh options)) (address : Address) :
    Settled (runBy steps (fresh options)) address := by
  have hwired := wired_fresh options
  apply settled_runBy hwired (settled_fresh options address)
  rintro first last rfl _
  exact (h first (List.prefix_append first last)).not_onCycle (wired_runBy hwired first) address

theorem text?_runBy_of_not_contains (h : ¬ (fresh options).contains address)
    (steps : List (Graph.Enumeration × Operation)) :
    (runBy steps (fresh options)).text? address = none := by
  apply ((sameShape_runBy steps (fresh options)).text?_eq_none_iff address).mpr
  rw [text?, cell?_fresh, if_neg h, Option.map_none]

theorem text?_runBy_eq (hrows : (fresh options').rows = (fresh options).rows)
    (hcolumns : (fresh options').columns = (fresh options).columns)
    (htext : ∀ address, (fresh options).contains address →
      (runBy second (fresh options')).text? address = (runBy first (fresh options)).text? address)
    (address : Address) :
    (runBy second (fresh options')).text? address =
      (runBy first (fresh options)).text? address := by
  by_cases hcontains : (fresh options).contains address
  · exact htext address hcontains
  · rw [text?_runBy_of_not_contains hcontains, text?_runBy_of_not_contains]
    rwa [contains_congr hrows hcolumns]

theorem graph_runBy_eq (hrows : (fresh options').rows = (fresh options).rows)
    (hcolumns : (fresh options').columns = (fresh options).columns)
    (htext : ∀ address, (runBy second (fresh options')).text? address =
      (runBy first (fresh options)).text? address) :
    (runBy second (fresh options')).graph = (runBy first (fresh options)).graph := by
  have hfirst := (fresh options).evolves_runBy first
  have hsecond := (fresh options').evolves_runBy second
  apply graph_eq_of_text? (wired_runBy (wired_fresh options) first)
    (wired_runBy (wired_fresh options') second) (tight_of_evolves hfirst) (tight_of_evolves hsecond)
  · rw [hsecond.shape.rows, hfirst.shape.rows, hrows]
  · rw [hsecond.shape.columns, hfirst.shape.columns, hcolumns]
  · exact htext

theorem value?_runBy_eq (hrows : (fresh options').rows = (fresh options).rows)
    (hcolumns : (fresh options').columns = (fresh options).columns)
    (hfirst : NeverCircular first (fresh options))
    (hsecond : NeverCircular second (fresh options'))
    (htext : ∀ address, (runBy second (fresh options')).text? address =
      (runBy first (fresh options)).text? address) (address : Address) :
    (runBy second (fresh options')).value? address =
      (runBy first (fresh options)).value? address := by
  have hshape := sameShape_runBy first (fresh options)
  have hshape' := sameShape_runBy second (fresh options')
  apply value?_eq_of_settled (hfirst.not_onCycle (wired_fresh options))
    (wired_runBy (wired_fresh options) first)
  · rw [hshape'.rows, hshape.rows, hrows]
  · rw [hshape'.columns, hshape.columns, hcolumns]
  · exact htext
  · exact hfirst.settled
  · exact hsecond.settled

structure Complete (sheet : Sheet) (again : List (Graph.Enumeration × Address)) : Prop where
  nodup : (again.map Prod.snd).Nodup
  inside : ∀ address ∈ again.map Prod.snd, sheet.contains address
  written : ∀ address, sheet.contains address → (sheet.text? address).getD "" ≠ "" →
    address ∈ again.map Prod.snd

instance (sheet : Sheet) (again : List (Graph.Enumeration × Address)) :
    Decidable (Complete sheet again) :=
  have : Decidable (∀ address, sheet.contains address → (sheet.text? address).getD "" ≠ "" →
    address ∈ again.map Prod.snd) := decidable_of_iff _ forall_contains_iff
  decidable_of_iff
    ((again.map Prod.snd).Nodup ∧ (∀ address ∈ again.map Prod.snd, sheet.contains address) ∧ _)
    ⟨fun h => ⟨h.1, h.2.1, h.2.2⟩, fun h => ⟨h.nodup, h.inside, h.written⟩⟩

theorem text?_reentry_of_complete (hshape : SameShape (fresh options) sheet)
    (hagain : Complete sheet again) (address : Address) :
    (runBy (reentry sheet again) (fresh options)).text? address = sheet.text? address := by
  rw [text?_reentry hshape]
  split
  · rfl
  · rename_i hmem
    rw [← text?_eq_some_or_none hshape]
    have hfresh := getD_text?_fresh options address
    cases htext : (fresh options).text? address with
    | none => rfl
    | some text =>
      have hcontains : sheet.contains address := by
        rw [contains_congr hshape.rows hshape.columns]
        rw [text?, Option.map_eq_some_iff] at htext
        obtain ⟨cell, hcell, -⟩ := htext
        exact contains_of_cell? hcell
      have hblank : (sheet.text? address).getD "" = "" :=
        not_ne_iff.mp fun hwritten => hmem (hagain.written address hcontains hwritten)
      rw [htext, Option.getD_some] at hfresh
      rw [hblank, hfresh, Option.map_some]

theorem result_reentry (hshape : SameShape (fresh options) sheet)
    {earlier later : List (Graph.Enumeration × Address)} {entry : Graph.Enumeration × Address}
    (hagain : Complete sheet (earlier ++ entry :: later)) :
    ((runBy (reentry sheet earlier) (fresh options)).setTextBy entry.1 entry.2
      ((sheet.text? entry.2).getD "")).result = (sheet.reading entry.2).answer := by
  have hcontains : (fresh options).contains entry.2 := by
    rw [← contains_congr hshape.rows hshape.columns]
    apply hagain.inside
    rw [List.map_append]
    exact List.mem_append_right _ List.mem_cons_self
  have hearlier : entry.2 ∉ earlier.map Prod.snd := by
    have hnodup := hagain.nodup
    rw [List.map_append, List.nodup_append] at hnodup
    exact fun hmem => hnodup.2.2 _ hmem _ List.mem_cons_self rfl
  have hblank := text?_reentry hshape earlier entry.2
  rw [if_neg hearlier, text?, text?, cell?_fresh, if_pos hcontains, Option.map_some,
    Option.map_eq_some_iff] at hblank
  obtain ⟨cell, hcell, htext⟩ := hblank
  have hreentry := sameShape_runBy (reentry sheet earlier) (fresh options)
  have hanswer : ((runBy (reentry sheet earlier) (fresh options)).read
      ((sheet.text? entry.2).getD "")).answer = (sheet.reading entry.2).answer :=
    congrArg (Option.elim · _ _) (error_read_congr (hreentry.rows.trans hshape.rows.symm)
      (hreentry.columns.trans hshape.columns.symm) _)
  rw [result_setTextBy hcell, htext, hanswer]
  split
  · -- An empty text is there already, and nothing is wrong with it.
    rename_i hempty
    rw [reading, ← hempty]
    rfl
  · rfl

theorem value?_reentry_eq (hacyclic : Acyclic (runBy steps (fresh options)))
    (hagain : Complete (runBy steps (fresh options)) again)
    (hagain' : Complete (runBy steps (fresh options)) again') (address : Address) :
    (runBy (reentry (runBy steps (fresh options)) again') (fresh options)).value? address =
      (runBy (reentry (runBy steps (fresh options)) again) (fresh options)).value? address := by
  have hwired := wired_runBy (wired_fresh options) steps
  have hshape := sameShape_runBy steps (fresh options)
  have hoff := hacyclic.not_onCycle hwired
  generalize runBy steps (fresh options) = sheet at hwired hshape hoff hagain hagain' ⊢
  have hreentry := sameShape_runBy (reentry sheet again) (fresh options)
  have hreentry' := sameShape_runBy (reentry sheet again') (fresh options)
  have hwired' := wired_runBy (wired_fresh options) (reentry sheet again)
  have htext := text?_reentry_of_complete hshape hagain
  have htext' := text?_reentry_of_complete hshape hagain'
  have hrows := hreentry'.rows.trans hreentry.rows.symm
  have hcolumns := hreentry'.columns.trans hreentry.columns.symm
  apply value?_eq_of_settled _ hwired' hrows hcolumns
  · intro other
    rw [htext, htext']
  · exact settled_reentry hwired hoff hshape again
  · exact settled_reentry hwired hoff hshape again'
  · apply not_onCycle_of_text hoff hwired hwired' (hreentry.rows.trans hshape.rows.symm)
      (hreentry.columns.trans hshape.columns.symm)
    exact fun other => .inl (htext other)

/--
Without cycles the texts determine the values and the graph. The texts of a sheet without cycles can
be entered in any order, and each one is answered in the same way wherever it comes up.
-/
theorem determined_by_text? (options options' : Options)
    (hrows : (fresh options').rows = (fresh options).rows)
    (hcolumns : (fresh options').columns = (fresh options).columns) :
    (∀ first second, NeverCircular first (fresh options) → NeverCircular second (fresh options') →
      (∀ address, (fresh options).contains address →
        (runBy second (fresh options')).text? address =
          (runBy first (fresh options)).text? address) →
      (∀ address, (runBy second (fresh options')).value? address =
        (runBy first (fresh options)).value? address) ∧
      (runBy second (fresh options')).graph = (runBy first (fresh options)).graph) ∧
    ∀ steps again again', Acyclic (runBy steps (fresh options)) →
      Complete (runBy steps (fresh options)) again →
      Complete (runBy steps (fresh options)) again' →
      (∀ address,
        (runBy (reentry (runBy steps (fresh options)) again') (fresh options)).value? address =
          (runBy (reentry (runBy steps (fresh options)) again) (fresh options)).value? address) ∧
      ∀ earlier entry later, again = earlier ++ entry :: later →
        ((runBy (reentry (runBy steps (fresh options)) earlier) (fresh options)).setTextBy entry.1
          entry.2 (((runBy steps (fresh options)).text? entry.2).getD "")).result =
            ((runBy steps (fresh options)).reading entry.2).answer := by
  constructor
  · intro first second hfirst hsecond hgrid
    have htext := text?_runBy_eq hrows hcolumns hgrid
    constructor
    · exact value?_runBy_eq hrows hcolumns hfirst hsecond htext
    · exact graph_runBy_eq hrows hcolumns htext
  · intro steps again again' hacyclic hagain hagain'
    constructor
    · exact value?_reentry_eq hacyclic hagain hagain'
    · rintro earlier entry later rfl
      exact result_reentry (sameShape_runBy steps (fresh options)) hagain

def straight : List (Graph.Enumeration × Operation) :=
  [(.sorted, .setText ⟨0, 0⟩ "=B1+1"), (.sorted, .setText ⟨0, 1⟩ "2"),
    (.sorted, .setText ⟨0, 2⟩ "=A1*2")]

def detour : List (Graph.Enumeration × Operation) :=
  [(.sorted, .editText ⟨0, 2⟩ "=B1"), (.sorted, .editText ⟨0, 1⟩ "2"),
    (.sorted, .editText ⟨0, 2⟩ "=A1*2"), (.sorted, .undo), (.sorted, .redo),
    (.sorted, .editText ⟨0, 0⟩ "=B9"), (.sorted, .undo), (.sorted, .setText ⟨0, 0⟩ "=B1+1")]

theorem value?_detour :
    (∀ address, (runBy detour (fresh ⟨1, 3, some 2⟩)).value? address =
      (runBy straight (fresh ⟨1, 3, none⟩)).value? address) ∧
    ((runBy (reentry (runBy straight (fresh ⟨1, 3, none⟩)) [(.sorted, ⟨0, 2⟩)])
      (fresh ⟨1, 3, none⟩)).setTextBy .sorted ⟨0, 1⟩ "2").result = .ok () := by
  obtain ⟨hruns, horders⟩ := determined_by_text? ⟨1, 3, none⟩ ⟨1, 3, some 2⟩ rfl rfl
  constructor
  · have htext : ∀ address, (fresh ⟨1, 3, none⟩).contains address →
        (runBy detour (fresh ⟨1, 3, some 2⟩)).text? address =
          (runBy straight (fresh ⟨1, 3, none⟩)).text? address :=
      forall_contains_iff.mp (by decide +kernel)
    exact (hruns straight detour (by decide +kernel) (by decide +kernel) htext).1
  · have hstraight : (runBy straight (fresh ⟨1, 3, none⟩)).text? ⟨0, 1⟩ = some "2" := by
      decide +kernel
    have hanswer := (horders straight [(.sorted, ⟨0, 2⟩), (.sorted, ⟨0, 1⟩), (.sorted, ⟨0, 0⟩)]
      [(.sorted, ⟨0, 0⟩), (.sorted, ⟨0, 1⟩), (.sorted, ⟨0, 2⟩)] (by decide +kernel)
      (by decide +kernel) (by decide +kernel)).2 [(.sorted, ⟨0, 2⟩)] (.sorted, ⟨0, 1⟩)
      [(.sorted, ⟨0, 0⟩)] rfl
    simp only [hstraight, reading] at hanswer
    exact hanswer

end Operation

end Worksheet
