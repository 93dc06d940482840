import Worksheet.Proofs.Sheet.Freshness
import Worksheet.Proofs.Sheet.Snapshot

/-!
The history of a sheet keeps single commands, read from the sheet when they are needed. It goes back
and forth between the same moments as an editor that keeps them all.
-/

namespace Worksheet

open Sheet

variable {sheet : Sheet} {timeline : Timeline} {command : Command}
  {enumeration : Graph.Enumeration} {moment : Snapshot}

theorem snapshot_of_cell? {cell : Cell} {address : Address}
    (h : sheet.cell? address = some cell) :
    sheet.snapshot address = some (cell.text, cell.color) := by
  rw [snapshot, h, Option.map_some]

theorem changes_text_iff {cell : Cell} {address : Address} (text : String)
    (hcell : sheet.cell? address = some cell) :
    (Command.text address text).Changes sheet.snapshot ↔ cell.text ≠ text := by
  have hsnapshot := snapshot_of_cell? hcell
  have hfits : (Command.text address text).Fits sheet.snapshot := by
    intro other hmem
    obtain rfl := List.mem_singleton.mp hmem
    rw [hsnapshot, Option.isSome_some]
  rw [Command.Changes, ne_eq, Command.applyTo_eq_self_iff, and_iff_right hfits, ne_eq, not_iff_not]
  constructor
  · intro h
    have hsame := h address (List.mem_singleton_self address)
    simp only [hsnapshot, Option.map_some, Command.rewrite, Option.some.injEq, Prod.mk.injEq] at hsame
    exact hsame.1.symm
  · rintro rfl other hmem
    obtain rfl := List.mem_singleton.mp hmem
    rw [hsnapshot]
    rfl

theorem changes_color_iff {cells : List Address} (color : Color)
    (hfits : (Command.color cells color).Fits sheet.snapshot) :
    (Command.color cells color).Changes sheet.snapshot ↔
      ¬ ((cells.filterMap sheet.cell?).map Cell.color).all (· = color) := by
  rw [Command.Changes, ne_eq, Command.applyTo_eq_self_iff, and_iff_right hfits, not_iff_not]
  simp only [Command.cells, List.all_map, List.all_eq_true, List.mem_filterMap]
  constructor
  · rintro h cell ⟨address, hmem, hcell⟩
    have hsame := h address hmem
    simp only [snapshot_of_cell? hcell, Option.map_some, Command.rewrite, Option.some.injEq,
      Prod.mk.injEq] at hsame
    exact decide_eq_true hsame.2.symm
  · intro h address hmem
    obtain ⟨entered, hentered⟩ := Option.isSome_iff_exists.mp (hfits address hmem)
    rw [snapshot, Option.map_eq_some_iff] at hentered
    obtain ⟨cell, hcell, rfl⟩ := hentered
    have hcolor : cell.color = color := of_decide_eq_true (h cell ⟨address, hmem, hcell⟩)
    rw [snapshot_of_cell? hcell, ← hcolor]
    rfl

theorem editTextBy_sheet (sheet : Sheet) (enumeration : Graph.Enumeration) (address : Address)
    (text : String) :
    (sheet.editTextBy enumeration address text).sheet =
      if (Command.text address text).Changes sheet.snapshot then
        ((Command.text address text).executeBy enumeration { sheet with
          history := sheet.history.record ((Command.text address text).inverseAt sheet.snapshot)
          }).sheet
      else sheet := by
  unfold editTextBy
  cases hcell : sheet.cell? address with
  | none =>
    have hsame : ¬ (Command.text address text).Changes sheet.snapshot := by
      rintro ⟨hfits, -⟩
      simpa [snapshot, hcell] using hfits address (List.mem_singleton_self address)
    rw [if_neg hsame]
  | some cell =>
    simp only [changes_text_iff text hcell, ne_eq, ite_not]
    split
    · rfl
    · simp only [Command.executeBy, Command.inverseAt, snapshot, hcell]
      rfl

theorem editColor_sheet (hsize : sheet.cells.size = sheet.rows * sheet.columns)
    (enumeration : Graph.Enumeration) (cells : List Address) (color : Color) :
    (sheet.editColor cells color).sheet =
      if (Command.color cells color).Changes sheet.snapshot then
        ((Command.color cells color).executeBy enumeration { sheet with
          history := sheet.history.record ((Command.color cells color).inverseAt sheet.snapshot)
          }).sheet
      else sheet := by
  unfold editColor
  cases houtside : sheet.firstOutside? cells with
  | some outside =>
    have hsame : ¬ (Command.color cells color).Changes sheet.snapshot := by
      rintro ⟨hfits, -⟩
      have hinside : sheet.firstOutside? cells = none := (firstOutside?_eq_none_iff hsize).mpr hfits
      rw [houtside] at hinside
      exact Option.some_ne_none _ hinside
    rw [if_neg hsame]
  | none =>
    have hfits : (Command.color cells color).Fits sheet.snapshot :=
      (firstOutside?_eq_none_iff hsize).mp houtside
    simp only [changes_color_iff color hfits]
    cases cells with
    | nil => rfl
    | cons first rest =>
      obtain ⟨entered, hentered⟩ := Option.isSome_iff_exists.mp (hfits first List.mem_cons_self)
      have hfirst := hentered
      rw [snapshot, Option.map_eq_some_iff] at hfirst
      obtain ⟨cell, hcell, rfl⟩ := hfirst
      simp only [List.filterMap_cons, hcell, List.map_cons, ite_not]
      split
      · rfl
      · simp only [Command.executeBy, Command.inverseAt, hentered]
        rfl

theorem undoBy_sheet {commands : List Command} (hundo : sheet.history.undo = command :: commands)
    (hfits : command.Fits sheet.snapshot) (enumeration : Graph.Enumeration) :
    (sheet.undoBy enumeration).sheet =
      (command.executeBy enumeration { sheet with
        history := ({ sheet.history with undo := commands } : History).pushRedo
          (command.inverseAt sheet.snapshot) }).sheet := by
  simp only [undoBy, History.popUndo, hundo, List.head?_cons, List.tail_cons, inverse_eq hfits]

theorem redoBy_sheet {commands : List Command} (hredo : sheet.history.redo = command :: commands)
    (hfits : command.Fits sheet.snapshot) (enumeration : Graph.Enumeration) :
    (sheet.redoBy enumeration).sheet =
      (command.executeBy enumeration { sheet with
        history := ({ sheet.history with redo := commands } : History).pushUndo
          (command.inverseAt sheet.snapshot) }).sheet := by
  simp only [redoBy, History.popRedo, hredo, List.head?_cons, List.tail_cons, inverse_eq hfits]

/-- Each command on a stack links one moment to the next, starting from the present. -/
structure Follows (sheet : Sheet) (timeline : Timeline) : Prop where
  size : sheet.cells.size = sheet.rows * sheet.columns
  present : sheet.snapshot = timeline.present
  past : Command.Trace timeline.present sheet.history.undo timeline.past
  future : Command.Trace timeline.present sheet.history.redo timeline.future
  limit : sheet.history.limit = timeline.limit
  bound : ∀ limit, timeline.limit = some limit →
    timeline.past.length + timeline.future.length ≤ limit

theorem follows_executeBy {history : History} {past future : List Snapshot}
    (hsize : sheet.cells.size = sheet.rows * sheet.columns)
    (hlinks : command.Links sheet.snapshot moment)
    (hpast : Command.Trace moment history.undo past)
    (hfuture : Command.Trace moment history.redo future)
    (hbound : ∀ limit, history.limit = some limit → past.length + future.length ≤ limit)
    (enumeration : Graph.Enumeration) :
    Follows (command.executeBy enumeration { sheet with history }).sheet
      ⟨past, moment, future, history.limit⟩ := by
  have hshape : SameShape { sheet with history }
      (command.executeBy enumeration { sheet with history }).sheet :=
    Operation.sameShape_performBy (.execute command) enumeration { sheet with history }
  have hhistory := history_executeBy command enumeration { sheet with history }
  constructor
  · rw [hshape.size, hshape.rows, hshape.columns]
    exact hsize
  · rw [← hlinks.forth]
    exact snapshot_executeBy hsize hlinks.fits
  · rwa [hhistory]
  · rwa [hhistory]
  · rw [hhistory]
  · exact hbound

def Action.Uniform (action : Action) (sheet : Sheet) : Prop :=
  match action with
  | .edit command => command.Changes sheet.snapshot → command.Uniform sheet.snapshot
  | .undo | .redo => True

namespace Follows

theorem edit (h : Follows sheet timeline)
    (huniform : command.Changes sheet.snapshot → command.Uniform sheet.snapshot)
    (enumeration : Graph.Enumeration) :
    Follows ((Action.edit command).operation.performBy enumeration sheet).sheet
      (timeline.edit command) := by
  have hsheet : ((Action.edit command).operation.performBy enumeration sheet).sheet =
      if command.Changes sheet.snapshot then
        (command.executeBy enumeration { sheet with
          history := sheet.history.record (command.inverseAt sheet.snapshot) }).sheet
      else sheet := by
    cases command with
    | text address text => exact editTextBy_sheet sheet enumeration address text
    | color cells color => exact editColor_sheet h.size enumeration cells color
  rw [hsheet, Timeline.edit, ← h.present]
  split
  · rename_i hchanges
    have hlinks := Command.links_applyTo hchanges.1 (huniform hchanges)
    have htrace : Command.Trace (command.applyTo sheet.snapshot)
        (command.inverseAt sheet.snapshot :: sheet.history.undo)
        (sheet.snapshot :: timeline.past) := ⟨hlinks.symm, h.present ▸ h.past⟩
    rw [← h.limit]
    have hnone : Command.Trace (command.applyTo sheet.snapshot) [] [] := trivial
    apply follows_executeBy h.size hlinks
    · exact Timeline.trace_latest htrace _
    · exact hnone
    · intro limit hlimit
      have hlimit' : sheet.history.limit = some limit := hlimit
      simp only [hlimit', Timeline.latest, List.length_take, List.length_nil]
      omega
  · exact h

theorem undo (h : Follows sheet timeline) (enumeration : Graph.Enumeration) :
    Follows (Action.undo.operation.performBy enumeration sheet).sheet timeline.undo := by
  obtain ⟨past, present, future, limit⟩ := timeline
  obtain ⟨hsize, hpresent, hpast, hfuture, hlimit, hbound⟩ := h
  simp only at hpresent hpast hfuture hlimit hbound
  subst hpresent hlimit
  cases past with
  | nil =>
    have hundo := Command.trace_nil_right hpast
    have hsheet : (sheet.undoBy enumeration).sheet = sheet := by
      simp only [undoBy, History.popUndo, hundo, List.head?_nil]
    exact hsheet.symm ▸ ⟨hsize, rfl, hpast, hfuture, rfl, hbound⟩
  | cons moment past =>
    obtain ⟨command, commands, hundo, hlinks, hpast⟩ := Command.trace_cons_right hpast
    change Follows (sheet.undoBy enumeration).sheet
      ⟨past, moment, sheet.snapshot :: future, sheet.history.limit⟩
    rw [undoBy_sheet hundo hlinks.fits enumeration]
    apply follows_executeBy hsize hlinks
    · exact hpast
    · exact ⟨hlinks.symm, hfuture⟩
    · intro limit hlimit
      have := hbound limit hlimit
      simp only [List.length_cons] at this ⊢
      omega

theorem keep_of_length_le {limit : Option Nat} {commands : List Command}
    (h : ∀ n, limit = some n → commands.length ≤ n) : History.keep limit commands = commands := by
  cases limit with
  | none => rfl
  | some n => exact List.take_of_length_le (h n rfl)

theorem redo (h : Follows sheet timeline) (enumeration : Graph.Enumeration) :
    Follows (Action.redo.operation.performBy enumeration sheet).sheet timeline.redo := by
  obtain ⟨past, present, future, limit⟩ := timeline
  obtain ⟨hsize, hpresent, hpast, hfuture, hlimit, hbound⟩ := h
  simp only at hpresent hpast hfuture hlimit hbound
  subst hpresent hlimit
  cases future with
  | nil =>
    have hredo := Command.trace_nil_right hfuture
    have hsheet : (sheet.redoBy enumeration).sheet = sheet := by
      simp only [redoBy, History.popRedo, hredo, List.head?_nil]
    exact hsheet.symm ▸ ⟨hsize, rfl, hpast, hfuture, rfl, hbound⟩
  | cons moment future =>
    obtain ⟨command, commands, hredo, hlinks, hfuture⟩ := Command.trace_cons_right hfuture
    have hbound' : ∀ limit, sheet.history.limit = some limit →
        (sheet.snapshot :: past).length + future.length ≤ limit := by
      intro limit hlimit
      have := hbound limit hlimit
      simp only [List.length_cons] at this ⊢
      omega
    -- The limit drops nothing here: past and future together never outgrow it.
    have hkept : History.keep sheet.history.limit
        (command.inverseAt sheet.snapshot :: sheet.history.undo) =
          command.inverseAt sheet.snapshot :: sheet.history.undo := by
      refine keep_of_length_le fun limit hlimit => ?_
      have := hbound' limit hlimit
      rw [List.length_cons, hpast.length_eq]
      simp only [List.length_cons] at this
      omega
    have htrace : Command.Trace moment (History.keep sheet.history.limit
        (command.inverseAt sheet.snapshot :: sheet.history.undo)) (sheet.snapshot :: past) :=
      hkept.symm ▸ ⟨hlinks.symm, hpast⟩
    change Follows (sheet.redoBy enumeration).sheet
      ⟨sheet.snapshot :: past, moment, future, sheet.history.limit⟩
    rw [redoBy_sheet hredo hlinks.fits enumeration]
    apply follows_executeBy hsize hlinks
    · exact htrace
    · exact hfuture
    · exact hbound'

theorem perform (h : Follows sheet timeline) {action : Action} (huniform : action.Uniform sheet)
    (enumeration : Graph.Enumeration) :
    Follows (action.operation.performBy enumeration sheet).sheet (timeline.perform action) := by
  cases action with
  | edit command => exact h.edit huniform enumeration
  | undo => exact h.undo enumeration
  | redo => exact h.redo enumeration

end Follows

def calls (steps : List (Graph.Enumeration × Action)) : List (Graph.Enumeration × Operation) :=
  steps.map fun step => (step.1, step.2.operation)

/-- Every batch has one color when it is edited, unless the edit changes nothing. -/
def UniformEdits : List (Graph.Enumeration × Action) → Sheet → Prop
  | [], _ => True
  | step :: steps, sheet =>
    step.2.Uniform sheet ∧ UniformEdits steps (step.2.operation.performBy step.1 sheet).sheet

theorem follows_runBy (h : Follows sheet timeline) {steps : List (Graph.Enumeration × Action)}
    (huniform : UniformEdits steps sheet) :
    Follows (Operation.runBy (calls steps) sheet) (timeline.run (steps.map Prod.snd)) := by
  induction steps generalizing sheet timeline with
  | nil => exact h
  | cons step steps ih => exact ih (h.perform huniform.1 step.1) huniform.2

theorem follows_fresh (options : Options) :
    Follows (fresh options) (.start (fresh options).snapshot options.historyLimit) where
  size := Array.size_ofFn
  present := rfl
  past := trivial
  future := trivial
  limit := rfl
  bound limit _ := Nat.zero_le limit

theorem snapshot_runBy_eq_present {options : Options}
    {steps : List (Graph.Enumeration × Action)} (huniform : UniformEdits steps (fresh options)) :
    (Operation.runBy (calls steps) (fresh options)).snapshot =
        ((Timeline.start (fresh options).snapshot options.historyLimit).run
          (steps.map Prod.snd)).present ∧
      (Operation.runBy (calls steps) (fresh options)).history.undoCount =
        ((Timeline.start (fresh options).snapshot options.historyLimit).run
          (steps.map Prod.snd)).past.length ∧
      (Operation.runBy (calls steps) (fresh options)).history.redoCount =
        ((Timeline.start (fresh options).snapshot options.historyLimit).run
          (steps.map Prod.snd)).future.length := by
  have h := follows_runBy (follows_fresh options) huniform
  exact ⟨h.present, h.past.length_eq, h.future.length_eq⟩

def rejectedAndPainted : List (Graph.Enumeration × Action) :=
  [(.sorted, .edit (.text ⟨0, 0⟩ "=B9")),
    (.sorted, .edit (.color [⟨0, 0⟩, ⟨0, 1⟩, ⟨0, 0⟩] ⟨255, 255, 0, 0⟩)),
    (.sorted, .undo), (.sorted, .undo), (.sorted, .redo)]

theorem snapshot_rejectedAndPainted :
    (Operation.runBy (calls rejectedAndPainted) (fresh ⟨1, 2, some 1⟩)).snapshot =
        ((Timeline.start (fresh ⟨1, 2, some 1⟩).snapshot (some 1)).run
          (rejectedAndPainted.map Prod.snd)).present ∧
      1 = ((Timeline.start (fresh ⟨1, 2, some 1⟩).snapshot (some 1)).run
          (rejectedAndPainted.map Prod.snd)).past.length ∧
      0 = ((Timeline.start (fresh ⟨1, 2, some 1⟩).snapshot (some 1)).run
          (rejectedAndPainted.map Prod.snd)).future.length := by
  have huniform : UniformEdits rejectedAndPainted (fresh ⟨1, 2, some 1⟩) :=
    ⟨fun _ => trivial, fun _ => ⟨Color.white, by decide +kernel⟩, trivial, trivial, trivial, trivial⟩
  obtain ⟨hpresent, hundo, hredo⟩ := snapshot_runBy_eq_present huniform
  refine ⟨hpresent, Eq.trans ?_ hundo, Eq.trans ?_ hredo⟩
  · decide +kernel
  · decide +kernel

end Worksheet
