import Worksheet.Proofs.History.Simulation

namespace Worksheet

open Sheet

inductive Step where
  | perform (enumeration : Graph.Enumeration) (operation : Operation)
  | takeEvents

namespace Step

def next (step : Step) (sheet : Sheet) : Sheet :=
  match step with
  | perform enumeration operation => (operation.performBy enumeration sheet).sheet
  | takeEvents => sheet.takeEvents.2

def run (steps : List Step) (sheet : Sheet) : Sheet :=
  steps.foldl (fun sheet step => step.next sheet) sheet

theorem run_concat (steps : List Step) (step : Step) (sheet : Sheet) :
    run (steps ++ [step]) sheet = step.next (run steps sheet) :=
  List.foldl_concat _ _ _ _

end Step

def Sheet.recorded (sheet : Sheet) (command : Command) : History :=
  if command.Changes sheet.snapshot then sheet.history.record (command.inverseAt sheet.snapshot)
  else sheet.history

def Operation.stacks (operation : Operation) (sheet : Sheet) : History :=
  match operation with
  | setText _ _ | setColor _ _ | setColors _ _ | execute _ => sheet.history
  | editText cell text => sheet.recorded (.text cell text)
  | editColor cells color => sheet.recorded (.color cells color)
  | undo =>
    match sheet.history.popUndo with
    | (none, _) => sheet.history
    | (some command, rest) => rest.pushRedo (command.inverseAt sheet.snapshot)
  | redo =>
    match sheet.history.popRedo with
    | (none, _) => sheet.history
    | (some command, rest) => rest.pushUndo (command.inverseAt sheet.snapshot)
  | pushUndo command =>
    if command.Fits sheet.snapshot then sheet.history.pushUndo command else sheet.history
  | pushRedo command =>
    if command.Fits sheet.snapshot then sheet.history.pushRedo command else sheet.history

namespace History

variable {history next : History} {present later : Snapshot} {command : Command}

structure Fits (history : History) (present : Snapshot) : Prop where
  undo : ∀ command ∈ history.undo, command.Fits present
  redo : ∀ command ∈ history.redo, command.Fits present

theorem mem_of_mem_keep {limit : Option Nat} {commands : List Command}
    (h : command ∈ keep limit commands) : command ∈ commands := by
  cases limit with
  | none => exact h
  | some limit => exact List.mem_of_mem_take h

theorem Fits.pushUndo (h : history.Fits present) (hcommand : command.Fits present) :
    (history.pushUndo command).Fits present := by
  refine ⟨fun other hother => ?_, h.redo⟩
  rcases List.mem_cons.mp (mem_of_mem_keep hother) with rfl | hother
  · exact hcommand
  · exact h.undo other hother

theorem Fits.pushRedo (h : history.Fits present) (hcommand : command.Fits present) :
    (history.pushRedo command).Fits present :=
  ⟨h.undo, List.forall_mem_cons.mpr ⟨hcommand, h.redo⟩⟩

theorem Fits.record (h : history.Fits present) (hcommand : command.Fits present) :
    (history.record command).Fits present :=
  ⟨(h.pushUndo hcommand).undo, by simp [History.record]⟩

theorem Fits.popUndo (h : history.Fits present) : history.popUndo.2.Fits present :=
  ⟨fun command hcommand => h.undo command (List.mem_of_mem_tail hcommand), h.redo⟩

theorem Fits.popRedo (h : history.Fits present) : history.popRedo.2.Fits present :=
  ⟨h.undo, fun command hcommand => h.redo command (List.mem_of_mem_tail hcommand)⟩

inductive Moves (history : History) (present : Snapshot) : History → Prop
  | kept : Moves history present history
  | recorded {command : Command} (h : command.Fits present) :
    Moves history present (history.record command)
  | undone {command : Command} (h : command.Fits present) :
    Moves history present (history.popUndo.2.pushRedo command)
  | redone {command : Command} (h : command.Fits present) :
    Moves history present (history.popRedo.2.pushUndo command)
  | pushedUndo {command : Command} (h : command.Fits present) :
    Moves history present (history.pushUndo command)
  | pushedRedo {command : Command} (h : command.Fits present) :
    Moves history present (history.pushRedo command)

theorem Fits.moves (h : history.Fits present) (hmoves : history.Moves present next) :
    next.Fits present := by
  cases hmoves with
  | kept => exact h
  | recorded hcommand => exact h.record hcommand
  | undone hcommand => exact h.popUndo.pushRedo hcommand
  | redone hcommand => exact h.popRedo.pushUndo hcommand
  | pushedUndo hcommand => exact h.pushUndo hcommand
  | pushedRedo hcommand => exact h.pushRedo hcommand

theorem Fits.congr (h : history.Fits present)
    (hsome : ∀ address, (later address).isSome = (present address).isSome) :
    history.Fits later := by
  constructor
  · intro command hcommand address haddress
    rw [hsome]
    exact h.undo command hcommand address haddress
  · intro command hcommand address haddress
    rw [hsome]
    exact h.redo command hcommand address haddress

end History

structure Coherent (sheet : Sheet) : Prop where
  size : sheet.cells.size = sheet.rows * sheet.columns
  wired : Wired sheet
  history : sheet.history.Fits sheet.snapshot

variable {sheet : Sheet} {options : Options} {command : Command}

theorem Command.fits_inverseAt {present : Snapshot} (h : command.Fits present) :
    (command.inverseAt present).Fits present := by
  intro address hmem
  exact h address (by rwa [cells_inverseAt] at hmem)

theorem checkBounds_eq_ok_iff (hsize : sheet.cells.size = sheet.rows * sheet.columns) :
    command.checkBounds sheet = .ok () ↔ command.Fits sheet.snapshot := by
  unfold Command.checkBounds Command.Fits
  rw [← firstOutside?_eq_none_iff hsize]
  cases sheet.firstOutside? command.cells <;> simp

theorem history_performBy (h : Coherent sheet) (operation : Operation)
    (enumeration : Graph.Enumeration) :
    (operation.performBy enumeration sheet).sheet.history = operation.stacks sheet := by
  cases operation with
  | setText address text => exact history_setTextBy sheet enumeration address text
  | setColor address color =>
    simp only [Operation.performBy, Outcome.silent, Sheet.setColor, Operation.stacks]
    split
    · exact history_paint color sheet address
    · rfl
  | setColors cells color => exact history_executeBy (.color cells color) enumeration sheet
  | editText address text =>
    simp only [Operation.performBy, Outcome.silent, Operation.stacks, recorded, editTextBy_sheet]
    split
    · exact history_executeBy _ _ _
    · rfl
  | editColor cells color =>
    simp only [Operation.performBy, Outcome.silent, Operation.stacks, recorded,
      editColor_sheet h.size enumeration]
    split
    · exact history_executeBy _ _ _
    · rfl
  | undo =>
    simp only [Operation.performBy, Outcome.counted, Operation.stacks]
    cases hundo : sheet.history.undo with
    | nil => simp [undoBy, History.popUndo, hundo]
    | cons command commands =>
      have hfits := h.history.undo command (by simp [hundo])
      rw [undoBy_sheet hundo hfits, history_executeBy]
      simp [History.popUndo, hundo]
  | redo =>
    simp only [Operation.performBy, Outcome.counted, Operation.stacks]
    cases hredo : sheet.history.redo with
    | nil => simp [redoBy, History.popRedo, hredo]
    | cons command commands =>
      have hfits := h.history.redo command (by simp [hredo])
      rw [redoBy_sheet hredo hfits, history_executeBy]
      simp [History.popRedo, hredo]
  | pushUndo command =>
    simp only [Operation.performBy, Outcome.silent, Operation.stacks, Sheet.pushUndo,
      ← checkBounds_eq_ok_iff h.size]
    cases command.checkBounds sheet <;> simp
  | pushRedo command =>
    simp only [Operation.performBy, Outcome.silent, Operation.stacks, Sheet.pushRedo,
      ← checkBounds_eq_ok_iff h.size]
    cases command.checkBounds sheet <;> simp
  | execute command => exact history_executeBy command enumeration sheet

theorem moves_recorded (sheet : Sheet) (command : Command) :
    sheet.history.Moves sheet.snapshot (sheet.recorded command) := by
  unfold recorded
  split
  · rename_i hchanges
    exact .recorded (Command.fits_inverseAt hchanges.1)
  · exact .kept

theorem moves_stacks (h : sheet.history.Fits sheet.snapshot) (operation : Operation) :
    sheet.history.Moves sheet.snapshot (operation.stacks sheet) := by
  cases operation with
  | setText | setColor | setColors | execute => exact .kept
  | editText cell text => exact moves_recorded sheet (.text cell text)
  | editColor cells color => exact moves_recorded sheet (.color cells color)
  | undo =>
    cases hundo : sheet.history.undo with
    | nil =>
      have hstacks : Operation.undo.stacks sheet = sheet.history := by
        simp [Operation.stacks, History.popUndo, hundo]
      exact hstacks ▸ .kept
    | cons command commands =>
      have hcommand : command.Fits sheet.snapshot := h.undo command (by simp [hundo])
      have hstacks : Operation.undo.stacks sheet =
          sheet.history.popUndo.2.pushRedo (command.inverseAt sheet.snapshot) := by
        simp [Operation.stacks, History.popUndo, hundo]
      exact hstacks ▸ .undone (Command.fits_inverseAt hcommand)
  | redo =>
    cases hredo : sheet.history.redo with
    | nil =>
      have hstacks : Operation.redo.stacks sheet = sheet.history := by
        simp [Operation.stacks, History.popRedo, hredo]
      exact hstacks ▸ .kept
    | cons command commands =>
      have hcommand : command.Fits sheet.snapshot := h.redo command (by simp [hredo])
      have hstacks : Operation.redo.stacks sheet =
          sheet.history.popRedo.2.pushUndo (command.inverseAt sheet.snapshot) := by
        simp [Operation.stacks, History.popRedo, hredo]
      exact hstacks ▸ .redone (Command.fits_inverseAt hcommand)
  | pushUndo command =>
    simp only [Operation.stacks]
    split
    · exact .pushedUndo ‹_›
    · exact .kept
  | pushRedo command =>
    simp only [Operation.stacks]
    split
    · exact .pushedRedo ‹_›
    · exact .kept

theorem isSome_snapshot_performBy (operation : Operation) (enumeration : Graph.Enumeration)
    (sheet : Sheet) (address : Address) :
    ((operation.performBy enumeration sheet).sheet.snapshot address).isSome =
      (sheet.snapshot address).isSome := by
  have hnone := (Operation.sameShape_performBy operation enumeration sheet).cell?_eq_none_iff
    address
  simp only [snapshot, Option.isSome_map]
  rw [Bool.eq_iff_iff, Option.isSome_iff_ne_none, Option.isSome_iff_ne_none]
  exact hnone.not

theorem Coherent.performBy (h : Coherent sheet) (operation : Operation)
    (enumeration : Graph.Enumeration) :
    Coherent (operation.performBy enumeration sheet).sheet := by
  have hshape := Operation.sameShape_performBy operation enumeration sheet
  refine ⟨?_, Operation.wired_performBy h.wired operation enumeration, ?_⟩
  · rw [hshape.size, hshape.rows, hshape.columns]
    exact h.size
  · rw [history_performBy h]
    apply (h.history.moves (moves_stacks h.history operation)).congr
    exact isSome_snapshot_performBy operation enumeration sheet

theorem Coherent.takeEvents (h : Coherent sheet) : Coherent sheet.takeEvents.2 := by
  have hsame : SameContent sheet sheet.takeEvents.2 :=
    ⟨rfl, rfl, rfl, rfl, fun _ => rfl, fun _ => rfl⟩
  exact ⟨h.size, hsame.wired h.wired, h.history⟩

theorem coherent_fresh (options : Options) : Coherent (fresh options) := by
  refine ⟨Array.size_ofFn, wired_fresh options, ?_⟩
  constructor <;> simp [fresh, History.empty]

theorem coherent_run (steps : List Step) (options : Options) :
    Coherent (Step.run steps (fresh options)) := by
  induction steps using List.reverseRecOn with
  | nil => exact coherent_fresh options
  | append_singleton steps step ih =>
    rw [Step.run_concat]
    cases step with
    | perform enumeration operation => exact ih.performBy operation enumeration
    | takeEvents => exact ih.takeEvents

end Worksheet
