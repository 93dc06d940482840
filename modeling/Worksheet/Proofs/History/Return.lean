import Worksheet.Proofs.History.Coherence

namespace Worksheet

open Sheet

namespace History

variable {history : History}

def Within (history : History) : Prop :=
  ∀ limit, history.limit = some limit → history.undo.length ≤ limit

theorem within_pushUndo (history : History) (command : Command) :
    (history.pushUndo command).Within := by
  intro limit hlimit
  have hlimit' : history.limit = some limit := hlimit
  simp only [pushUndo, keep, hlimit', List.length_take]
  omega

theorem Within.moves {next : History} {present : Snapshot} (h : history.Within)
    (hmoves : history.Moves present next) : next.Within := by
  cases hmoves with
  | kept | pushedRedo => exact h
  | @recorded command => exact within_pushUndo history command
  | redone | pushedUndo => exact within_pushUndo _ _
  | undone =>
    intro limit hlimit
    have hlength : history.undo.tail.length ≤ history.undo.length := by
      rw [List.length_tail]
      omega
    exact hlength.trans (h limit hlimit)

theorem Within.pushUndo_tail (h : history.Within) {command : Command} {commands redo : List Command}
    (hundo : history.undo = command :: commands) :
    ({ history with undo := commands, redo } : History).pushUndo command =
      { history with redo } := by
  have hkept : keep history.limit (command :: commands) = history.undo := by
    rw [hundo]
    apply Follows.keep_of_length_le
    rw [← hundo]
    exact h
  rw [pushUndo, hkept]

end History

variable {sheet : Sheet} {command : Command} {commands : List Command} {options : Options}

theorem within_run (steps : List Step) (options : Options) :
    (Step.run steps (fresh options)).history.Within := by
  induction steps using List.reverseRecOn with
  | nil => exact fun limit _ => Nat.zero_le limit
  | append_singleton steps step ih =>
    rw [Step.run_concat]
    cases step with
    | perform enumeration operation =>
      have hcoherent := coherent_run steps options
      rw [Step.next, history_performBy hcoherent]
      exact ih.moves (moves_stacks hcoherent.history operation)
    | takeEvents => exact ih

theorem snapshot_undoBy (h : Coherent sheet) (hundo : sheet.history.undo = command :: commands)
    (enumeration : Graph.Enumeration) :
    (sheet.undoBy enumeration).sheet.snapshot = command.applyTo sheet.snapshot := by
  have hfits : command.Fits sheet.snapshot := h.history.undo command (by simp [hundo])
  rw [undoBy_sheet hundo hfits]
  apply snapshot_executeBy
  · exact h.size
  · exact hfits

theorem snapshot_redoBy (h : Coherent sheet) (hredo : sheet.history.redo = command :: commands)
    (enumeration : Graph.Enumeration) :
    (sheet.redoBy enumeration).sheet.snapshot = command.applyTo sheet.snapshot := by
  have hfits : command.Fits sheet.snapshot := h.history.redo command (by simp [hredo])
  rw [redoBy_sheet hredo hfits]
  apply snapshot_executeBy
  · exact h.size
  · exact hfits

theorem history_undoBy (h : Coherent sheet) (hundo : sheet.history.undo = command :: commands)
    (enumeration : Graph.Enumeration) :
    (sheet.undoBy enumeration).sheet.history =
      { sheet.history with
        undo := commands, redo := command.inverseAt sheet.snapshot :: sheet.history.redo } := by
  apply (history_performBy h .undo enumeration).trans
  simp only [Operation.stacks, History.popUndo, hundo, List.head?_cons, List.tail_cons]
  rfl

theorem history_redoBy (h : Coherent sheet) (hredo : sheet.history.redo = command :: commands)
    (enumeration : Graph.Enumeration) :
    (sheet.redoBy enumeration).sheet.history =
      ({ sheet.history with redo := commands } : History).pushUndo
        (command.inverseAt sheet.snapshot) := by
  apply (history_performBy h .redo enumeration).trans
  simp only [Operation.stacks, History.popRedo, hredo, List.head?_cons, List.tail_cons]

structure ThereAndBack (command : Command) (before undone redone : Sheet) : Prop where
  there : undone.snapshot = command.applyTo before.snapshot
  taken : undone.history = before.history.popUndo.2.pushRedo (command.inverseAt before.snapshot)
  back : redone.snapshot = before.snapshot
  returned : redone.history = before.history

theorem thereAndBack_of_coherent (h : Coherent sheet) (hwithin : sheet.history.Within)
    (hundo : sheet.history.undo = command :: commands) (huniform : command.Uniform sheet.snapshot)
    (enumeration again : Graph.Enumeration) :
    ThereAndBack command sheet (sheet.undoBy enumeration).sheet
      ((sheet.undoBy enumeration).sheet.redoBy again).sheet := by
  have hfits : command.Fits sheet.snapshot := h.history.undo command (by simp [hundo])
  have hcoherent : Coherent (sheet.undoBy enumeration).sheet := h.performBy .undo enumeration
  have hsnapshot := snapshot_undoBy h hundo enumeration
  have hhistory := history_undoBy h hundo enumeration
  generalize (sheet.undoBy enumeration).sheet = undone at hcoherent hsnapshot hhistory ⊢
  have hredo : undone.history.redo = command.inverseAt sheet.snapshot :: sheet.history.redo := by
    rw [hhistory]
  constructor
  · exact hsnapshot
  · rw [hhistory, History.popUndo, hundo]
    rfl
  · rw [snapshot_redoBy hcoherent hredo, hsnapshot]
    exact Command.applyTo_inverseAt hfits huniform
  · rw [history_redoBy hcoherent hredo, hsnapshot, Command.inverseAt_inverseAt hfits, hhistory]
    exact hwithin.pushUndo_tail hundo

theorem thereAndBack_run (steps : List Step) (options : Options)
    (enumeration again : Graph.Enumeration)
    (hundo : (Step.run steps (fresh options)).history.undo = command :: commands)
    (huniform : command.Uniform (Step.run steps (fresh options)).snapshot) :
    let sheet := Step.run steps (fresh options)
    ThereAndBack command sheet (sheet.undoBy enumeration).sheet
      ((sheet.undoBy enumeration).sheet.redoBy again).sheet :=
  thereAndBack_of_coherent (coherent_run steps options) (within_run steps options) hundo huniform
    enumeration again

/-- A command from elsewhere, whose text is rejected, on top of a stack that is full. -/
def foreign : List Step :=
  [.perform .sorted (.editText ⟨0, 0⟩ "1"), .perform .sorted (.setText ⟨0, 1⟩ "=A1"),
    .perform .sorted (.pushRedo (.color [⟨0, 1⟩, ⟨0, 1⟩] ⟨255, 255, 0, 0⟩)),
    .perform .sorted (.pushUndo (.text ⟨0, 1⟩ "=B9"))]

theorem thereAndBack_foreign :
    (Step.run foreign (fresh ⟨1, 2, some 1⟩)).history.undo = [.text ⟨0, 1⟩ "=B9"] ∧
      ((Step.run foreign (fresh ⟨1, 2, some 1⟩)).undo).result = .error (.unresolvable "B9") ∧
      ThereAndBack (.text ⟨0, 1⟩ "=B9") (Step.run foreign (fresh ⟨1, 2, some 1⟩))
        (Step.run foreign (fresh ⟨1, 2, some 1⟩)).undo.sheet
        (Step.run foreign (fresh ⟨1, 2, some 1⟩)).undo.sheet.redo.sheet := by
  have hundo : (Step.run foreign (fresh ⟨1, 2, some 1⟩)).history.undo = [.text ⟨0, 1⟩ "=B9"] := by
    decide +kernel
  refine ⟨hundo, by decide +kernel, ?_⟩
  exact thereAndBack_run foreign ⟨1, 2, some 1⟩ .sorted .sorted hundo trivial

end Worksheet
