import Worksheet.Proofs.History.Coherence

namespace Worksheet

namespace Sheet

variable {sheet : Sheet} {address : Address} {name text : String} {formula : Formula}
  {error : SheetError} {enumeration : Graph.Enumeration}

theorem isCommitted_of_resolve (h : sheet.resolve name = .error error) : error.isCommitted := by
  unfold resolve at h
  split at h
  · split at h
    · cases h
    · cases h
      rfl
  · cases h
    rfl

theorem isCommitted_of_references (h : sheet.references formula = .error error) :
    error.isCommitted := by
  unfold references at h
  generalize formula.names = names at h
  induction names with
  | nil => cases h
  | cons name names ih =>
    rw [List.mapM_cons] at h
    cases hresolve : sheet.resolve name with
    | error cause =>
      rw [hresolve] at h
      cases h
      exact isCommitted_of_resolve hresolve
    | ok address =>
      rw [hresolve] at h
      apply ih
      cases hothers : names.mapM fun name => (sheet.resolve name).map fun address => (name, address)
      · rw [hothers] at h
        exact h
      · rw [hothers] at h
        cases h

theorem readFormula_eq_rejected (h : (sheet.readFormula formula).error = some error) :
    error.isCommitted ∧ sheet.readFormula formula = .rejected error := by
  unfold readFormula at h ⊢
  cases hreferences : sheet.references formula with
  | error cause =>
    simp only [hreferences, Reading.rejected, Option.some.injEq] at h ⊢
    subst h
    exact ⟨isCommitted_of_references hreferences, rfl⟩
  | ok references =>
    simp only [hreferences] at h
    split at h <;> cases h

theorem readName_eq_rejected {cause : ExpressionError}
    (h : (sheet.readName name cause).error = some error) :
    error.isCommitted ∧ sheet.readName name cause = .rejected error := by
  unfold readName at h ⊢
  cases hname : Address.parse name with
  | error =>
    simp only [hname, Reading.rejected, Option.some.injEq] at h ⊢
    subst h
    exact ⟨rfl, rfl⟩
  | ok address =>
    cases hresolve : sheet.resolve name with
    | error cause =>
      simp only [hname, hresolve, Reading.rejected, Option.some.injEq] at h ⊢
      subst h
      exact ⟨isCommitted_of_resolve hresolve, rfl⟩
    | ok address => simp [hname, hresolve] at h

theorem read_eq_rejected (h : (sheet.read text).error = some error) :
    error.isCommitted ∧ sheet.read text = .rejected error := by
  unfold read at h ⊢
  cases hcontent : Content.ofText text with
  | empty => simp [hcontent] at h
  | literal text => simp [hcontent] at h
  | formula body =>
    simp only [hcontent, readBody] at h ⊢
    cases hparse : Formula.parse (String.ofList body) with
    | ok formula =>
      simp only [hparse] at h ⊢
      exact readFormula_eq_rejected h
    | error cause =>
      simp only [hparse] at h ⊢
      exact readName_eq_rejected h

structure Rejected (sheet : Sheet) (address : Address) (text : String) : Prop where
  text : sheet.text? address = some text
  value : sheet.value? address = some refError
  precedents : sheet.precedents address = []

theorem rejected_refresh (h : Wired (sheet.recompute address).sheet)
    (htext : sheet.text? address = some text) (hreading : sheet.reading address = .rejected error)
    (enumeration : Graph.Enumeration) :
    Rejected (sheet.refresh enumeration address) address text := by
  have hinput := sameInput_refresh sheet enumeration address
  constructor
  · rw [hinput.text, htext]
  · rw [value?_refresh_self h, hreading]
    rfl
  · apply List.eq_nil_iff_forall_not_mem.mpr
    intro source
    rw [(wired_refresh h enumeration).precedents, hinput.precedents_reading, hreading]
    exact List.not_mem_nil

theorem error_setTextBy (h : Wired sheet)
    (herror : (sheet.setTextBy enumeration address text).result = .error error) :
    (error.isCommitted = true ∧
      Rejected (sheet.setTextBy enumeration address text).sheet address text) ∨
    (error.isCommitted = false ∧ sheet.cell? address = none ∧
      (sheet.setTextBy enumeration address text).sheet = sheet) := by
  cases hcell : sheet.cell? address with
  | none =>
    right
    simp only [setTextBy, hcell, Except.error.injEq] at herror ⊢
    subst herror
    exact ⟨rfl, trivial, trivial⟩
  | some cell =>
    left
    rw [result_setTextBy hcell] at herror
    split at herror
    · cases herror
    · rename_i htext
      have hframe := sheet.sameFrame_writeText address text
      have hwritten : (sheet.writeText address text).text? address = some text := by
        rw [text?_writeText hcell, if_pos rfl]
      have hread : ((sheet.writeText address text).read text).error = some error := by
        rw [error_read_congr hframe.rows hframe.columns]
        exact Reading.answer_eq_error_iff.mp herror
      obtain ⟨hcommitted, hrejected⟩ := read_eq_rejected hread
      have hreading : (sheet.writeText address text).reading address = .rejected error := by
        rw [reading, hwritten, Option.getD_some, hrejected]
      rw [sheet_setTextBy_of_ne hcell htext]
      have hwired := wired_recompute_writeText h hcell text
      exact ⟨hcommitted, rejected_refresh hwired hwritten hreading enumeration⟩

end Sheet

open Sheet

def Command.entry? : Command → Option (Address × String)
  | text cell entered => some (cell, entered)
  | color _ _ => none

def Operation.entry? (operation : Operation) (sheet : Sheet) : Option (Address × String) :=
  match operation with
  | setText cell text | editText cell text => some (cell, text)
  | execute command => command.entry?
  | undo => sheet.history.undo.head?.bind Command.entry?
  | redo => sheet.history.redo.head?.bind Command.entry?
  | setColor _ _ | setColors _ _ | editColor _ _ | pushUndo _ | pushRedo _ => none

variable {sheet : Sheet} {command : Command} {error : SheetError} {history : History}
  {enumeration : Graph.Enumeration}

theorem error_executeBy (hsize : sheet.cells.size = sheet.rows * sheet.columns) (h : Wired sheet)
    (herror : (command.executeBy enumeration sheet).result = .error error) :
    (error.isCommitted = true ∧ ∃ cell text, command.entry? = some (cell, text) ∧
      Rejected (command.executeBy enumeration sheet).sheet cell text) ∨
    (error.isCommitted = false ∧ ¬ command.Fits sheet.snapshot ∧
      (command.executeBy enumeration sheet).sheet = sheet) := by
  cases command with
  | text cell text =>
    rcases error_setTextBy h herror with ⟨hcommitted, hrejected⟩ | ⟨hcommitted, hcell, hsheet⟩
    · exact .inl ⟨hcommitted, cell, text, rfl, hrejected⟩
    · refine .inr ⟨hcommitted, fun hfits => ?_, hsheet⟩
      simpa [snapshot, hcell] using hfits cell (List.mem_singleton_self cell)
  | color cells color =>
    right
    have hfits : (Command.color cells color).Fits sheet.snapshot ↔
        sheet.firstOutside? cells = none := (firstOutside?_eq_none_iff hsize).symm
    rw [hfits]
    simp only [Command.executeBy, setColors] at herror ⊢
    cases houtside : sheet.firstOutside? cells with
    | none => simp [houtside] at herror
    | some outside =>
      simp only [houtside, Except.error.injEq] at herror ⊢
      subst herror
      exact ⟨rfl, Option.some_ne_none _, trivial⟩

theorem rejected_executeBy (h : Coherent sheet) (hfits : command.Fits sheet.snapshot)
    (enumeration : Graph.Enumeration)
    (herror : (command.executeBy enumeration { sheet with history }).result = .error error) :
    error.isCommitted = true ∧ ∃ cell text, command.entry? = some (cell, text) ∧
      Rejected (command.executeBy enumeration { sheet with history }).sheet cell text := by
  have hwired := (sameContent_withHistory sheet history).wired h.wired
  have hsize : ({ sheet with history } : Sheet).cells.size = sheet.rows * sheet.columns := h.size
  rcases error_executeBy hsize hwired herror with hcommitted | ⟨-, hnot, -⟩
  · exact hcommitted
  · exact absurd hfits hnot

theorem error_setColor {cell : Address} {color : Color}
    (herror : (sheet.setColor cell color).result = .error error) :
    error.isCommitted = false ∧ (sheet.setColor cell color).sheet = sheet := by
  unfold setColor at herror ⊢
  split at herror
  · cases herror
  · rename_i houtside
    cases herror
    rw [if_neg houtside]
    exact ⟨rfl, rfl⟩

theorem error_editTextBy (h : Coherent sheet) {cell : Address} {text : String}
    (herror : (sheet.editTextBy enumeration cell text).result = .error error) :
    (error.isCommitted = true ∧ Rejected (sheet.editTextBy enumeration cell text).sheet cell text) ∨
    (error.isCommitted = false ∧ sheet.cell? cell = none ∧
      (sheet.editTextBy enumeration cell text).sheet = sheet) := by
  unfold editTextBy at herror ⊢
  cases hcell : sheet.cell? cell with
  | none =>
    right
    simp only [hcell] at herror
    cases herror
    exact ⟨rfl, rfl, rfl⟩
  | some held =>
    left
    simp only [hcell] at herror ⊢
    split at herror
    · cases herror
    · rename_i htext
      rw [if_neg htext]
      have hfits := ((changes_text_iff text hcell).mpr htext).1
      obtain ⟨hcommitted, _, _, hentry, hrejected⟩ := rejected_executeBy h hfits enumeration herror
      cases hentry
      exact ⟨hcommitted, hrejected⟩

theorem error_editColor (h : Coherent sheet) {cells : List Address} {color : Color}
    (herror : (sheet.editColor cells color).result = .error error) :
    error.isCommitted = false ∧ sheet.firstOutside? cells ≠ none ∧
      (sheet.editColor cells color).sheet = sheet := by
  unfold editColor at herror ⊢
  cases houtside : sheet.firstOutside? cells with
  | some outside =>
    simp only [houtside] at herror
    cases herror
    exact ⟨rfl, nofun, rfl⟩
  | none =>
    have hfits : (Command.color cells color).Fits sheet.snapshot :=
      (firstOutside?_eq_none_iff h.size).mp houtside
    simp only [houtside] at herror
    split at herror
    · cases herror
    · split at herror
      · cases herror
      · -- The bounds are known to hold when the batch is colored.
        obtain ⟨-, _, _, hentry, -⟩ := rejected_executeBy h hfits .sorted herror
        cases hentry

theorem map_eq_error_iff {α β : Type} (f : α → β) (result : Except SheetError α) :
    result.map f = .error error ↔ result = .error error := by
  cases result <;> simp [Except.map]

theorem error_undoBy (h : Coherent sheet)
    (herror : (sheet.undoBy enumeration).result = .error error) :
    error.isCommitted = true ∧ ∃ cell text,
      sheet.history.undo.head?.bind Command.entry? = some (cell, text) ∧
        Rejected (sheet.undoBy enumeration).sheet cell text := by
  unfold undoBy at herror ⊢
  cases hundo : sheet.history.undo with
  | nil => simp [History.popUndo, hundo] at herror
  | cons command commands =>
    have hfits := h.history.undo command (by simp [hundo])
    simp only [History.popUndo, hundo, List.head?_cons, inverse_eq hfits, map_eq_error_iff]
      at herror ⊢
    exact rejected_executeBy h hfits enumeration herror

theorem error_redoBy (h : Coherent sheet)
    (herror : (sheet.redoBy enumeration).result = .error error) :
    error.isCommitted = true ∧ ∃ cell text,
      sheet.history.redo.head?.bind Command.entry? = some (cell, text) ∧
        Rejected (sheet.redoBy enumeration).sheet cell text := by
  unfold redoBy at herror ⊢
  cases hredo : sheet.history.redo with
  | nil => simp [History.popRedo, hredo] at herror
  | cons command commands =>
    have hfits := h.history.redo command (by simp [hredo])
    simp only [History.popRedo, hredo, List.head?_cons, inverse_eq hfits, map_eq_error_iff]
      at herror ⊢
    exact rejected_executeBy h hfits enumeration herror

theorem isCommitted_of_checkBounds (h : command.checkBounds sheet = .error error) :
    error.isCommitted = false := by
  unfold Command.checkBounds at h
  split at h
  · cases h
    rfl
  · cases h

theorem error_pushUndo (herror : (sheet.pushUndo command).result = .error error) :
    error.isCommitted = false ∧ (sheet.pushUndo command).sheet = sheet := by
  unfold pushUndo at herror ⊢
  cases hbounds : command.checkBounds sheet with
  | ok => simp [hbounds] at herror
  | error cause =>
    simp only [hbounds, Except.error.injEq] at herror
    subst herror
    exact ⟨isCommitted_of_checkBounds hbounds, rfl⟩

theorem error_pushRedo (herror : (sheet.pushRedo command).result = .error error) :
    error.isCommitted = false ∧ (sheet.pushRedo command).sheet = sheet := by
  unfold pushRedo at herror ⊢
  cases hbounds : command.checkBounds sheet with
  | ok => simp [hbounds] at herror
  | error cause =>
    simp only [hbounds, Except.error.injEq] at herror
    subst herror
    exact ⟨isCommitted_of_checkBounds hbounds, rfl⟩

namespace Operation

variable {operation : Operation}

theorem error_performBy (h : Coherent sheet)
    (herror : (operation.performBy enumeration sheet).result = .error error) :
    (error.isCommitted = true ∧ ∃ cell text, operation.entry? sheet = some (cell, text) ∧
      Rejected (operation.performBy enumeration sheet).sheet cell text) ∨
    (error.isCommitted = false ∧ (operation.performBy enumeration sheet).sheet = sheet ∧
      operation ≠ .undo ∧ operation ≠ .redo) := by
  cases operation with
  | setText cell text =>
    rcases error_setTextBy h.wired ((map_eq_error_iff _ _).mp herror) with
      ⟨hcommitted, hrejected⟩ | ⟨hcommitted, -, hsheet⟩
    · exact .inl ⟨hcommitted, cell, text, rfl, hrejected⟩
    · exact .inr ⟨hcommitted, hsheet, nofun, nofun⟩
  | editText cell text =>
    rcases error_editTextBy h ((map_eq_error_iff _ _).mp herror) with
      ⟨hcommitted, hrejected⟩ | ⟨hcommitted, -, hsheet⟩
    · exact .inl ⟨hcommitted, cell, text, rfl, hrejected⟩
    · exact .inr ⟨hcommitted, hsheet, nofun, nofun⟩
  | execute command =>
    rcases error_executeBy h.size h.wired ((map_eq_error_iff _ _).mp herror) with
      hrejected | ⟨hcommitted, -, hsheet⟩
    · exact .inl hrejected
    · exact .inr ⟨hcommitted, hsheet, nofun, nofun⟩
  | setColors cells color =>
    have hexecute : ((Command.color cells color).executeBy enumeration sheet).result =
        .error error := (map_eq_error_iff _ _).mp herror
    rcases error_executeBy h.size h.wired hexecute with
      ⟨-, _, _, hentry, -⟩ | ⟨hcommitted, -, hsheet⟩
    · cases hentry
    · exact .inr ⟨hcommitted, hsheet, nofun, nofun⟩
  | setColor cell color =>
    obtain ⟨hcommitted, hsheet⟩ := error_setColor ((map_eq_error_iff _ _).mp herror)
    exact .inr ⟨hcommitted, hsheet, nofun, nofun⟩
  | editColor cells color =>
    obtain ⟨hcommitted, -, hsheet⟩ := error_editColor h ((map_eq_error_iff _ _).mp herror)
    exact .inr ⟨hcommitted, hsheet, nofun, nofun⟩
  | undo => exact .inl (error_undoBy h ((map_eq_error_iff _ _).mp herror))
  | redo => exact .inl (error_redoBy h ((map_eq_error_iff _ _).mp herror))
  | pushUndo command =>
    obtain ⟨hcommitted, hsheet⟩ := error_pushUndo ((map_eq_error_iff _ _).mp herror)
    exact .inr ⟨hcommitted, hsheet, nofun, nofun⟩
  | pushRedo command =>
    obtain ⟨hcommitted, hsheet⟩ := error_pushRedo ((map_eq_error_iff _ _).mp herror)
    exact .inr ⟨hcommitted, hsheet, nofun, nofun⟩

structure Honest (operation : Operation) (sheet : Sheet) (outcome : Outcome (Option Nat)) :
    Prop where
  accepted : ∀ count, outcome.result = .ok count →
    outcome.sheet.history = operation.stacks sheet
  committed : ∀ error, outcome.result = .error error → error.isCommitted = true →
    outcome.sheet.history = operation.stacks sheet ∧
      ∃ cell text, operation.entry? sheet = some (cell, text) ∧ Rejected outcome.sheet cell text
  uncommitted : ∀ error, outcome.result = .error error → error.isCommitted = false →
    outcome.sheet = sheet ∧ operation ≠ .undo ∧ operation ≠ .redo

theorem honest_performBy_run (steps : List Step) (options : Options) (operation : Operation)
    (enumeration : Graph.Enumeration) :
    operation.Honest (Step.run steps (fresh options))
      (operation.performBy enumeration (Step.run steps (fresh options))) := by
  have h := coherent_run steps options
  generalize Step.run steps (fresh options) = sheet at h ⊢
  have hstacks := history_performBy h operation enumeration
  constructor
  · intro count _
    exact hstacks
  · intro error herror hcommitted
    rcases error_performBy h herror with ⟨-, hentered⟩ | ⟨huncommitted, -⟩
    · exact ⟨hstacks, hentered⟩
    · rw [hcommitted] at huncommitted
      cases huncommitted
  · intro error herror huncommitted
    rcases error_performBy h herror with ⟨hcommitted, -⟩ | ⟨-, hsame⟩
    · rw [huncommitted] at hcommitted
      cases hcommitted
    · exact hsame

end Operation

end Worksheet
