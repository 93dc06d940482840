import Worksheet.Proofs.CommandLine.Report
import Worksheet.Proofs.Sheet.Confluence
import Worksheet.Proofs.Sheet.Rejection

/-!
The course of a script. Whether a line ends the run can be told from the line and the size of the
grid; what came before does not matter. All other lines are carried out, with a warning for each
operation that fails.
-/

namespace Worksheet

open Sheet

namespace Statement

variable {sheet : Sheet} {statement : Statement} {error : SheetError}
  {enumeration : Graph.Enumeration}

def cells : Statement → List Address
  | set cell _ => [cell]
  | color _ cells => cells
  | undo | redo => []

theorem result_of_outside {outside : Address}
    (h : sheet.firstOutside? statement.cells = some outside) :
    (statement.operation.performBy enumeration sheet).result = .error (.outOfBounds outside) := by
  cases statement with
  | set address text =>
    have houtside := List.find?_some h
    obtain rfl : outside = address := List.mem_singleton.mp (List.mem_of_find?_eq_some h)
    have hcell : sheet.cell? outside = none := by
      rw [cell?, if_neg]
      simpa using houtside
    simp only [operation, Operation.performBy, Outcome.silent, editTextBy, hcell]
    rfl
  | color painted cells =>
    have hcells : sheet.firstOutside? cells = some outside := h
    simp only [operation, Operation.performBy, Outcome.silent, editColor, hcells]
    rfl
  | undo => cases h
  | redo => cases h

theorem isCommitted_of_performBy (h : Coherent sheet)
    (hinside : sheet.firstOutside? statement.cells = none)
    (herror : (statement.operation.performBy enumeration sheet).result = .error error) :
    error.isCommitted = true := by
  cases statement with
  | set address text =>
    rcases error_editTextBy h ((map_eq_error_iff _ _).mp herror) with
      ⟨hcommitted, -⟩ | ⟨-, hcell, -⟩
    · exact hcommitted
    · have hfound := (firstOutside?_eq_none_iff h.size).mp hinside address List.mem_cons_self
      simp [snapshot, hcell] at hfound
  | color painted cells =>
    obtain ⟨-, houtside, -⟩ := error_editColor h ((map_eq_error_iff _ _).mp herror)
    exact absurd hinside houtside
  | undo => exact (error_undoBy h ((map_eq_error_iff _ _).mp herror)).1
  | redo => exact (error_redoBy h ((map_eq_error_iff _ _).mp herror)).1

end Statement

namespace Script

variable {options : Options} {sheet : Sheet} {text : List Char} {lines before rest : List (List Char)}
  {enumerations : Nat → Graph.Enumeration}

inductive Fault where
  | invalid (error : StatementError)
  | outside (cell : Address)

namespace Fault

def onLine (line : Nat) : Fault → Failure
  | invalid error => .invalid line error
  | outside cell => .refused line (.outOfBounds cell)

end Fault

def fault? (options : Options) (text : List Char) : Option Fault :=
  match Statement.parseLine text with
  | .error error => some (.invalid error)
  | .ok none => none
  | .ok (some statement) => ((fresh options).firstOutside? statement.cells).map .outside

def perform (enumeration : Graph.Enumeration) (text : List Char) (sheet : Sheet) :
    Outcome (Option Nat) :=
  match Statement.parseLine text with
  | .ok (some statement) => statement.operation.performBy enumeration sheet
  | _ => ⟨sheet, .ok none⟩

def after (enumerations : Nat → Graph.Enumeration) (options : Options)
    (lines : List (List Char)) : Sheet :=
  (lines.zipIdx 1).foldl (fun sheet line => (perform (enumerations line.2) line.1 sheet).sheet)
    (fresh options)

def note? (line : Nat) (outcome : Outcome (Option Nat)) : Option Warning :=
  match outcome.result with
  | .ok _ => none
  | .error error => some ⟨line, error⟩

def warning? (enumerations : Nat → Graph.Enumeration) (options : Options)
    (lines : List (List Char)) (i : Nat) : Option Warning :=
  lines[i]?.bind fun text =>
    note? (i + 1) (perform (enumerations (i + 1)) text (after enumerations options (lines.take i)))

def warnings (enumerations : Nat → Graph.Enumeration) (options : Options)
    (lines : List (List Char)) : List Warning :=
  (List.range lines.length).filterMap (warning? enumerations options lines)

theorem after_concat (enumerations : Nat → Graph.Enumeration) (options : Options)
    (lines : List (List Char)) (text : List Char) :
    after enumerations options (lines ++ [text]) =
      (perform (enumerations (lines.length + 1)) text (after enumerations options lines)).sheet := by
  rw [after, List.zipIdx_append, List.zipIdx_singleton, List.foldl_concat, Nat.add_comm]
  rfl

theorem warnings_concat (enumerations : Nat → Graph.Enumeration) (options : Options)
    (lines : List (List Char)) (text : List Char) :
    warnings enumerations options (lines ++ [text]) = warnings enumerations options lines ++
      (note? (lines.length + 1) (perform (enumerations (lines.length + 1)) text
        (after enumerations options lines))).toList := by
  unfold warnings
  rw [List.length_append, List.length_singleton, List.range_succ, List.filterMap_append]
  congr 1
  · apply List.filterMap_congr
    intro i hi
    rw [List.mem_range] at hi
    rw [warning?, warning?, List.getElem?_append_left hi, List.take_append_of_le_length (by omega)]
  · rw [List.filterMap_cons, warning?, List.getElem?_concat_length, Option.bind_some, List.take_left]
    cases note? (lines.length + 1) (perform (enumerations (lines.length + 1)) text
      (after enumerations options lines)) <;> rfl

theorem of_fault? {fault : Fault} (h : fault? options text = some fault) :
    (∃ error, Statement.parseLine text = .error error ∧ fault = .invalid error) ∨
      ∃ statement cell, Statement.parseLine text = .ok (some statement) ∧
        (fresh options).firstOutside? statement.cells = some cell ∧ fault = .outside cell := by
  unfold fault? at h
  cases hparse : Statement.parseLine text with
  | error error =>
    rw [hparse] at h
    exact .inl ⟨error, rfl, (Option.some.inj h).symm⟩
  | ok found =>
    cases found with
    | none =>
      rw [hparse] at h
      cases h
    | some statement =>
      rw [hparse] at h
      obtain ⟨cell, hcell, rfl⟩ := Option.map_eq_some_iff.mp h
      exact .inr ⟨statement, cell, rfl, hcell, rfl⟩

structure Continues (options : Options) (sheet : Sheet) : Prop where
  evolves : Evolves (fresh options) sheet
  coherent : Coherent sheet

theorem continues_after (enumerations : Nat → Graph.Enumeration) (options : Options)
    (lines : List (List Char)) : Continues options (after enumerations options lines) := by
  apply List.foldlRecOn _ _ ⟨.refl _, coherent_fresh options⟩
  intro sheet hsheet line _
  unfold perform
  split
  · exact ⟨hsheet.evolves.trans (evolves_performBy sheet _ _), hsheet.coherent.performBy _ _⟩
  · exact hsheet

theorem Continues.firstOutside?_eq (h : Continues options sheet) (cells : List Address) :
    sheet.firstOutside? cells = (fresh options).firstOutside? cells := by
  unfold firstOutside?
  simp only [contains_congr h.evolves.shape.rows h.evolves.shape.columns]

namespace Run

def after (warnings : List Warning) (run : Run) : Run := ⟨warnings ++ run.warnings, run.result⟩

end Run

theorem runFrom_of_fault {fault : Fault} (h : Continues options sheet)
    (hfault : fault? options text = some fault) (line : Nat) (rest : List (List Char)) :
    runFrom enumerations line sheet (text :: rest) = ⟨[], .error (fault.onLine line)⟩ := by
  rcases of_fault? hfault with ⟨error, hparse, rfl⟩ | ⟨statement, cell, hparse, hcell, rfl⟩
  · simp only [runFrom, hparse]
    rfl
  · rw [← h.firstOutside?_eq] at hcell
    simp only [runFrom, hparse, Statement.result_of_outside hcell]
    rfl

theorem runFrom_of_fault?_none (h : Continues options sheet) (hfault : fault? options text = none)
    (line : Nat) (rest : List (List Char)) :
    runFrom enumerations line sheet (text :: rest) =
      (runFrom enumerations (line + 1) (perform (enumerations line) text sheet).sheet rest).after
        (note? line (perform (enumerations line) text sheet)).toList := by
  unfold fault? at hfault
  cases hparse : Statement.parseLine text with
  | error error =>
    rw [hparse] at hfault
    cases hfault
  | ok found =>
    cases found with
    | none =>
      simp only [runFrom, hparse, perform]
      rfl
    | some statement =>
      simp only [hparse, Option.map_eq_none_iff, ← h.firstOutside?_eq] at hfault
      simp only [runFrom, hparse, perform, note?]
      cases hresult : (statement.operation.performBy (enumerations line) sheet).result with
      | ok => rfl
      | error error =>
        have hcommitted := Statement.isCommitted_of_performBy h.coherent hfault hresult
        simp only [hcommitted]
        rfl

theorem runFrom_append (hbefore : ∀ text ∈ before, fault? options text = none)
    (rest : List (List Char)) :
    runFrom enumerations 1 (fresh options) (before ++ rest) =
      (runFrom enumerations (before.length + 1) (after enumerations options before) rest).after
        (warnings enumerations options before) := by
  induction before using List.reverseRecOn generalizing rest with
  | nil => rfl
  | append_singleton before text ih =>
    have hearlier : ∀ text ∈ before, fault? options text = none :=
      fun text hmem => hbefore text (List.mem_append_left _ hmem)
    have hlast := hbefore text (List.mem_append_right _ (List.mem_singleton_self text))
    rw [List.append_assoc, List.singleton_append, ih hearlier,
      runFrom_of_fault?_none (continues_after enumerations options before) hlast, after_concat, warnings_concat,
      List.length_append, List.length_singleton]
    simp only [Run.after, List.append_assoc]

theorem runBy_of_fault {source : String} {fault : Fault}
    (hlines : Text.lines source.toList = before ++ text :: rest)
    (hbefore : ∀ text ∈ before, fault? options text = none)
    (hfault : fault? options text = some fault) :
    runBy enumerations options source =
      ⟨warnings enumerations options before, .error (fault.onLine (before.length + 1))⟩ := by
  rw [runBy, hlines, runFrom_append hbefore, runFrom_of_fault (continues_after enumerations options before) hfault]
  simp only [Run.after, List.append_nil]

theorem runBy_of_fault?_none {source : String}
    (h : ∀ text ∈ Text.lines source.toList, fault? options text = none) :
    runBy enumerations options source =
      ⟨warnings enumerations options (Text.lines source.toList),
        .ok (after enumerations options (Text.lines source.toList))⟩ := by
  rw [runBy, ← List.append_nil (Text.lines source.toList), runFrom_append h]
  simp only [runFrom, Run.after, List.append_nil]

theorem faultless_or_first (options : Options) (lines : List (List Char)) :
    (∀ text ∈ lines, fault? options text = none) ∨
      ∃ before text rest fault, lines = before ++ text :: rest ∧
        (∀ earlier ∈ before, fault? options earlier = none) ∧ fault? options text = some fault := by
  cases hfind : lines.find? fun text => (fault? options text).isSome with
  | none =>
    left
    simpa using hfind
  | some text =>
    right
    obtain ⟨hsome, before, rest, hlines, hbefore⟩ := List.find?_eq_some_iff_append.mp hfind
    obtain ⟨fault, hfault⟩ := Option.isSome_iff_exists.mp hsome
    refine ⟨before, text, rest, fault, hlines, fun earlier hmem => ?_, hfault⟩
    simpa using hbefore earlier hmem

structure Noted (enumerations : Nat → Graph.Enumeration) (options : Options)
    (lines : List (List Char)) (warnings : List Warning) : Prop where
  ordered : warnings.Pairwise fun warning next => warning.line < next.line
  mem : ∀ warning, warning ∈ warnings ↔ ∃ i text, lines[i]? = some text ∧ warning.line = i + 1 ∧
    (perform (enumerations (i + 1)) text (after enumerations options (lines.take i))).result =
      .error warning.error

theorem note?_eq_some_iff {line : Nat} {outcome : Outcome (Option Nat)} {warning : Warning} :
    note? line outcome = some warning ↔
      warning.line = line ∧ outcome.result = .error warning.error := by
  unfold note?
  cases outcome.result with
  | ok => simp
  | error error => cases warning; simp [eq_comm]

theorem noted_warnings (enumerations : Nat → Graph.Enumeration) (options : Options)
    (lines : List (List Char)) :
    Noted enumerations options lines (warnings enumerations options lines) := by
  constructor
  · apply List.pairwise_lt_range.filterMap
    intro i j hlt warning hwarning next hnext
    obtain ⟨text, -, hnote⟩ := Option.bind_eq_some_iff.mp hwarning
    obtain ⟨text', -, hnote'⟩ := Option.bind_eq_some_iff.mp hnext
    rw [(note?_eq_some_iff.mp hnote).1, (note?_eq_some_iff.mp hnote').1]
    omega
  · intro warning
    simp only [warnings, List.mem_filterMap, warning?, Option.bind_eq_some_iff, note?_eq_some_iff]
    constructor
    · rintro ⟨i, -, text, htext, hnote⟩
      exact ⟨i, text, htext, hnote⟩
    · rintro ⟨i, text, htext, hnote⟩
      obtain ⟨hi, -⟩ := List.getElem?_eq_some_iff.mp htext
      exact ⟨i, List.mem_range.mpr hi, text, htext, hnote⟩

def Faulty (options : Options) (text : List Char) : Prop :=
  (∃ error, Statement.parseLine text = .error error) ∨
    ∃ statement, Statement.parseLine text = .ok (some statement) ∧
      ∃ cell ∈ statement.cells, ¬ (fresh options).contains cell

theorem fault?_eq_none_iff (options : Options) (text : List Char) :
    fault? options text = none ↔ ¬ Faulty options text := by
  unfold fault? Faulty
  cases Statement.parseLine text with
  | error error => simp
  | ok found =>
    cases found with
    | none => simp
    | some statement => simp [firstOutside?]

end Script

namespace CommandLine

def causes : StatementError → String
  | .missingAddress => "    'set' needs a cell address\n"
  | .badAddress name cause =>
    "    0: Invalid cell address '" ++ name ++ "'\n    1: " ++ cause.message ++ "\n"
  | .badColor text cause =>
    "    0: Invalid color '" ++ text ++ "'\n    1: " ++ cause.message ++ "\n"
  | .missingCells => "    'color' needs at least one cell address\n"
  | .unknown line => "    Unknown statement '" ++ line ++ "'\n"

def told (script : String) (warnings : List Script.Warning) : String :=
  String.join (warnings.map fun warning =>
    "Warning: " ++ script ++ ":" ++ toString warning.line ++ ": " ++ warning.error.message ++ "\n")

def tabulated (cells : List Cell) : String :=
  String.join (cells.map fun cell =>
    cell.address.name ++ "\t" ++ cell.text ++ "\t" ++ cell.value.getD "" ++ "\n")

/-- How a run may end, with its exit code and what it prints. -/
inductive Ends (enumerations : Nat → Graph.Enumeration) (script : String) (options : Options)
    (lines : List (List Char)) : Output → Prop
  | invalid {before rest : List (List Char)} {text : List Char} {error : StatementError}
    {warnings : List Script.Warning} (hlines : lines = before ++ text :: rest)
    (hbefore : ∀ earlier ∈ before, ¬ Script.Faulty options earlier)
    (herror : Statement.parseLine text = .error error)
    (hwarnings : Script.Noted enumerations options before warnings) :
    Ends enumerations script options lines ⟨1, "", told script warnings ++
      ("Error: " ++ script ++ ":" ++ toString (before.length + 1) ++
        ": invalid statement\n\nCaused by:\n" ++ causes error)⟩
  | outside {before rest : List (List Char)} {text : List Char} {statement : Statement}
    {cell : Address} {warnings : List Script.Warning} (hlines : lines = before ++ text :: rest)
    (hbefore : ∀ earlier ∈ before, ¬ Script.Faulty options earlier)
    (hstatement : Statement.parseLine text = .ok (some statement))
    (hcell : statement.cells.find? (fun cell => ! (fresh options).contains cell) = some cell)
    (hwarnings : Script.Noted enumerations options before warnings) :
    Ends enumerations script options lines ⟨1, "", told script warnings ++
      ("Error: " ++ script ++ ":" ++ toString (before.length + 1) ++ ": cell (" ++
        toString cell.row ++ ", " ++ toString cell.col ++ ") is outside the sheet\n")⟩
  | completed {printed : List Cell} {warnings : List Script.Warning}
    (hlines : ∀ text ∈ lines, ¬ Script.Faulty options text)
    (hwarnings : Script.Noted enumerations options lines warnings)
    (hordered : printed.Pairwise fun cell next => compare cell.address next.address = .lt)
    (hprinted : ∀ cell, cell ∈ printed ↔
      (Script.after enumerations options lines).cell? cell.address = some cell ∧ cell.text ≠ "") :
    Ends enumerations script options lines ⟨0, tabulated printed, told script warnings⟩

variable {enumerations : Nat → Graph.Enumeration} {script : String} {options : Options}
  {lines : List (List Char)} {output : Output}

theorem join_map_warningText (script : String) (warnings : List Script.Warning) :
    String.join (warnings.map (warningText script)) = told script warnings := by
  have hwarning : warningText script = fun warning : Script.Warning => "Warning: " ++ script ++
      ":" ++ toString warning.line ++ ": " ++ warning.error.message ++ "\n" := by
    funext warning
    simp only [warningText, place, String.append_assoc]
  rw [hwarning, told]

theorem report_invalid {error : StatementError} (h : ∀ message ∈ error.messages, OneLine message)
    (script : String) (line : Nat) :
    report (failureMessages script (.invalid line error)) =
      "Error: " ++ script ++ ":" ++ toString line ++ ": invalid statement\n\nCaused by:\n" ++
        causes error := by
  have hcause {cause : String} (hcause : OneLine cause) :
      report [place script line ++ "invalid statement", cause] = "Error: " ++ script ++ ":" ++
        toString line ++ ": invalid statement\n\nCaused by:\n" ++ ("    " ++ cause ++ "\n") := by
    rw [report_cause hcause]
    apply String.toList_inj.mp
    simp [place]
  have hcauses {first second : String} (hfirst : OneLine first) (hsecond : OneLine second) :
      report [place script line ++ "invalid statement", first, second] = "Error: " ++ script ++
        ":" ++ toString line ++ ": invalid statement\n\nCaused by:\n" ++
          ("    0: " ++ first ++ "\n    1: " ++ second ++ "\n") := by
    rw [report_causes hfirst hsecond]
    apply String.toList_inj.mp
    simp [place]
  cases error with
  | missingAddress | missingCells => exact hcause (h _ List.mem_cons_self)
  | unknown text =>
    obtain ⟨hunknown, -⟩ := List.forall_mem_cons.mp h
    apply (hcause hunknown).trans
    congr 1
    change _ = "    Unknown statement '" ++ text ++ "'\n"
    apply String.toList_inj.mp
    simp
  | badAddress name cause =>
    obtain ⟨hinvalid, hsecond⟩ := List.forall_mem_cons.mp h
    apply (hcauses hinvalid (hsecond _ List.mem_cons_self)).trans
    congr 1
    change _ = "    0: Invalid cell address '" ++ name ++ "'\n    1: " ++ cause.message ++ "\n"
    apply String.toList_inj.mp
    simp
  | badColor text cause =>
    obtain ⟨hinvalid, hsecond⟩ := List.forall_mem_cons.mp h
    apply (hcauses hinvalid (hsecond _ List.mem_cons_self)).trans
    congr 1
    change _ = "    0: Invalid color '" ++ text ++ "'\n    1: " ++ cause.message ++ "\n"
    apply String.toList_inj.mp
    simp

theorem report_refused (script : String) (line : Nat) (cell : Address) :
    report (failureMessages script (.refused line (.outOfBounds cell))) =
      "Error: " ++ script ++ ":" ++ toString line ++ ": cell (" ++ toString cell.row ++ ", " ++
        toString cell.col ++ ") is outside the sheet\n" := by
  apply String.toList_inj.mp
  simp [report, failureMessages, place, SheetError.message]

theorem ends_runScriptBy (enumerations : Nat → Graph.Enumeration) (script source : String)
    (options : Options) :
    Ends enumerations script options (Text.lines source.toList)
      (runScriptBy enumerations script source options) := by
  rcases Script.faultless_or_first options (Text.lines source.toList) with
    hnone | ⟨before, text, rest, fault, hlines, hbefore, hfault⟩
  · have hplaced := placed_of_evolves
      (Script.continues_after enumerations options (Text.lines source.toList)).evolves
    rw [runScriptBy, Script.runBy_of_fault?_none hnone]
    simp only [join_map_warningText]
    apply Ends.completed _ (Script.noted_warnings enumerations options _) (pairwise_written hplaced)
    · exact fun cell => mem_written_iff hplaced
    · exact fun text hmem => (Script.fault?_eq_none_iff options text).mp (hnone text hmem)
  · have hfaultless : ∀ earlier ∈ before, ¬ Script.Faulty options earlier :=
      fun earlier hmem => (Script.fault?_eq_none_iff options earlier).mp (hbefore earlier hmem)
    have hnoted := Script.noted_warnings enumerations options before
    rw [runScriptBy, Script.runBy_of_fault hlines hbefore hfault]
    simp only [join_map_warningText]
    rcases Script.of_fault? hfault with ⟨error, herror, rfl⟩ | ⟨statement, cell, hstatement, hcell, rfl⟩
    · have hmem : text ∈ Text.lines source.toList := by
        rw [hlines]
        exact List.mem_append_cons_self
      have hmessages := Statement.oneLine_of_parseLine (Text.not_mem_of_mem_lines hmem) herror
      rw [Script.Fault.onLine, report_invalid hmessages]
      exact .invalid hlines hfaultless herror hnoted
    · rw [Script.Fault.onLine, report_refused]
      exact .outside hlines hfaultless hstatement hcell hnoted

theorem Ends.exitCode_ne_zero_iff (h : Ends enumerations script options lines output) :
    output.exitCode ≠ 0 ↔ ∃ text ∈ lines, Script.Faulty options text := by
  have hone : (1 : UInt32) ≠ 0 := by decide
  cases h with
  | invalid hlines _ herror =>
    refine iff_of_true hone ⟨_, ?_, .inl ⟨_, herror⟩⟩
    rw [hlines]
    exact List.mem_append_cons_self
  | outside hlines _ hstatement hcell =>
    have houtside := List.find?_some hcell
    refine iff_of_true hone ⟨_, ?_, .inr ⟨_, hstatement, _, List.mem_of_find?_eq_some hcell, ?_⟩⟩
    · rw [hlines]
      exact List.mem_append_cons_self
    · simpa using houtside
  | completed hlines =>
    constructor
    · exact fun hcode => absurd rfl hcode
    · rintro ⟨text, hmem, hfaulty⟩
      exact absurd hfaulty (hlines text hmem)

theorem runScriptBy_fails_iff_faulty (enumerations : Nat → Graph.Enumeration)
    (script source : String) (options : Options) :
    ((runScriptBy enumerations script source options).exitCode ≠ 0 ↔
      ∃ text ∈ Text.lines source.toList, Script.Faulty options text) ∧
    Ends enumerations script options (Text.lines source.toList)
      (runScriptBy enumerations script source options) :=
  have h := ends_runScriptBy enumerations script source options
  ⟨h.exitCode_ne_zero_iff, h⟩

/-- On the cycle of the third and the fourth line, the last one is carried on in either order. -/
def entangled : String := "set A1 1\nset B1 5\nset C1 =A1+B1\nset B1 =A1+C1\nset A1 10"

theorem ends_goingBack :
    Ends (fun _ => .sorted) "cells" ⟨1, 2, none⟩
        (Text.lines "set A1 =B9\nset A1 2\nundo\nset B1 1\n".toList)
        ⟨0, "A1\t=B9\tREF ERROR\nB1\t1\t1\n",
          "Warning: cells:1: cell reference \"B9\" does not exist in this sheet\n" ++
            "Warning: cells:3: cell reference \"B9\" does not exist in this sheet\n"⟩ ∧
      Ends (fun _ => .sorted) "cells" ⟨1, 2, none⟩
        (Text.lines "set A1 =B9\nundo\nset B1 1\nset C1 1\nstop".toList)
        ⟨1, "", "Warning: cells:1: cell reference \"B9\" does not exist in this sheet\n" ++
          "Error: cells:4: cell (0, 2) is outside the sheet\n"⟩ ∧
      Ends (fun _ => .sorted) "cells" ⟨1, 2, none⟩
        (Text.lines "set A1 =B9\n\nset 1A x\nset A1 2".toList)
        ⟨1, "", "Warning: cells:1: cell reference \"B9\" does not exist in this sheet\n" ++
          "Error: cells:3: invalid statement\n\nCaused by:\n" ++
            "    0: Invalid cell address '1A'\n" ++
            "    1: Invalid cell address: no column letters in '1A'\n"⟩ ∧
      Ends (fun _ => .sorted) "cells" ⟨1, 3, none⟩ (Text.lines entangled.toList)
        ⟨0, "A1\t10\t10\nB1\t=A1+C1\t18\nC1\t=A1+B1\t28\n", ""⟩ ∧
      Ends (fun line => if line = 5 then Graph.Listing.reversed.enumeration else .sorted) "cells"
        ⟨1, 3, none⟩ (Text.lines entangled.toList)
        ⟨0, "A1\t10\t10\nB1\t=A1+C1\t27\nC1\t=A1+B1\t17\n", ""⟩ := by
  have hends {enumerations : Nat → Graph.Enumeration} {source : String} {options : Options}
      {output : Output} (h : runScriptBy enumerations "cells" source options = output) :
      Ends enumerations "cells" options (Text.lines source.toList) output :=
    h ▸ (runScriptBy_fails_iff_faulty enumerations "cells" source options).2
  refine ⟨hends ?_, hends ?_, hends ?_, hends ?_, hends ?_⟩ <;> decide +kernel

end CommandLine

end Worksheet
