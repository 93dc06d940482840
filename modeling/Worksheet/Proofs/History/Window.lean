import Mathlib.Data.List.Basic
import Mathlib.Data.List.Induction
import Mathlib.Data.List.TakeDrop
import Worksheet.History.Basic

/-!
A limited history beside an endless one, under the same calls. What can be undone in the limited one
is the newest part of what can be undone in the other. How large that part is depends on the calls
alone: it grows by one up to the limit and shrinks by one down to nothing.
-/

namespace Worksheet.History

inductive Call where
  | pushUndo (command : Command)
  | pushRedo (command : Command)
  | record (command : Command)
  | popUndo
  | popRedo
deriving DecidableEq, Repr

namespace Call

def next (call : Call) (history : History) : History :=
  match call with
  | pushUndo command => history.pushUndo command
  | pushRedo command => history.pushRedo command
  | record command => history.record command
  | popUndo => history.popUndo.2
  | popRedo => history.popRedo.2

def run (calls : List Call) (history : History) : History :=
  calls.foldl (fun history call => call.next history) history

theorem run_concat (calls : List Call) (call : Call) (history : History) :
    run (calls ++ [call]) history = call.next (run calls history) :=
  List.foldl_concat _ _ _ _

def reachFrom (limit reach : Nat) (call : Call) : Nat :=
  match call with
  | pushUndo _ | record _ => min limit (reach + 1)
  | popUndo => reach - 1
  | pushRedo _ | popRedo => reach

def reach (limit : Nat) (calls : List Call) : Nat := calls.foldl (reachFrom limit) 0

theorem reach_concat (limit : Nat) (calls : List Call) (call : Call) :
    reach limit (calls ++ [call]) = call.reachFrom limit (reach limit calls) :=
  List.foldl_concat _ _ _ _

end Call

theorem keep_cons_take (limit reach : Nat) (command : Command) (commands : List Command) :
    keep (some limit) (command :: commands.take reach) =
      (command :: commands).take (min limit (reach + 1)) := by
  rw [keep, ← List.take_succ_cons, List.take_take]

variable {limit reach : Nat} {limited endless : History}

structure Reaches (limit reach : Nat) (limited endless : History) : Prop where
  bounded : limited.limit = some limit
  unbounded : endless.limit = none
  le_limit : reach ≤ limit
  le_length : reach ≤ endless.undo.length
  undo : limited.undo = endless.undo.take reach
  redo : limited.redo = endless.redo

namespace Reaches

theorem pushUndo (h : Reaches limit reach limited endless) (command : Command) :
    Reaches limit (min limit (reach + 1)) (limited.pushUndo command)
      (endless.pushUndo command) := by
  have hlimited : (limited.pushUndo command).undo =
      (command :: endless.undo).take (min limit (reach + 1)) := by
    rw [History.pushUndo, h.bounded, h.undo, keep_cons_take]
  have hendless : (endless.pushUndo command).undo = command :: endless.undo := by
    rw [History.pushUndo, h.unbounded, keep]
  have hlength := h.le_length
  constructor
  · exact h.bounded
  · exact h.unbounded
  · omega
  · rw [hendless, List.length_cons]
    omega
  · rw [hlimited, hendless]
  · exact h.redo

theorem popUndo (h : Reaches limit reach limited endless) :
    Reaches limit (reach - 1) limited.popUndo.2 endless.popUndo.2 := by
  have hlimit := h.le_limit
  have hlength := h.le_length
  constructor
  · exact h.bounded
  · exact h.unbounded
  · omega
  · rw [History.popUndo, List.length_tail]
    omega
  · rw [History.popUndo, History.popUndo, h.undo, List.tail_take_eq_take_tail]
  · exact h.redo

theorem withRedo {redo other : List Command} (h : Reaches limit reach limited endless)
    (hredo : redo = other) :
    Reaches limit reach { limited with redo } { endless with redo := other } :=
  ⟨h.bounded, h.unbounded, h.le_limit, h.le_length, h.undo, hredo⟩

theorem next (h : Reaches limit reach limited endless) (call : Call) :
    Reaches limit (call.reachFrom limit reach) (call.next limited) (call.next endless) := by
  cases call with
  | pushUndo command => exact h.pushUndo command
  | pushRedo command => exact h.withRedo (congrArg (command :: ·) h.redo)
  | record command => exact (h.pushUndo command).withRedo rfl
  | popUndo => exact h.popUndo
  | popRedo => exact h.withRedo (congrArg List.tail h.redo)

theorem head?_undo (h : Reaches limit reach limited endless) :
    limited.undo.head? = if reach = 0 then none else endless.undo.head? := by
  rw [h.undo, List.head?_take]

theorem undoCount_eq (h : Reaches limit reach limited endless) : limited.undoCount = reach := by
  rw [undoCount, h.undo, List.length_take_of_le h.le_length]

end Reaches

theorem reaches_run (limit : Nat) (calls : List Call) :
    Reaches limit (Call.reach limit calls) (Call.run calls (empty (some limit)))
      (Call.run calls (empty none)) := by
  induction calls using List.reverseRecOn with
  | nil => exact ⟨rfl, rfl, Nat.zero_le limit, Nat.zero_le _, rfl, rfl⟩
  | append_singleton calls call ih =>
    rw [Call.reach_concat, Call.run_concat, Call.run_concat]
    exact ih.next call

/-- The newest commands come first, so that the newest part of a stack is a prefix of it. -/
structure Window (limit reach : Nat) (limited endless : History) : Prop where
  bounded : limited.undoCount ≤ limit
  filled : limited.undoCount = reach
  recent : limited.undo <+: endless.undo
  redo : limited.redo = endless.redo
  popped : limited.popUndo.1 = endless.popUndo.1 ∨ limited.popUndo.1 = none
  exhausted : limited.popUndo.1 = none ↔ limited.undo = []

theorem window_run (limit : Nat) (calls : List Call) :
    Window limit (Call.reach limit calls) (Call.run calls (empty (some limit)))
      (Call.run calls (empty none)) := by
  have h := reaches_run limit calls
  constructor
  · rw [h.undoCount_eq]
    exact h.le_limit
  · exact h.undoCount_eq
  · rw [h.undo]
    exact List.take_prefix _ _
  · exact h.redo
  · rw [popUndo, popUndo, h.head?_undo]
    split
    · exact .inr rfl
    · exact .inl rfl
  · exact List.head?_eq_none_iff

-- A limit of one has let go of the older command, and the newer one is undone already.
example :
    let calls : List Call :=
      [.pushUndo (.text ⟨0, 0⟩ "old"), .record (.text ⟨0, 0⟩ "new"), .popUndo]
    (Call.run calls (empty (some 1))).popUndo.1 = none ∧
      (Call.run calls (empty none)).popUndo.1 = some (.text ⟨0, 0⟩ "old") := by
  decide

end Worksheet.History
